import Availability.Watcher
import Mathlib.Logic.Relation

namespace Availability.Watcher

theorem confirmed_iff (settings : Settings) (height head : UInt64) :
    confirmed settings height head = true ↔ height.toNat + settings.confirmationDelay.toNat < head.toNat := by
  have bound := head.toNat_lt
  unfold confirmed
  rw [decide_eq_true_iff, UInt64.lt_iff_toNat_lt, Word.toNat_saturatingAdd]
  simp only [UInt64.size]
  omega

theorem toNat_succ_of_confirmed {settings : Settings} {height head : UInt64}
    (late : confirmed settings height head = true) : (height + 1).toNat = height.toNat + 1 := by
  have below := (confirmed_iff settings height head).mp late
  have bound := head.toNat_lt
  have one : (1 : UInt64).toNat = 1 := rfl
  rw [UInt64.toNat_add, one]
  omega

abbrev History := List (UInt64 × Message)

namespace History

def Ascending (history : History) : Prop := history.Pairwise fun earlier later => earlier.1 ≤ later.1

def tasks (history : History) (p : UInt64 → Bool) : List Audit.Task :=
  (history.filter fun entry => p entry.1).filterMap fun entry => Audit.Task.ofMessage? entry.2

def tasksBetween (history : History) (low high : UInt64) : List Audit.Task :=
  history.tasks fun height => low ≤ height && height < high

theorem tasks_append (history added : History) (p : UInt64 → Bool) :
    tasks (history ++ added) p = history.tasks p ++ added.tasks p := by
  simp only [tasks, List.filter_append, List.filterMap_append]

theorem tasks_eq_nil {history : History} {p : UInt64 → Bool} (outside : ∀ entry ∈ history, p entry.1 = false) :
    history.tasks p = [] := by
  have none : history.filter (fun entry => p entry.1) = [] := by
    rw [List.filter_eq_nil_iff]
    intro entry member
    simp [outside entry member]
  rw [tasks, none, List.filterMap_nil]

theorem filter_or {history : History} (ascending : history.Ascending) {p q : UInt64 → Bool}
    (apart : ∀ low high, p low = true → q high = true → low < high) :
    history.filter (fun entry => p entry.1 || q entry.1) =
      history.filter (fun entry => p entry.1) ++ history.filter (fun entry => q entry.1) := by
  induction history with
  | nil => rfl
  | cons entry rest ih =>
    obtain ⟨later, ascending⟩ := List.pairwise_cons.mp ascending
    by_cases first : p entry.1 = true
    · have notSecond : q entry.1 = false := by
        rw [Bool.eq_false_iff]
        intro second
        exact UInt64.lt_irrefl _ (apart _ _ first second)
      simp [first, notSecond, ih ascending]
    · by_cases second : q entry.1 = true
      · have rest_nil : rest.filter (fun entry => p entry.1) = [] := by
          rw [List.filter_eq_nil_iff]
          intro other member earlier
          exact UInt64.not_lt.mpr (later other member) (apart _ _ earlier second)
        have joined := ih ascending
        rw [rest_nil] at joined
        simp [first, second, joined, rest_nil]
      · simp [first, second, ih ascending]

theorem tasksBetween_self (history : History) (height : UInt64) : history.tasksBetween height height = [] := by
  refine tasks_eq_nil fun entry _ => ?_
  simp only [Bool.and_eq_false_iff, decide_eq_false_iff_not, UInt64.not_le, UInt64.not_lt]
  exact UInt64.lt_or_le entry.1 height

theorem tasksBetween_append_of_outside {history added : History} {low high : UInt64}
    (outside : ∀ entry ∈ added, ¬ (low ≤ entry.1 ∧ entry.1 < high)) :
    tasksBetween (history ++ added) low high = history.tasksBetween low high := by
  have none : added.tasksBetween low high = [] := by
    refine tasks_eq_nil fun entry member => ?_
    simpa using outside entry member
  rw [tasksBetween, tasks_append]
  change _ ++ added.tasksBetween low high = _
  rw [none, List.append_nil]
  rfl

theorem tasksBetween_succ {history : History} (ascending : history.Ascending) {low high : UInt64}
    (ordered : low ≤ high) (room : (high + 1).toNat = high.toNat + 1) :
    history.tasksBetween low (high + 1) = history.tasksBetween low high ++ history.tasks (· == high) := by
  have split : (fun height => decide (low ≤ height) && decide (height < high + 1)) =
      fun height => (decide (low ≤ height) && decide (height < high)) || height == high := by
    funext height
    rw [Bool.eq_iff_iff]
    simp only [Bool.and_eq_true, Bool.or_eq_true, decide_eq_true_eq, beq_iff_eq, UInt64.le_iff_toNat_le,
      UInt64.lt_iff_toNat_lt, ← UInt64.toNat_inj, room] at ordered ⊢
    omega
  have apart : ∀ earlier later, (decide (low ≤ earlier) && decide (earlier < high)) = true →
      (later == high) = true → earlier < later := by
    intro earlier later before same
    simp only [Bool.and_eq_true, decide_eq_true_eq, beq_iff_eq] at before same
    exact same ▸ before.2
  rw [tasksBetween, split, tasks, filter_or ascending apart, List.filterMap_append]
  rfl

end History

/-- A watched chain whose head is read in one step and whose blocks are scanned in one step each. -/
structure Scan where
  height : UInt64
  history : History := []
  heads : List UInt64 := []
  next : Option UInt64
  audits : List Audit.Task := []
  ticks : Nat := 0

namespace Scan

inductive Move (settings : Settings) : Scan → Scan → Prop
  | publish (scan : Scan) (message : Message) :
    Move settings scan { scan with history := scan.history ++ [(scan.height, message)] }
  | rise (scan : Scan) (height : UInt64) (above : scan.height ≤ height) : Move settings scan { scan with height }
  | look (scan : Scan) :
    Move settings scan
      { scan with heads := scan.heads ++ [scan.height], next := some (scan.next.getD scan.height) }
  | pass (scan : Scan) (next : UInt64) (chosen : scan.next = some next)
      (early : confirmed settings next scan.height = false) :
    Move settings scan { scan with ticks := scan.ticks + 1 }
  | scan (scan : Scan) (next : UInt64) (chosen : scan.next = some next)
      (late : confirmed settings next scan.height = true) :
    Move settings scan
      { scan with
        next := some (next + 1), audits := scan.audits ++ scan.history.tasks (· == next), ticks := scan.ticks + 1 }

def start? (settings : Settings) (scan : Scan) : Option UInt64 := settings.startHeight.or scan.heads.head?

/-- The audits are those of the blocks from the first one up to the next one, and these blocks are complete. -/
structure Covered (settings : Settings) (scan : Scan) : Prop where
  ascending : scan.history.Ascending
  reached : ∀ entry ∈ scan.history, entry.1 ≤ scan.height
  unset : scan.next = none → scan.start? settings = none ∧ scan.audits = [] ∧ scan.ticks = 0
  covered : ∀ next, scan.next = some next → ∃ start, scan.start? settings = some start ∧ start ≤ next ∧
    (next = start ∨ next ≤ scan.height) ∧ scan.audits = scan.history.tasksBetween start next

variable {settings : Settings} {before after : Scan}

theorem ascending_concat {history : History} {height : UInt64} (ascending : history.Ascending)
    (reached : ∀ entry ∈ history, entry.1 ≤ height) (message : Message) :
    History.Ascending (history ++ [(height, message)]) := by
  rw [History.Ascending, List.pairwise_append]
  refine ⟨ascending, List.pairwise_singleton _ _, ?_⟩
  intro earlier member later last
  rw [List.mem_singleton.mp last]
  exact reached earlier member

theorem not_scanned {start next height : UInt64} (complete : next = start ∨ next ≤ height) :
    ¬ (start ≤ height ∧ height < next) := by
  rintro ⟨low, high⟩
  rcases complete with rfl | complete
  · exact UInt64.not_lt.mpr low high
  · exact UInt64.not_lt.mpr complete high

theorem covered_initial (settings : Settings) (height : UInt64) :
    Covered settings { height, next := settings.startHeight } where
  ascending := List.Pairwise.nil
  reached := by
    intro entry member
    cases member
  unset := by
    intro absent
    change settings.startHeight = none at absent
    refine ⟨?_, rfl, rfl⟩
    change settings.startHeight.or none = none
    rw [absent]
    rfl
  covered := by
    intro next chosen
    change settings.startHeight = some next at chosen
    refine ⟨next, ?_, UInt64.le_refl _, Or.inl rfl, rfl⟩
    change settings.startHeight.or none = some next
    rw [chosen]
    rfl

theorem start?_look (heads : List UInt64) (height start : UInt64)
    (found : settings.startHeight.or heads.head? = some start) :
    settings.startHeight.or (heads ++ [height]).head? = some start := by
  rw [List.head?_append, ← Option.or_assoc, found, Option.some_or]

theorem Covered.publish (complete : before.Covered settings) (message : Message) :
    Covered settings { before with history := before.history ++ [(before.height, message)] } where
  ascending := ascending_concat complete.ascending complete.reached message
  reached := by
    intro entry member
    rcases List.mem_append.mp member with old | last
    · exact complete.reached entry old
    · rw [List.mem_singleton.mp last]
      exact UInt64.le_refl _
  unset := complete.unset
  covered := by
    intro next chosen
    obtain ⟨start, found, ordered, ready, audits⟩ := complete.covered next chosen
    refine ⟨start, found, ordered, ready, ?_⟩
    have outside : ∀ entry ∈ [(before.height, message)], ¬ (start ≤ entry.1 ∧ entry.1 < next) := by
      intro entry last
      rw [List.mem_singleton.mp last]
      exact not_scanned ready
    rw [History.tasksBetween_append_of_outside outside]
    exact audits

theorem Covered.rise (complete : before.Covered settings) {height : UInt64} (above : before.height ≤ height) :
    Covered settings { before with height } where
  ascending := complete.ascending
  reached := fun entry member => UInt64.le_trans (complete.reached entry member) above
  unset := complete.unset
  covered := by
    intro next chosen
    obtain ⟨start, found, ordered, ready, audits⟩ := complete.covered next chosen
    exact ⟨start, found, ordered, ready.imp_right fun below => UInt64.le_trans below above, audits⟩

theorem Covered.look (complete : before.Covered settings) :
    Covered settings
      { before with heads := before.heads ++ [before.height], next := some (before.next.getD before.height) } where
  ascending := complete.ascending
  reached := complete.reached
  unset := by
    intro absent
    cases absent
  covered := by
    intro next chosen
    cases position : before.next with
    | none =>
      rw [position, Option.getD_none] at chosen
      obtain rfl := Option.some.inj chosen
      obtain ⟨unset, audits, -⟩ := complete.unset position
      refine ⟨before.height, ?_, UInt64.le_refl _, Or.inl rfl, ?_⟩
      · change settings.startHeight.or (before.heads ++ [before.height]).head? = _
        rw [List.head?_append, ← Option.or_assoc]
        change (before.start? settings).or _ = _
        rw [unset]
        rfl
      · rw [History.tasksBetween_self]
        exact audits
    | some current =>
      rw [position, Option.getD_some] at chosen
      obtain rfl := Option.some.inj chosen
      obtain ⟨start, found, ordered, ready, audits⟩ := complete.covered current position
      exact ⟨start, start?_look _ _ _ found, ordered, ready, audits⟩

theorem Covered.pass (complete : before.Covered settings) {next : UInt64} (chosen : before.next = some next) :
    Covered settings { before with ticks := before.ticks + 1 } where
  ascending := complete.ascending
  reached := complete.reached
  unset := by
    intro absent
    change before.next = none at absent
    rw [chosen] at absent
    cases absent
  covered := complete.covered

theorem Covered.scan (complete : before.Covered settings) {next : UInt64} (chosen : before.next = some next)
    (late : confirmed settings next before.height = true) :
    Covered settings
      { before with
        next := some (next + 1), audits := before.audits ++ before.history.tasks (· == next),
        ticks := before.ticks + 1 } where
  ascending := complete.ascending
  reached := complete.reached
  unset := by
    intro absent
    cases absent
  covered := by
    intro following advanced
    obtain rfl := Option.some.inj advanced
    obtain ⟨start, found, ordered, -, audits⟩ := complete.covered next chosen
    have room := toNat_succ_of_confirmed late
    have below := (confirmed_iff settings next before.height).mp late
    refine ⟨start, found, ?_, Or.inr ?_, ?_⟩
    · rw [UInt64.le_iff_toNat_le] at ordered ⊢
      omega
    · rw [UInt64.le_iff_toNat_le]
      change (next + 1).toNat ≤ before.height.toNat
      omega
    · rw [History.tasksBetween_succ complete.ascending ordered room, ← audits]

theorem Covered.move (complete : before.Covered settings) (move : Move settings before after) :
    after.Covered settings := by
  cases move with
  | publish message => exact complete.publish message
  | rise height above => exact complete.rise above
  | look => exact complete.look
  | pass next chosen early => exact complete.pass chosen
  | scan next chosen late => exact complete.scan chosen late

theorem Covered.run (complete : before.Covered settings) (run : Relation.ReflTransGen (Move settings) before after) :
    after.Covered settings := by
  induction run with
  | refl => exact complete
  | tail _ move ih => exact ih.move move

theorem height_le_of_run (run : Relation.ReflTransGen (Move settings) before after) :
    before.height ≤ after.height := by
  induction run with
  | refl => exact UInt64.le_refl _
  | tail _ move ih =>
    cases move with
    | rise height above => exact UInt64.le_trans ih above
    | publish | look | pass | scan => exact ih

theorem history_of_run (run : Relation.ReflTransGen (Move settings) before after) :
    ∃ added, after.history = before.history ++ added ∧ ∀ entry ∈ added, before.height ≤ entry.1 := by
  induction run with
  | refl => exact ⟨[], (List.append_nil _).symm, fun _ member => by cases member⟩
  | @tail middle _ run move ih =>
    obtain ⟨added, extended, above⟩ := ih
    cases move with
    | publish message =>
      refine ⟨added ++ [(middle.height, message)], ?_, ?_⟩
      · rw [← List.append_assoc, ← extended]
      · intro entry member
        rcases List.mem_append.mp member with old | last
        · exact above entry old
        · rw [List.mem_singleton.mp last]
          exact height_le_of_run run
    | rise | look | pass | scan => exact ⟨added, extended, above⟩

theorem next_of_steady {next : UInt64} (run : Relation.ReflTransGen (Move settings) before after)
    (chosen : before.next = some next) (steady : after.height = before.height) :
    ∃ count reached, after.ticks = before.ticks + count ∧ after.next = some reached ∧
      reached.toNat = min (next.toNat + count)
        (max next.toNat (before.height.toNat - settings.confirmationDelay.toNat)) := by
  induction run with
  | refl => exact ⟨0, next, rfl, chosen, by omega⟩
  | @tail middle last run move ih =>
    have same : middle.height = before.height := by
      refine UInt64.le_antisymm ?_ (height_le_of_run run)
      rw [← steady]
      exact height_le_of_run (Relation.ReflTransGen.single move)
    obtain ⟨count, reached, ticks, current, position⟩ := ih same
    cases move with
    | publish | rise => exact ⟨count, reached, ticks, current, position⟩
    | look =>
      refine ⟨count, reached, ticks, ?_, position⟩
      change some (middle.next.getD middle.height) = some reached
      rw [current, Option.getD_some]
    | pass here chosen early =>
      obtain rfl := Option.some.inj (current.symm.trans chosen)
      have unconfirmed : ¬ confirmed settings reached middle.height = true := by simp [early]
      rw [confirmed_iff, same] at unconfirmed
      refine ⟨count + 1, reached, ?_, current, ?_⟩
      · change middle.ticks + 1 = _
        rw [ticks, Nat.add_assoc]
      · omega
    | scan here chosen late =>
      obtain rfl := Option.some.inj (current.symm.trans chosen)
      have below := (confirmed_iff settings reached middle.height).mp late
      rw [same] at below
      have room := toNat_succ_of_confirmed late
      refine ⟨count + 1, reached + 1, ?_, rfl, ?_⟩
      · change middle.ticks + 1 = _
        rw [ticks, Nat.add_assoc]
      · omega

end Scan

end Availability.Watcher
