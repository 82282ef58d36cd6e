import Mathlib.Logic.Relation
import Availability.Proofs.Audit.Underway

namespace Availability

structure Pledge where
  shardDoubleHashes : List Digest
  parityShardCount : UInt64
deriving DecidableEq

def Record.pledge (record : Record) : Pledge := ⟨record.shardDoubleHashes, record.parityShardCount⟩

def Publication.pledge (publication : Publication) : Pledge :=
  ⟨publication.shardDoubleHashes, publication.parityShardCount⟩

namespace Audit

open Program (Path)

def Task.pledge (task : Task) : Pledge := ⟨task.shardDoubleHashes, task.parityShardCount⟩

/-- What was performed, in order, each time by one of several audits or by somebody else. -/
abbrev Log := List (Option Nat × Event)

namespace Log

def events (log : Log) : Transcript := log.map (·.2)

def heard (log : Log) (index : Nat) : Transcript :=
  log.filterMap fun entry => if entry.1 = some index then some entry.2 else none

variable (log : Log) (index : Nat) (heard : Transcript)

theorem mem_heard {event : Event} : event ∈ log.heard index ↔ (some index, event) ∈ log := by
  simp [Log.heard]

theorem heard_subset : log.heard index ⊆ log.events := by
  intro event member
  exact List.mem_map_of_mem (mem_heard log index |>.mp member)

theorem events_append (party : Option Nat) : Log.events (log ++ heard.map (party, ·)) = log.events ++ heard := by
  simp [Log.events]

theorem heard_append_self : Log.heard (log ++ heard.map (some index, ·)) index = log.heard index ++ heard := by
  simp [Log.heard, List.filterMap_append, List.filterMap_map]

theorem heard_append_ne {party : Option Nat} (other : party ≠ some index) :
    Log.heard (log ++ heard.map (party, ·)) index = log.heard index := by
  simp [Log.heard, List.filterMap_append, List.filterMap_map, other]

/-- Whoever takes part is where it is by what it has heard since it began. -/
structure Follows {ι α : Type} (first now : ι → Program α) (parties : List ι) (log : Log) : Prop where
  paths : ∀ index party, parties[index]? = some party → Path (first party) (log.heard index) (now party)
  unopened : ∀ index, parties[index]? = none → log.heard index = []

variable {log index heard} {ι α : Type} {first now : ι → Program α} {parties : List ι}

theorem follows_nil : Follows first now [] [] := ⟨by simp, by simp [Log.heard]⟩

theorem Follows.opens (follows : Follows first now parties log) {party : ι} (starts : now party = first party) :
    Follows first now (parties ++ [party]) log := by
  obtain ⟨paths, unopened⟩ := follows
  constructor
  · intro index other here
    by_cases known : index < parties.length
    · rw [List.getElem?_append_left known] at here
      exact paths index other here
    · have silent := unopened index (List.getElem?_eq_none (by omega))
      rw [List.getElem?_append_right (by omega), List.getElem?_singleton] at here
      split at here
      · cases here
        rw [silent, starts]
        exact .refl _
      · cases here
  · intro index outside
    apply unopened index
    rw [List.getElem?_eq_none_iff, List.length_append] at outside
    exact List.getElem?_eq_none (by omega)

theorem Follows.acts (follows : Follows first now parties log) {party next : ι} (here : parties[index]? = some party)
    (taken : Program.Step (now party) heard (now next)) (same : first next = first party) :
    Follows first now (parties.set index next) (log ++ heard.map (some index, ·)) := by
  obtain ⟨paths, unopened⟩ := follows
  have inside := (List.getElem?_eq_some_iff.mp here).1
  constructor
  · intro other later there
    by_cases own : index = other
    · subst own
      rw [List.getElem?_set_self inside] at there
      cases there
      rw [heard_append_self, same]
      exact (paths index party here).snoc taken
    · rw [List.getElem?_set_ne own] at there
      rw [heard_append_ne _ _ _ (by simpa using own)]
      exact paths other later there
  · intro other outside
    have apart : index ≠ other := by
      rintro rfl
      simp [inside] at outside
    rw [List.getElem?_set_ne apart] at outside
    rw [heard_append_ne _ _ _ (by simpa using apart)]
    exact unopened other outside

theorem Follows.others (follows : Follows first now parties log) (heard : Transcript) :
    Follows first now parties (log ++ heard.map (none, ·)) := by
  have same (index : Nat) : Log.heard (log ++ heard.map (none, ·)) index = log.heard index :=
    log.heard_append_ne index heard (by simp)
  constructor
  · intro index party here
    rw [same]
    exact follows.paths index party here
  · intro index outside
    rw [same]
    exact follows.unopened index outside

theorem run_of_path {σ : Type} {Moves : σ → σ → Prop} {env : Environment World} {party : Option Nat}
    (place : Program α → World → Log → σ)
    (moves : ∀ {program next : Program α} {heard : Transcript} {world after : World} {log : Log},
      Program.Step program heard next → Plays env heard world after →
        Relation.ReflTransGen Moves (place program world log) (place next after (log ++ heard.map (party, ·))))
    {program last : Program α} {heard : Transcript} {world after : World} (path : Path program heard last)
    (plays : Plays env heard world after) (log : Log) :
    Relation.ReflTransGen Moves (place program world log) (place last after (log ++ heard.map (party, ·))) := by
  induction path generalizing world log with
  | refl program =>
    cases plays
    rw [List.map_nil, List.append_nil]
  | step taken others ih =>
    obtain ⟨between, acted, rest⟩ := plays.of_append
    rw [List.map_append, ← List.append_assoc]
    exact (moves taken acted).trans (ih rest _)

end Log

structure Ongoing where
  task : Task
  rest : Program (Except Error Outcome)

structure Docket where
  world : World
  audits : List Ongoing := []
  log : Log := []

/-- What may happen to a world apart from operations, as long as the chain forgets nothing it was told: objects come
and go, calls start or cease to fail, records change their status. -/
structure Drift (before after : World) : Prop where
  proofs : after.ledger.validityProofs = before.ledger.validityProofs
  pledges : ∀ uri, (after.ledger.published.get? uri).map Record.pledge =
    (before.ledger.published.get? uri).map Record.pledge

theorem Drift.refl (world : World) : Drift world world := ⟨rfl, fun _ => rfl⟩

namespace Docket

/-- An audit starts or goes on by one step, somebody else performs an operation, or the world changes by itself. -/
inductive Step (auditor : Auditor) : Docket → Docket → Prop where
  | opens (docket : Docket) (task : Task) :
      Step auditor docket { docket with audits := docket.audits ++ [⟨task, (audit auditor task).run⟩] }
  | acts {docket : Docket} {index : Nat} {ongoing : Ongoing} {heard : Transcript}
      {rest : Program (Except Error Outcome)} {after : World} (here : docket.audits[index]? = some ongoing)
      (taken : Program.Step ongoing.rest heard rest)
      (plays : Plays (World.environment World.inOrder) heard docket.world after) :
      Step auditor docket
        ⟨after, docket.audits.set index ⟨ongoing.task, rest⟩, docket.log ++ heard.map (some index, ·)⟩
  | others {docket : Docket} {operation : Operation} {answer : operation.Answer} {after : World}
      (performed : docket.world.perform operation = (answer, after)) :
      Step auditor docket ⟨after, docket.audits, docket.log ++ [(none, ⟨operation, answer⟩)]⟩
  | drifts {docket : Docket} {after : World} (drift : Drift docket.world after) :
      Step auditor docket { docket with world := after }

abbrev Run (auditor : Auditor) : Docket → Docket → Prop := Relation.ReflTransGen (Step auditor)

variable {auditor : Auditor} {start docket next : Docket}

theorem Step.other (auditor : Auditor) (docket : Docket) (operation : Operation) :
    Step auditor docket ⟨(docket.world.perform operation).2, docket.audits,
      docket.log ++ [(none, ⟨operation, (docket.world.perform operation).1⟩)]⟩ := .others rfl

theorem Step.moves (step : Step auditor docket next) :
    (next.log = docket.log ∧ Drift docket.world next.world) ∨ ∃ party event,
      next.log = docket.log ++ [(party, event)] ∧
        docket.world.perform event.operation = (event.answer, next.world) := by
  cases step with
  | opens task => exact .inl ⟨rfl, .refl _⟩
  | drifts drift => exact .inl ⟨rfl, drift⟩
  | others performed => exact .inr ⟨none, ⟨_, _⟩, rfl, performed⟩
  | acts here taken plays =>
    rcases taken.label with rfl | ⟨event, rfl⟩
    · cases plays
      exact .inl ⟨List.append_nil _, .refl _⟩
    · cases plays with
      | step performed rest =>
        cases rest
        exact .inr ⟨_, _, rfl, performed⟩

theorem run_of_path (docket : Docket) (index : Nat) {task : Task} {program last : Program (Except Error Outcome)}
    {heard : Transcript} {after : World} (here : docket.audits[index]? = some ⟨task, program⟩)
    (path : Path program heard last) (plays : Plays (World.environment World.inOrder) heard docket.world after) :
    Run auditor docket ⟨after, docket.audits.set index ⟨task, last⟩, docket.log ++ heard.map (some index, ·)⟩ := by
  obtain ⟨inside, found⟩ := List.getElem?_eq_some_iff.mp here
  let place (program : Program (Except Error Outcome)) (world : World) (log : Log) : Docket :=
    ⟨world, docket.audits.set index ⟨task, program⟩, log⟩
  have moves {program next : Program (Except Error Outcome)} {heard : Transcript} {world after : World} {log : Log}
      (taken : Program.Step program heard next) (plays : Plays (World.environment World.inOrder) heard world after) :
      Run auditor (place program world log) (place next after (log ++ heard.map (some index, ·))) := by
    have step : Step auditor (place program world log) _ := .acts (List.getElem?_set_self inside) taken plays
    simp only [place, List.set_set] at step ⊢
    exact .single step
  have run := Log.run_of_path place moves path plays docket.log
  have start : place program docket.world docket.log = docket := by
    simp only [place, ← found, List.set_getElem_self]
  rwa [start] at run

def tasks (docket : Docket) : List Task := docket.audits.map Ongoing.task

theorem tasks_set {index : Nat} {ongoing : Ongoing} (here : docket.audits[index]? = some ongoing)
    (rest : Program (Except Error Outcome)) :
    (docket.audits.set index ⟨ongoing.task, rest⟩).map Ongoing.task = docket.tasks := by
  obtain ⟨inside, found⟩ := List.getElem?_eq_some_iff.mp here
  rw [List.map_set, ← found, ← List.getElem_map Ongoing.task]
  exact List.set_getElem_self (by simpa using inside)

theorem Step.tasks (step : Step auditor docket next) : docket.tasks <+: next.tasks := by
  cases step with
  | opens task => simp [Docket.tasks]
  | acts here taken plays =>
    change _ <+: (docket.audits.set _ _).map Ongoing.task
    rw [tasks_set here]
  | others | drifts => exact List.prefix_rfl

theorem Run.task (run : Run auditor docket next) {index : Nat} {task : Task}
    (here : docket.tasks[index]? = some task) : next.tasks[index]? = some task := by
  induction run with
  | refl => exact here
  | tail _ step ih =>
    obtain ⟨more, grown⟩ := step.tasks
    rw [← grown, List.getElem?_append_left (List.getElem?_eq_some_iff.mp ih).1]
    exact ih

theorem Run.entry (run : Run auditor start docket) (fresh : start.log = []) {earlier : Log} {party : Option Nat}
    {event : Event} (within : earlier ++ [(party, event)] <+: docket.log) :
    ∃ before after, Run auditor start before ∧ Step auditor before after ∧ Run auditor after docket ∧
      before.log = earlier ∧ after.log = earlier ++ [(party, event)] ∧
        before.world.perform event.operation = (event.answer, after.world) := by
  induction run with
  | refl =>
    rw [fresh] at within
    simp at within
  | @tail between docket run step ih =>
    have before (within : earlier ++ [(party, event)] <+: between.log) :
        ∃ before after, Run auditor start before ∧ Step auditor before after ∧ Run auditor after docket ∧
          before.log = earlier ∧ after.log = earlier ++ [(party, event)] ∧
            before.world.perform event.operation = (event.answer, after.world) := by
      obtain ⟨before, after, first, taken, rest, found⟩ := ih within
      exact ⟨before, after, first, taken, rest.tail step, found⟩
    rcases step.moves with ⟨same, -⟩ | ⟨other, last, grown, performed⟩
    · exact before (same ▸ within)
    · rw [grown, List.prefix_concat_iff] at within
      rcases within with whole | within
      · obtain ⟨rfl, here⟩ := List.append_inj' whole rfl
        cases List.singleton_inj.mp here
        exact ⟨between, docket, run, step, .refl, rfl, grown, performed⟩
      · exact before within

abbrev Followed (auditor : Auditor) (docket : Docket) : Prop :=
  docket.log.Follows (fun ongoing => (audit auditor ongoing.task).run) Ongoing.rest docket.audits

theorem Followed.step (followed : Followed auditor docket) (step : Step auditor docket next) :
    Followed auditor next := by
  cases step with
  | opens task => exact followed.opens rfl
  | drifts drift => exact followed
  | @others operation answer after performed => exact followed.others [⟨operation, answer⟩]
  | acts here taken plays => exact followed.acts here taken rfl

theorem Run.followed (run : Run auditor start docket) (fresh : start.log = []) (idle : start.audits = []) :
    Followed auditor docket := by
  induction run with
  | refl =>
    unfold Followed
    rw [fresh, idle]
    exact Log.follows_nil
  | tail _ step ih => exact ih.step step

theorem Run.underway (run : Run auditor start docket) (fresh : start.log = []) (idle : start.audits = [])
    {earlier : Log} {index : Nat} {event : Event} (within : earlier ++ [(some index, event)] <+: docket.log) :
    ∃ task, docket.tasks[index]? = some task ∧ Underway auditor task (earlier.heard index ++ [event]) := by
  obtain ⟨before, after, first, step, rest, rfl, grown, performed⟩ := run.entry fresh within
  have followed := Run.followed (first.tail step) fresh idle
  have heard : after.log.heard index = before.log.heard index ++ [event] := by
    rw [grown]
    exact before.log.heard_append_self index [event]
  cases here : after.audits[index]? with
  | none =>
    have silent := followed.unopened index here
    rw [heard] at silent
    simp at silent
  | some ongoing =>
    have path := followed.paths index ongoing here
    rw [heard] at path
    have named : after.tasks[index]? = some ongoing.task := by simp [Docket.tasks, here]
    exact ⟨ongoing.task, Run.task rest named, underway_of_path path⟩

end Docket

end Audit

end Availability
