import Availability.Proofs.Watcher.Scan
import Availability.Proofs.World

namespace Availability

namespace Watcher

abbrev Ticked := Watcher × Except Chain.Error (List Audit.Task)

def aimed (watcher : Watcher) (head : UInt64) : Watcher :=
  { watcher with
    phase := .scanning
    next := some (watcher.next.getD head)
    shown := if watcher.next.isSome then watcher.shown else some head }

theorem aim_eq (watcher : Watcher) (head : UInt64) :
    aim { watcher with phase := .scanning } head = watcher.aimed head := by
  obtain ⟨settings, phase, next, shown⟩ := watcher
  cases next <;> rfl

def afterBlock (watcher : Watcher) (height : UInt64) : Except Chain.Error (List Message) → Program Ticked
  | .error err => .done (watcher, .error err)
  | .ok messages =>
    .done (watcher.advance (height + 1), .ok (messages.filterMap Audit.Task.ofMessage?))

def afterHead (watcher : Watcher) : Except Chain.Error UInt64 → Program Ticked
  | .error err => .done ({ watcher with phase := .scanning }, .error err)
  | .ok head =>
    let height := watcher.next.getD head
    if !confirmed watcher.settings height head then .done (watcher.aimed head, .ok [])
    else .perform (.chain (.blockMessages height)) (afterBlock (watcher.aimed head) height)

theorem afterHead_early {watcher : Watcher} {head : UInt64}
    (early : confirmed watcher.settings (watcher.next.getD head) head = false) :
    watcher.afterHead (.ok head) = .done (watcher.aimed head, .ok []) := by
  simp [afterHead, early]

theorem afterHead_late {watcher : Watcher} {head : UInt64}
    (late : confirmed watcher.settings (watcher.next.getD head) head = true) :
    watcher.afterHead (.ok head) =
      .perform (.chain (.blockMessages (watcher.next.getD head)))
        (afterBlock (watcher.aimed head) (watcher.next.getD head)) := by
  simp [afterHead, late]

theorem tick_eq (watcher : Watcher) : watcher.tick = .perform (.chain .latestHeight) watcher.afterHead := by
  change Program.perform _ _ = _
  congr 1
  funext answer
  cases answer with
  | error err => rfl
  | ok head =>
    simp only [aim_eq]
    let height := watcher.next.getD head
    change (if (!confirmed watcher.settings height head) = true then _ else Program.perform _ _) =
      if (!confirmed watcher.settings height head) = true then _ else Program.perform _ _
    congr 2
    funext answer
    cases answer <;> rfl

end Watcher

namespace World

theorem ask_of_query (world : World) (call : Chain.Call)
    (query : (world.ledger.answer call).2 = { world.ledger with calls := world.ledger.calls + 1 }) :
    (world.ask call).2.ledger.blocks = world.ledger.blocks ∧
      (world.ask call).2.ledger.height = world.ledger.height ∧
      ∀ answer, (world.ask call).1 = .ok answer → answer = (world.ledger.answer call).1 := by
  cases fault : world.fault? call.method with
  | none =>
    rw [ask_of_served fault, query]
    exact ⟨rfl, rfl, fun answer answered => (Except.ok.inj answered).symm⟩
  | some err =>
    rw [ask_of_fault fault]
    refine ⟨rfl, rfl, ?_⟩
    intro answer answered
    cases answered

end World

open Watcher

structure Watch where
  world : World
  watcher : Watcher
  ticking : Option (Program Ticked) := none
  history : History := []
  heads : List UInt64 := []
  audits : List Audit.Task := []
  ticks : Nat := 0

namespace Watch

def initial (settings : Settings) (world : World) : Watch := { world, watcher := .ofSettings settings }

def headOf : (operation : Operation) → operation.Answer → Option UInt64
  | .chain .latestHeight, .ok head => some head
  | _, _ => none

def finish (watch : Watch) (ticked : Ticked) : Watch :=
  { watch with
    watcher := ticked.1
    ticking := none
    audits := watch.audits ++ ticked.2.toOption.getD []
    ticks := if ticked.2.isOk then watch.ticks + 1 else watch.ticks }

/-- Whatever happens on the chain may happen between any two operations of a tick. -/
inductive Step : Watch → Watch → Prop
  | broadcast (watch : Watch) (message : Message) (served : watch.world.fault? .broadcast = none) :
    Step watch
      { watch with
        world := (watch.world.ask (.broadcast message)).2
        history := watch.history ++ [(watch.world.ledger.height, message)] }
  | reach (watch : Watch) (height : UInt64) (above : watch.world.ledger.height ≤ height) :
    Step watch { watch with world := { watch.world with ledger := { watch.world.ledger with height } } }
  | other (watch : Watch) (world : World) (blocks : world.ledger.blocks = watch.world.ledger.blocks)
      (height : world.ledger.height = watch.world.ledger.height) :
    Step watch { watch with world }
  | start (watch : Watch) (idle : watch.ticking = none) : Step watch { watch with ticking := some watch.watcher.tick }
  | call (watch : Watch) (operation : Operation) (next : operation.Answer → Program Ticked)
      (ticking : watch.ticking = some (.perform operation next)) :
    Step watch
      { watch with
        world := (watch.world.perform operation).2
        ticking := some (next (watch.world.perform operation).1)
        heads := watch.heads ++ (headOf operation (watch.world.perform operation).1).toList }
  | finish (watch : Watch) (ticked : Ticked) (ticking : watch.ticking = some (.done ticked)) :
    Step watch (watch.finish ticked)

def Completes (watch : Watch) (program : Program Ticked) : Prop :=
  ∃ heads, Relation.ReflTransGen Step { watch with ticking := some program }
    (Watch.finish { watch with world := (program.run watch.world).2, heads } (program.run watch.world).1)

theorem completes_done (watch : Watch) (ticked : Ticked) : watch.Completes (.done ticked) :=
  ⟨watch.heads, .single (.finish _ ticked rfl)⟩

theorem completes_perform {watch : Watch} {operation : Operation} {next : operation.Answer → Program Ticked}
    (rest : ∀ answer world heads, Completes { watch with world, heads } (next answer)) :
    watch.Completes (.perform operation next) := by
  obtain ⟨heads, steps⟩ := rest (watch.world.perform operation).1 (watch.world.perform operation).2
    (watch.heads ++ (headOf operation (watch.world.perform operation).1).toList)
  exact ⟨heads, .head (.call _ operation next rfl) steps⟩

theorem completes_tick (watch : Watch) : watch.Completes watch.watcher.tick := by
  rw [tick_eq]
  refine completes_perform fun answer world heads => ?_
  cases answer with
  | error err => exact completes_done _ _
  | ok head =>
    cases late : confirmed watch.watcher.settings (watch.watcher.next.getD head) head with
    | false =>
      rw [afterHead_early late]
      exact completes_done _ _
    | true =>
      rw [afterHead_late late]
      refine completes_perform fun answer world heads => ?_
      cases answer <;> exact completes_done _ _

variable {settings : Settings}

inductive Stage (settings : Settings) (watch : Watch) (scan : Scan) : Prop
  | idle (ticking : watch.ticking = none) (next : scan.next = watch.watcher.next)
      (audits : scan.audits = watch.audits) (ticks : scan.ticks = watch.ticks)
  | begun (ticking : watch.ticking = some watch.watcher.tick) (next : scan.next = watch.watcher.next)
      (audits : scan.audits = watch.audits) (ticks : scan.ticks = watch.ticks)
  | reading (head height : UInt64)
      (ticking : watch.ticking =
        some (.perform (.chain (.blockMessages height)) (afterBlock (watch.watcher.aimed head) height)))
      (aim : (watch.watcher.aimed head).next = some height) (next : scan.next = some height)
      (audits : scan.audits = watch.audits) (ticks : scan.ticks = watch.ticks)
      (late : confirmed settings height head = true) (below : head ≤ scan.height)
  | ended (ticked : Ticked) (ticking : watch.ticking = some (.done ticked)) (kept : ticked.1.settings = settings)
      (next : scan.next = (watch.finish ticked).watcher.next) (audits : scan.audits = (watch.finish ticked).audits)
      (ticks : scan.ticks = (watch.finish ticked).ticks)

/-- The scan that a watch carries out, in which a tick takes effect as soon as it has its last answer. -/
structure Carries (settings : Settings) (watch : Watch) (scan : Scan) : Prop where
  kept : watch.watcher.settings = settings
  blocks : watch.world.ledger.blocks.toList = watch.history
  height : scan.height = watch.world.ledger.height
  history : scan.history = watch.history
  heads : scan.heads = watch.heads
  stage : Stage settings watch scan

variable {watch after : Watch} {scan : Scan}

theorem Stage.outside (stage : Stage settings watch scan) (world : World) (history : History) {moved : Scan}
    (next : moved.next = scan.next) (audits : moved.audits = scan.audits) (ticks : moved.ticks = scan.ticks)
    (above : scan.height ≤ moved.height) : Stage settings { watch with world, history } moved := by
  cases stage with
  | idle ticking next' audits' ticks' =>
    exact .idle ticking (next.trans next') (audits.trans audits') (ticks.trans ticks')
  | begun ticking next' audits' ticks' =>
    exact .begun ticking (next.trans next') (audits.trans audits') (ticks.trans ticks')
  | reading head height ticking aim next' audits' ticks' late below =>
    exact .reading head height ticking aim (next.trans next') (audits.trans audits') (ticks.trans ticks') late
      (UInt64.le_trans below above)
  | ended ticked ticking kept next' audits' ticks' =>
    exact .ended ticked ticking kept (next.trans next') (audits.trans audits') (ticks.trans ticks')

theorem tasks_blockMessages (ledger : Chain.Ledger) (height : UInt64) :
    (ledger.blockMessages height).filterMap Audit.Task.ofMessage? =
      History.tasks ledger.blocks.toList (· == height) := by
  rw [Chain.Ledger.blockMessages, List.filterMap_map]
  rfl

abbrev Carried (settings : Settings) (scan : Scan) (after : Watch) : Prop :=
  ∃ moved, Relation.ReflTransGen (Scan.Move settings) scan moved ∧ Carries settings after moved

theorem Carries.broadcast (carries : Carries settings watch scan) (message : Message)
    (served : watch.world.fault? .broadcast = none) :
    Carried settings scan
      { watch with
        world := (watch.world.ask (.broadcast message)).2
        history := watch.history ++ [(watch.world.ledger.height, message)] } := by
  have asked : watch.world.ask (.broadcast message) = _ := World.ask_of_served served
  refine ⟨_, .single (.publish scan message), ?_⟩
  rw [asked]
  refine ⟨carries.kept, ?_, ?_, ?_, carries.heads, carries.stage.outside _ _ rfl rfl rfl (UInt64.le_refl _)⟩
  · change (Chain.Ledger.broadcast _ message).2.blocks.toList = _
    rw [Chain.Ledger.blocks_broadcast]
    change watch.world.ledger.blocks.toList ++ _ = _
    rw [carries.blocks]
  · change scan.height = (Chain.Ledger.broadcast _ message).2.height
    rw [Chain.Ledger.height_broadcast]
    exact carries.height
  · change scan.history ++ _ = _
    rw [carries.history, carries.height]

theorem Carries.reach (carries : Carries settings watch scan) {height : UInt64}
    (above : watch.world.ledger.height ≤ height) :
    Carried settings scan
      { watch with world := { watch.world with ledger := { watch.world.ledger with height } } } := by
  rw [← carries.height] at above
  exact ⟨_, .single (.rise scan height above), carries.kept, carries.blocks, rfl, carries.history, carries.heads,
    carries.stage.outside _ _ rfl rfl rfl above⟩

theorem Carries.other (carries : Carries settings watch scan) {world : World}
    (blocks : world.ledger.blocks = watch.world.ledger.blocks)
    (height : world.ledger.height = watch.world.ledger.height) :
    Carried settings scan { watch with world } := by
  refine ⟨scan, .refl, carries.kept, ?_, carries.height.trans height.symm, carries.history, carries.heads,
    carries.stage.outside _ _ rfl rfl rfl (UInt64.le_refl _)⟩
  change world.ledger.blocks.toList = _
  rw [blocks]
  exact carries.blocks

theorem Carries.start (carries : Carries settings watch scan) (idle : watch.ticking = none) :
    Carried settings scan { watch with ticking := some watch.watcher.tick } := by
  refine ⟨scan, .refl, carries.kept, carries.blocks, carries.height, carries.history, carries.heads, ?_⟩
  cases carries.stage with
  | idle ticking next audits ticks => exact .begun rfl next audits ticks
  | begun ticking | reading _ _ ticking | ended _ ticking => cases idle.symm.trans ticking

theorem Carries.look (carries : Carries settings watch scan) (next : scan.next = watch.watcher.next)
    (audits : scan.audits = watch.audits) (ticks : scan.ticks = watch.ticks) :
    Carried settings scan
      { watch with
        world := (watch.world.ask .latestHeight).2
        ticking := some (watch.watcher.afterHead (watch.world.ask .latestHeight).1)
        heads := watch.heads ++ (headOf (.chain .latestHeight) (watch.world.ask .latestHeight).1).toList } := by
  obtain ⟨blocks, height, answered⟩ := watch.world.ask_of_query .latestHeight rfl
  have listed : (watch.world.ask .latestHeight).2.ledger.blocks.toList = watch.history := by
    rw [blocks]
    exact carries.blocks
  have level : scan.height = (watch.world.ask .latestHeight).2.ledger.height := carries.height.trans height.symm
  cases answer : (watch.world.ask .latestHeight).1 with
  | error err =>
    refine ⟨scan, .refl, carries.kept, listed, level, carries.history, ?_, ?_⟩
    · exact carries.heads.trans (List.append_nil _).symm
    · exact .ended _ rfl carries.kept next (audits.trans (List.append_nil _).symm) ticks
  | ok head =>
    have seen : head = scan.height := (answered head answer).trans carries.height.symm
    let aim := watch.watcher.next.getD head
    let looked : Scan := { scan with heads := scan.heads ++ [scan.height], next := some (scan.next.getD scan.height) }
    have moved : Scan.Move settings scan looked := .look scan
    have aimed : looked.next = some aim := by
      change some (scan.next.getD scan.height) = _
      rw [next, ← seen]
    have heads : scan.heads ++ [scan.height] = watch.heads ++ [head] := by rw [carries.heads, seen]
    -- An unconfirmed block ends the tick here, a confirmed one is scanned only with the answer that lists it.
    cases late : confirmed watch.watcher.settings aim head with
    | false =>
      have early : confirmed settings aim looked.height = false := by
        rw [← carries.kept]
        change confirmed _ _ scan.height = false
        rw [← seen]
        exact late
      refine ⟨_, .tail (.single moved) (.pass looked aim aimed early), carries.kept, listed, level, carries.history,
        heads, ?_⟩
      refine .ended (watch.watcher.aimed head, .ok []) ?_ carries.kept aimed ?_ ?_
      · exact congrArg some (afterHead_early late)
      · exact audits.trans (List.append_nil _).symm
      · change scan.ticks + 1 = watch.ticks + 1
        rw [ticks]
    | true =>
      refine ⟨looked, .single moved, carries.kept, listed, level, carries.history, heads, ?_⟩
      refine .reading head aim ?_ rfl aimed audits ticks ?_ ?_
      · exact congrArg some (afterHead_late late)
      · rw [← carries.kept]
        exact late
      · rw [seen]
        exact UInt64.le_refl _

theorem Carries.read (carries : Carries settings watch scan) {head height : UInt64}
    (next : scan.next = some height) (aim : (watch.watcher.aimed head).next = some height)
    (audits : scan.audits = watch.audits) (ticks : scan.ticks = watch.ticks)
    (late : confirmed settings height head = true) (below : head ≤ scan.height) :
    Carried settings scan
      { watch with
        world := (watch.world.ask (.blockMessages height)).2
        ticking := some (afterBlock (watch.watcher.aimed head) height (watch.world.ask (.blockMessages height)).1)
        heads := watch.heads ++ [] } := by
  obtain ⟨blocks, same, answered⟩ := watch.world.ask_of_query (.blockMessages height) rfl
  have listed : (watch.world.ask (.blockMessages height)).2.ledger.blocks.toList = watch.history := by
    rw [blocks]
    exact carries.blocks
  have level : scan.height = (watch.world.ask (.blockMessages height)).2.ledger.height :=
    carries.height.trans same.symm
  have heads : scan.heads = watch.heads ++ [] := carries.heads.trans (List.append_nil _).symm
  cases answer : (watch.world.ask (.blockMessages height)).1 with
  | error err =>
    refine ⟨scan, .refl, carries.kept, listed, level, carries.history, heads, ?_⟩
    exact .ended _ rfl carries.kept (next.trans aim.symm) (audits.trans (List.append_nil _).symm) ticks
  | ok messages =>
    have listing : messages = watch.world.ledger.blockMessages height := answered messages answer
    -- The chain may have grown since the head was read, which only confirms the block more.
    have still : confirmed settings height scan.height = true := by
      rw [confirmed_iff] at late ⊢
      rw [UInt64.le_iff_toNat_le] at below
      omega
    refine ⟨_, .single (.scan scan height next still), carries.kept, listed, level, carries.history, heads, ?_⟩
    refine .ended _ rfl carries.kept rfl ?_ ?_
    · change scan.audits ++ scan.history.tasks (· == height) = watch.audits ++ messages.filterMap _
      rw [audits, carries.history, ← carries.blocks, listing, tasks_blockMessages]
    · change scan.ticks + 1 = watch.ticks + 1
      rw [ticks]

theorem Carries.call (carries : Carries settings watch scan) {operation : Operation}
    {next : operation.Answer → Program Ticked} (going : watch.ticking = some (.perform operation next)) :
    Carried settings scan
      { watch with
        world := (watch.world.perform operation).2
        ticking := some (next (watch.world.perform operation).1)
        heads := watch.heads ++ (headOf operation (watch.world.perform operation).1).toList } := by
  cases carries.stage with
  | idle ticking | ended _ ticking => cases going.symm.trans ticking
  | begun ticking aim audits ticks =>
    rw [tick_eq] at ticking
    cases going.symm.trans ticking
    exact carries.look aim audits ticks
  | reading head height ticking aim current audits ticks late below =>
    cases going.symm.trans ticking
    exact carries.read current aim audits ticks late below

theorem Carries.finish (carries : Carries settings watch scan) {ticked : Ticked}
    (going : watch.ticking = some (.done ticked)) : Carried settings scan (watch.finish ticked) := by
  cases carries.stage with
  | idle ticking | reading _ _ ticking => cases going.symm.trans ticking
  | begun ticking =>
    rw [tick_eq] at ticking
    cases going.symm.trans ticking
  | ended other ticking kept next audits ticks =>
    cases going.symm.trans ticking
    exact ⟨scan, .refl, kept, carries.blocks, carries.height, carries.history, carries.heads,
      .idle rfl next audits ticks⟩

theorem Carries.step (carries : Carries settings watch scan) (step : Step watch after) :
    Carried settings scan after := by
  cases step with
  | broadcast message served => exact carries.broadcast message served
  | reach height above => exact carries.reach above
  | other world blocks height => exact carries.other blocks height
  | start idle => exact carries.start idle
  | call operation next going => exact carries.call going
  | finish ticked going => exact carries.finish going

theorem Carries.run (carries : Carries settings watch scan) (run : Relation.ReflTransGen Step watch after) :
    Carried settings scan after := by
  induction run with
  | refl => exact ⟨scan, .refl, carries⟩
  | tail _ step ih =>
    obtain ⟨middle, moves, carries⟩ := ih
    obtain ⟨last, more, carries⟩ := carries.step step
    exact ⟨last, moves.trans more, carries⟩

theorem carries_initial (settings : Settings) {world : World} (fresh : world.ledger.blocks = #[]) :
    Carries settings (initial settings world)
      { height := world.ledger.height, next := settings.startHeight } where
  kept := rfl
  blocks := by
    change world.ledger.blocks.toList = []
    rw [fresh]
  height := rfl
  history := rfl
  heads := rfl
  stage := .idle rfl rfl rfl rfl

theorem Carries.at_rest (carries : Carries settings watch scan) (idle : watch.ticking = none) :
    scan.next = watch.watcher.next ∧ scan.audits = watch.audits ∧ scan.ticks = watch.ticks := by
  cases carries.stage with
  | idle _ next audits ticks => exact ⟨next, audits, ticks⟩
  | begun ticking | reading _ _ ticking | ended _ ticking => cases idle.symm.trans ticking

/-- Every publish at or above the first block is audited once its block is scanned, and no block grows after that. -/
theorem audits_exactly_once {world : World} (fresh : world.ledger.blocks = #[])
    (run : Relation.ReflTransGen Step (initial settings world) watch) (idle : watch.ticking = none) :
    match watch.watcher.next with
    | none => watch.ticks = 0 ∧ watch.audits = []
    | some next => ∃ start, settings.startHeight.or watch.heads.head? = some start ∧ start ≤ next ∧
      watch.audits = watch.history.tasksBetween start next ∧
      ∀ later, Relation.ReflTransGen Step watch later →
        (∃ added, later.history = watch.history ++ added ∧ ∀ entry ∈ added, ¬ (start ≤ entry.1 ∧ entry.1 < next)) ∧
        (later.ticking = none → later.world.ledger.height = watch.world.ledger.height →
          ∃ count reached, later.ticks = watch.ticks + count ∧ later.watcher.next = some reached ∧
            reached.toNat = min (next.toNat + count)
              (max next.toNat (watch.world.ledger.height.toNat - settings.confirmationDelay.toNat))) := by
  obtain ⟨scan, moves, carries⟩ := (carries_initial settings fresh).run run
  have complete : scan.Covered settings := (Scan.covered_initial settings world.ledger.height).run moves
  obtain ⟨next, audits, ticks⟩ := carries.at_rest idle
  cases chosen : watch.watcher.next with
  | none =>
    obtain ⟨-, nothing, never⟩ := complete.unset (next.trans chosen)
    exact ⟨ticks.symm.trans never, audits.symm.trans nothing⟩
  | some position =>
    obtain ⟨start, found, ordered, ready, covered⟩ := complete.covered position (next.trans chosen)
    refine ⟨start, ?_, ordered, ?_, ?_⟩
    · rw [← carries.heads]
      exact found
    · rw [← audits, ← carries.history]
      exact covered
    · intro later steps
      obtain ⟨moved, onward, carried⟩ := carries.run steps
      constructor
      · obtain ⟨added, extended, above⟩ := Scan.history_of_run onward
        refine ⟨added, ?_, ?_⟩
        · rw [← carried.history, ← carries.history]
          exact extended
        · rintro entry member ⟨low, high⟩
          have level : scan.height ≤ entry.1 := above entry member
          exact Scan.not_scanned (ready.imp_right fun below => UInt64.le_trans below level) ⟨low, high⟩
      · intro rest level
        obtain ⟨reachedNext, -, reachedTicks⟩ := carried.at_rest rest
        have steady : moved.height = scan.height := by rw [carried.height, carries.height, level]
        obtain ⟨count, reached, counted, current, bound⟩ := Scan.next_of_steady onward (next.trans chosen) steady
        refine ⟨count, reached, ?_, ?_, ?_⟩
        · rw [← reachedTicks, ← ticks]
          exact counted
        · rw [← reachedNext]
          exact current
        · rw [← carries.height]
          exact bound

def firstPublish : Publication := ⟨"alice", "ipfs://first", 1, [], ""⟩

def secondPublish : Publication := ⟨"bob", "ipfs://second", 2, [], ""⟩

theorem late_publish_run :
    ∃ watch, Relation.ReflTransGen Step (initial {} .blank) watch ∧ watch.ticking = none ∧
      watch.history = [(0, .publishData firstPublish), (2, .publishData secondPublish)] ∧
      watch.heads = [0, 2] ∧ watch.watcher.next = some 1 ∧ watch.ticks = 2 := by
  have started : Relation.ReflTransGen Step (initial {} .blank) _ :=
    ((Relation.ReflTransGen.single (.start _ rfl)).tail (.call _ (.chain .latestHeight) _ rfl)).tail (.finish _ _ rfl)
  have published : Relation.ReflTransGen Step (initial {} .blank) _ :=
    (started.tail (.broadcast _ (.publishData firstPublish) rfl)).tail (.reach _ 2 (by decide))
  have looked : Relation.ReflTransGen Step (initial {} .blank) _ :=
    (published.tail (.start _ rfl)).tail (.call _ (.chain .latestHeight) _ rfl)
  have late : Relation.ReflTransGen Step (initial {} .blank) _ :=
    looked.tail (.broadcast _ (.publishData secondPublish) rfl)
  have scanned : Relation.ReflTransGen Step (initial {} .blank) _ :=
    (late.tail (.call _ (.chain (.blockMessages 0)) _ rfl)).tail (.finish _ _ rfl)
  exact ⟨_, scanned, rfl, rfl, rfl, rfl, rfl⟩

theorem audits_exactly_once_with_late_publish :
    ∃ watch, Relation.ReflTransGen Step (initial {} .blank) watch ∧ watch.ticking = none ∧
      watch.history = [(0, .publishData firstPublish), (2, .publishData secondPublish)] ∧
      watch.watcher.next = some 1 ∧ watch.ticks = 2 ∧ watch.audits = [⟨"ipfs://first", [], 1, ""⟩] := by
  obtain ⟨watch, run, idle, history, heads, next, ticks⟩ := late_publish_run
  refine ⟨watch, run, idle, history, next, ticks, ?_⟩
  have complete := audits_exactly_once rfl run idle
  rw [next] at complete
  obtain ⟨start, found, -, audits, -⟩ := complete
  rw [heads] at found
  cases found
  rw [audits, history]
  rfl

end Watch

end Availability
