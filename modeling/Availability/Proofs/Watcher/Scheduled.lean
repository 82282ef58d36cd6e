import Availability.Proofs.Audit.Scheduled
import Availability.Proofs.Watcher.Run

namespace Availability

open Audit (Auditor Docket)
open Schedule (Turn Affords)
open World (environment inOrder)

namespace Watch

theorem step_of_perform (watch : Watch) (operation : Operation) :
    ∃ history, Step watch { watch with world := (watch.world.perform operation).2, history } := by
  have apart (same : (watch.world.perform operation).2.ledger = watch.world.ledger) :
      Step watch { watch with world := (watch.world.perform operation).2 } :=
    .other watch _ (congrArg Chain.Ledger.blocks same) (congrArg Chain.Ledger.height same)
  have queried (call : Chain.Call)
      (query : (watch.world.ledger.answer call).2 = { watch.world.ledger with calls := watch.world.ledger.calls + 1 }) :
      Step watch { watch with world := (watch.world.ask call).2 } := by
    obtain ⟨blocks, height, -⟩ := watch.world.ask_of_query call query
    exact .other watch _ blocks height
  cases operation with
  | chain call =>
    cases call with
    | broadcast message =>
      cases fault : watch.world.fault? .broadcast with
      | none => exact ⟨_, .broadcast watch message fault⟩
      | some err =>
        have same : watch.world.ask (.broadcast message) = (.error err, watch.world) := World.ask_of_fault fault
        exact ⟨_, apart (congrArg (·.2.ledger) same)⟩
    | _ => exact ⟨_, queried _ rfl⟩
  | prove => exact ⟨_, apart rfl⟩
  | dial | store | retrieve => exact ⟨_, apart (watch.world.ledger_setMemory _ _)⟩

theorem run_of_plays (watch : Watch) {heard : Transcript} {after : World}
    (plays : Plays (environment inOrder) heard watch.world after) :
    ∃ history, Relation.ReflTransGen Step watch { watch with world := after, history } := by
  generalize begun : watch.world = start at plays
  induction plays generalizing watch with
  | done state =>
    subst begun
    exact ⟨watch.history, .refl⟩
  | @step operation _ _ _ _ _ performed others ih =>
    subst begun
    obtain ⟨history, step⟩ := watch.step_of_perform operation
    change watch.world.perform operation = _ at performed
    rw [performed] at step
    obtain ⟨longer, run⟩ := ih { watch with world := _, history } rfl
    exact ⟨longer, .head step run⟩

end Watch

namespace Watcher

/-- A watch that is at rest, and the audits it has started, stand where a watcher and its jobs stand. -/
structure Tracks (watch : Watch) (docket : Docket) (watcher : Watcher) (schedule : Schedule) (world : World) :
    Prop where
  rests : watch.ticking = none
  watched : watch.world = world
  audited : docket.world = world
  position : { watch.watcher with phase := watcher.phase } = watcher
  tasks : docket.tasks = watch.audits
  held : ∃ indices, docket.Held schedule indices
  affords : ∀ job ∈ schedule.jobs, Affords job

def Reaches (auditor : Auditor) (watch : Watch) (docket : Docket) (watcher : Watcher) (schedule : Schedule)
    (world : World) : Prop :=
  ∃ later audits, Relation.ReflTransGen Watch.Step watch later ∧ Docket.Run auditor docket audits ∧
    Tracks later audits watcher schedule world

variable {auditor : Auditor} {watch : Watch} {docket : Docket} {watcher : Watcher} {schedule next : Schedule}
variable {world after : World}

namespace Tracks

theorem reaches (tracks : Tracks watch docket watcher schedule world) (auditor : Auditor) :
    Reaches auditor watch docket watcher schedule world := ⟨watch, docket, .refl, .refl, tracks⟩

theorem initial (settings : Settings) (world : World) :
    Tracks (Watch.initial settings world) { world } (ofSettings settings) {} world where
  rests := rfl
  watched := rfl
  audited := rfl
  position := rfl
  tasks := rfl
  held := ⟨[], .nil, .nil, nofun⟩
  affords := nofun

end Tracks

variable {other : Watcher}

theorem Reaches.onward (reaches : Reaches auditor watch docket watcher schedule world)
    (further : ∀ {later audits}, Tracks later audits watcher schedule world →
      Reaches auditor later audits other next after) : Reaches auditor watch docket other next after := by
  obtain ⟨later, audits, watched, audited, tracks⟩ := reaches
  obtain ⟨last, others, more, longer, tracks⟩ := further tracks
  exact ⟨last, others, watched.trans more, audited.trans longer, tracks⟩

namespace Tracks

theorem turn (tracks : Tracks watch docket watcher schedule world) (auditor : Auditor)
    (turn : Turn schedule world next after) :
    Reaches auditor watch docket watcher next after := by
  obtain ⟨rests, rfl, level, position, tasks, ⟨indices, held⟩, affords⟩ := tracks
  obtain ⟨heard, plays⟩ := turn.plays
  obtain ⟨history, watched⟩ := watch.run_of_plays plays
  rw [← level] at turn
  obtain ⟨later, places, audited, reached, same, holds⟩ := held.turn auditor turn
  exact ⟨_, later, watched, audited, rests, rfl, reached, position, same.trans tasks, ⟨places, holds⟩,
    (turn.affords affords).1⟩

theorem run (tracks : Tracks watch docket watcher schedule world) (deadline : Option Nat) (turns : Nat) :
    Reaches auditor watch docket watcher (schedule.run deadline turns world).1 (schedule.run deadline turns world).2 :=
  Schedule.run_induction (Reaches auditor watch docket watcher)
    (fun turn reaches => reaches.onward fun tracks => tracks.turn auditor turn) (tracks.reaches auditor)

theorem ends (tracks : Tracks watch docket watcher schedule world) :
    Reaches auditor watch docket watcher {} (schedule.runUntil none world).2 := by
  have empty : (schedule.runUntil none world).1 = {} :=
    congrArg Schedule.mk (Schedule.runUntil_ends tracks.affords world)
  have reaches : Reaches auditor watch docket watcher (schedule.runUntil none world).1
      (schedule.runUntil none world).2 := tracks.run none _
  rwa [empty] at reaches

theorem rephase (tracks : Tracks watch docket watcher schedule world) (phase : Phase) :
    Tracks watch docket { watcher with phase } schedule world := by
  refine { tracks with position := ?_ }
  exact congrArg (fun watcher : Watcher => { watcher with phase }) tracks.position

/-- A tick is one of the watch, with the audits going on; the audits it gives are started. -/
theorem tick (tracks : Tracks watch docket watcher schedule world) (auditor : Auditor) (time : Nat) :
    Reaches auditor watch docket (watcher.tick.run world).1.1
      (startAudits auditor time ((watcher.tick.run world).1.2.toOption.getD []) schedule)
      (watcher.tick.run world).2 := by
  obtain ⟨rests, rfl, level, position, tasks, ⟨indices, held⟩, affords⟩ := tracks
  have same : watch.watcher.tick = watcher.tick := by
    rw [← position]
    rfl
  have begins : Watch.Step watch { watch with ticking := some watcher.tick } := same ▸ .start watch rests
  obtain ⟨heads, completes⟩ := watch.completes_tick
  rw [same] at completes
  -- To the audits that are going on a tick is what somebody else does.
  obtain ⟨heard, -, plays⟩ := Program.path_run watcher.tick watch.world
  rw [← level] at plays
  obtain ⟨log, others⟩ := Docket.run_of_plays auditor docket plays
  have kept : Docket.Held { docket with world := (watcher.tick.run docket.world).2, log } schedule indices :=
    ⟨held.runs, held.apart, held.ended⟩
  obtain ⟨later, places, starts, still, opened, holds⟩ := kept.startAudits auditor time
    ((watcher.tick.run watch.world).1.2.toOption.getD [])
  refine ⟨_, later, .head begins completes, others.trans starts, rfl, rfl, ?_, rfl, ?_,
    ⟨places, holds⟩, Docket.affords_startAudits affords auditor time _⟩
  · rw [still]
    exact congrArg (fun world => (watcher.tick.run world).2) level
  · rw [opened]
    exact congrArg (· ++ _) tasks

theorem runTicks (tracks : Tracks watch docket watcher schedule world) (times : List Nat) :
    Reaches auditor watch docket (Watcher.runTicks auditor times watcher schedule world).1
      (Watcher.runTicks auditor times watcher schedule world).2.1
      (Watcher.runTicks auditor times watcher schedule world).2.2 := by
  induction times generalizing watch docket watcher schedule world with
  | nil => exact tracks.reaches auditor
  | cons time rest ih =>
    have waits : Reaches auditor watch docket watcher (schedule.runUntil (some time) world).1
        (schedule.runUntil (some time) world).2 := tracks.run (some time) _
    exact waits.onward fun tracks => (tracks.tick auditor time).onward fun tracks => ih (tracks.rephase .waitingNextTick)

theorem ended (tracks : Tracks watch docket watcher {} world) :
    ∀ ongoing ∈ docket.audits, ∃ result, ongoing.rest = .done result := by
  intro ongoing member
  obtain ⟨index, here⟩ := List.mem_iff_getElem?.mp member
  obtain ⟨indices, held⟩ := tracks.held
  have idle : indices = [] := List.forall₂_nil_right_iff.mp held.runs
  exact held.ended index ongoing here (idle ▸ List.not_mem_nil)

end Tracks

/-- One tick and the audits it starts are steps of a watch and of its audits, and all of these end. -/
theorem reaches_tickAndAudit (tracks : Tracks watch docket watcher {} world) :
    Reaches auditor watch docket (tickAndAudit auditor watcher world).1.1 {}
      (tickAndAudit auditor watcher world).2 := by
  have ticks := tracks.tick auditor 0
  rw [tickAndAudit]
  rcases went : watcher.tick.run world with ⟨⟨ticked, err | tasks⟩, after⟩
  · rw [went] at ticks
    exact ticks
  · rw [went] at ticks
    exact ticks.onward fun tracks => tracks.ends

/-- So is everything that is done while the chain is watched for a span of time, from the first tick on until the
last audit has ended. -/
theorem reaches_watchFor (auditor : Auditor) (settings : Settings) (span : Duration) (world : World) :
    Reaches auditor (Watch.initial settings world) { world } (watchFor auditor (ofSettings settings) span world).1.live
      {} (watchFor auditor (ofSettings settings) span world).2 := by
  have start : Tracks (Watch.initial settings world) { world } (ofSettings settings) {} world := .initial settings world
  rw [watchFor]
  split
  · exact start.reaches auditor
  · exact (start.runTicks _).onward fun tracks => tracks.ends

theorem reaches_validateFor {settings : Settings} {span : Duration} {stopped : Stopped}
    (ran : validateFor auditor settings span world = (.ok stopped, after)) :
    ∃ start, Reaches auditor (Watch.initial settings start) { world := start } stopped.live {} after := by
  rw [validateFor] at ran
  rcases accepted : (Audit.verifyDeputy auditor.account).run.run world with ⟨err | ⟨⟩, start⟩
  · rw [accepted] at ran
    cases ran
  · rw [accepted] at ran
    cases ran
    exact ⟨start, reaches_watchFor auditor settings span start⟩

end Watcher

end Availability
