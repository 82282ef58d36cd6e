import Availability.Watcher
import Availability.World

namespace Availability

inductive Progress (α : Type) where
  | finished (value : α)
  /-- After the span, others that can go on are let go first so many times. -/
  | waiting (span : Duration) (pauses : Nat) (rest : Program α)

namespace Program

variable {α : Type}

def waitFor (world : World) (limit : Duration) : Except Storage.Error (Protocol × String) → Nat
  | .error _ => 0
  | .ok (protocol, uri) =>
    let memory := world.memory protocol
    if (protocol.objectId? uri).isNone then 0
    else min memory.latency.nanoseconds limit.nanoseconds

def answersPerTurn : Nat := 128

/-- How many turns end before all answers of the workers are taken. -/
def pausesFor (workers : Nat) : Nat := (workers - 1) / answersPerTurn

/-- Runs a program until it has to wait. Work given to several workers always lets others go first. -/
def advance : Program α → World → Progress α × World
  | .done value, world => (.finished value, world)
  | .perform (.retrieve protocol uri limit) next, world =>
    let span := waitFor world limit (.ok (protocol, uri))
    let (answer, world) := world.retrieve protocol uri limit
    if span = 0 then (next answer).advance world else (.waiting ⟨span⟩ 0 (next answer), world)
  | .perform operation next, world =>
    let (answer, world) := world.perform operation
    (next answer).advance world
  | .storeAll protocol objects next, world =>
    let (answers, world) := world.storeAll protocol objects
    (.waiting (world.memory protocol).latency (pausesFor objects.length) (next answers), world)
  | .retrieveAll targets limit next, world =>
    let span := (targets.map (waitFor world limit)).foldl max 0
    let (answers, world) := world.retrieveAll limit targets
    if targets.isEmpty then (next answers).advance world
    else (.waiting ⟨span⟩ (pausesFor targets.length) (next answers), world)

end Program

/-- A program that goes on at a time, after some pauses, and in so many turns at most. -/
structure Job where
  time : Nat
  pauses : Nat := 0
  turns : Nat
  program : Program Unit

structure Schedule where
  jobs : List Job := []

namespace Schedule

def insert (job : Job) : List Job → List Job
  | [] => [job]
  | head :: rest => if head.time ≤ job.time then head :: insert job rest else job :: head :: rest

def start (schedule : Schedule) (job : Job) : Schedule := ⟨insert job schedule.jobs⟩

/-- Lets jobs go on in the order of their times, those before `deadline` only, for at most `turns` turns. -/
def run (deadline : Option Nat) : (turns : Nat) → Schedule → World → Schedule × World
  | 0, schedule, world => (schedule, world)
  | turns + 1, schedule, world =>
    match schedule.jobs with
    | [] => (schedule, world)
    | job :: rest =>
      if deadline.any (· ≤ job.time) then (schedule, world)
      else
        let left := job.turns - 1
        if 0 < job.pauses then
          run deadline turns ⟨insert { job with pauses := job.pauses - 1, turns := left } rest⟩ world
        else
          match job.program.advance world with
          | (.finished _, world) => run deadline turns ⟨rest⟩ world
          | (.waiting span pauses program, world) =>
            run deadline turns ⟨insert ⟨job.time + span.nanoseconds, pauses, left, program⟩ rest⟩ world

def runUntil (deadline : Option Nat) (schedule : Schedule) (world : World) : Schedule × World :=
  run deadline (schedule.jobs.foldl (fun turns job => turns + job.turns) 0) schedule world

end Schedule

namespace Watcher

open Audit (Auditor)

/-- An audit whose outcome nobody waits for. It waits twice at most, for the metadata and for the shards. -/
def auditJob (auditor : Auditor) (time : Nat) (task : Audit.Task) : Job where
  time
  turns := 3 + Program.pausesFor task.shardDoubleHashes.length
  program := (Audit.audit auditor task).run.bind fun _ => .done ()

def startAudits (auditor : Auditor) (time : Nat) (tasks : List Audit.Task) (schedule : Schedule) : Schedule :=
  tasks.foldl (fun schedule task => schedule.start (auditJob auditor time task)) schedule

def tickAndAudit (auditor : Auditor) (watcher : Watcher) (world : World) :
    (Watcher × Except Chain.Error Nat) × World :=
  let ((watcher, result), world) := watcher.tick.run world
  match result with
  | .error err => ((watcher, .error err), world)
  | .ok tasks =>
    let (_, world) := (startAudits auditor 0 tasks {}).runUntil none world
    ((watcher, .ok tasks.length), world)

def runTicks (auditor : Auditor) : List Nat → Watcher → Schedule → World → Watcher × Schedule × World
  | [], watcher, schedule, world => (watcher, schedule, world)
  | time :: times, watcher, schedule, world =>
    let (schedule, world) := schedule.runUntil (some time) world
    let ((watcher, result), world) := watcher.tick.run world
    let schedule := startAudits auditor time (result.toOption.getD []) schedule
    runTicks auditor times { watcher with phase := .waitingNextTick } schedule world

/-- The times at which the watcher ticks: at once, and then after every interval, before `span` is over. -/
def tickTimes (interval span : Duration) : List Nat :=
  (List.range ((span.nanoseconds + interval.nanoseconds - 1) / interval.nanoseconds)).map
    (· * interval.nanoseconds)

structure Stopped where
  live : Watcher
  after : Watcher
  clean : Bool

/-- Watches for a span of time and stops. Without a time between its ticks a watcher cannot run. -/
def watchFor (auditor : Auditor) (watcher : Watcher) (span : Duration) (world : World) : Stopped × World :=
  if watcher.settings.pollInterval.nanoseconds = 0 then (⟨watcher, watcher, false⟩, world)
  else
    let times := tickTimes watcher.settings.pollInterval span
    let (live, schedule, world) := runTicks auditor times watcher {} world
    let (_, world) := schedule.runUntil none world
    (⟨live, { live with phase := .idle }, true⟩, world)

def validateFor (auditor : Auditor) (settings : Settings) (span : Duration) (world : World) :
    Except Audit.Error Stopped × World :=
  let (accepted, world) := (Audit.verifyDeputy auditor.account).run.run world
  match accepted with
  | .error err => (.error err, world)
  | .ok () =>
    let (stopped, world) := watchFor auditor (ofSettings settings) span world
    (.ok stopped, world)

end Watcher

end Availability
