import Availability.Audit
import Availability.Bytes

namespace Availability

namespace Watcher

structure Settings where
  pollInterval : Duration := .ofSeconds 5
  /-- Blocks that must follow a block before its commitments are audited. -/
  confirmationDelay : UInt64 := 1
  /-- The first block to scan, the chain head at the first tick if there is none. -/
  startHeight : Option UInt64 := none
deriving DecidableEq

inductive Phase where
  | idle
  | scanning
  | waitingNextTick
deriving DecidableEq

def Phase.name : Phase → String
  | .idle => "idle"
  | .scanning => "scanning"
  | .waitingNextTick => "waiting_next_tick"

end Watcher

/-- Polls the chain head and takes the publish messages of confirmed blocks, one block per tick. -/
structure Watcher where
  settings : Watcher.Settings
  phase : Watcher.Phase := .idle
  next : Option UInt64
  /-- The next block to be scanned as the holders of a handle see it. -/
  shown : Option UInt64
deriving DecidableEq

namespace Watcher

def ofSettings (settings : Settings) : Watcher :=
  { settings, next := settings.startHeight, shown := settings.startHeight }

def advance (watcher : Watcher) (height : UInt64) : Watcher :=
  { watcher with next := some height, shown := some height }

def aim (watcher : Watcher) (head : UInt64) : Watcher :=
  match watcher.next with
  | some _ => watcher
  | none => watcher.advance head

/-- Enough blocks follow `height` when the head is at `head`. A sum beyond the words counts as the last word. -/
def confirmed (settings : Settings) (height head : UInt64) : Bool :=
  Word.saturatingAdd height settings.confirmationDelay < head

def tick (watcher : Watcher) : Program (Watcher × Except Chain.Error (List Audit.Task)) := do
  let watcher := { watcher with phase := .scanning }
  match ← Program.ask .latestHeight with
  | .error err => return (watcher, .error err)
  | .ok head =>
    let height := watcher.next.getD head
    let watcher := watcher.aim head
    if !confirmed watcher.settings height head then return (watcher, .ok [])
    match ← Program.ask (.blockMessages height) with
    | .error err => return (watcher, .error err)
    | .ok messages =>
      return (watcher.advance (height + 1), .ok (messages.filterMap Audit.Task.ofMessage?))

end Watcher

end Availability
