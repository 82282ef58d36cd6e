import Availability.Proofs.Transcript
import Availability.Proofs.Watcher.Run

namespace Availability.Watcher

structure Round where
  before : Watcher
  ticked : Ticked
  heard : Transcript

namespace Round

def after (round : Round) : Watcher := round.ticked.1

def started (round : Round) : List Audit.Task := round.ticked.2.toOption.getD []

def heads (log : List Round) : List UInt64 := log.flatMap (·.heard.heads)

end Round

section

variable {σ : Type} (env : Environment σ)

def round (watcher : Watcher) (state : σ) : Round :=
  ⟨watcher, (watcher.tick.runIn env state).1, watcher.tick.transcript env state⟩

/-- A tick from each of the states, which may be whatever the chain has come to in between. -/
def rounds : Watcher → List σ → List Round
  | _, [] => []
  | watcher, state :: states => watcher.round env state :: rounds (watcher.round env state).after states

end

section

variable {watcher : Watcher} {ticked : Ticked} {heard : Transcript}

end

section

variable {σ : Type} (env : Environment σ)

end

end Availability.Watcher
