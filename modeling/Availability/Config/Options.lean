import Availability.Arguments
import Availability.Config.Overrides

namespace Availability

def LogTarget.ofText? : String → Option LogTarget
  | "file" => some .file
  | "stdout" => some .stdout
  | "stderr" => some .stderr
  | _ => none

namespace Arguments

def listed {α : Type} : Option α → Except Error α
  | some value => .ok value
  | none => .error .unlistedValue

def valid {α : Type} : Option α → Except Error α
  | some value => .ok value
  | none => .error .invalidValue

def path (text : String) : Except Error String := if text.isEmpty then .error .unlistedValue else .ok text

def truth? : String → Option Bool
  | "true" => some true
  | "false" => some false
  | _ => none

end Arguments

open Arguments

def LogOverrides.flags : List (Flag LogOverrides) := [
  { name := "log-dir", add := fun text log => (path text).map fun directory => { log with directory } },
  { name := "log-path", add := fun text log => (path text).map fun fileName => { log with fileName } },
  { name := "log-backend",
    add := fun text log => (listed (LogTarget.ofText? text)).map fun target => { log with target } },
  { name := "log-level", add := fun level log => .ok { log with level } }]

/-- Lines can only go to a file if there is a directory for it. -/
def LogOverrides.ofArguments (words : List String) : Except Error LogOverrides := do
  let log ← read flags {} words
  if log.target = some .file ∧ log.directory = none then .error .missingArgument else .ok log

def HttpOverrides.flags : List (Flag HttpOverrides) := [
  { name := "http-host",
    add := fun text http => (valid (Socket.ofText? text)).map fun address => { http with address } },
  { name := "http-cors-origin", repeatable := true,
    add := fun origin http => .ok { http with corsOrigins := http.corsOrigins.getD [] ++ [origin] } }]

def HttpOverrides.ofArguments : List String → Except Error HttpOverrides := read flags {}

def ValidatorOverrides.flags : List (Flag ValidatorOverrides) := [
  { name := "validator-address", add := fun address validator => .ok { validator with address } },
  { name := "submit-challenge", add := fun text validator =>
      (listed (truth? text)).map fun submitChallenge => { validator with submitChallenge } },
  { name := "submit-proof", add := fun text validator =>
      (listed (truth? text)).map fun submitProof => { validator with submitProof } },
  { name := "start-height", add := fun text validator =>
      (valid (Decimal.readWord text).toOption).map fun startHeight => { validator with startHeight } }]

def ValidatorOverrides.ofArguments : List String → Except Error ValidatorOverrides := read flags {}

end Availability
