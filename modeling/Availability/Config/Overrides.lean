import Availability.Config

namespace Availability

inductive LogTarget where
  | file
  | stdout
  | stderr
deriving DecidableEq

structure LogOverrides where
  target : Option LogTarget := none
  directory : Option String := none
  fileName : Option String := none
  level : Option String := none
deriving DecidableEq

structure HttpOverrides where
  address : Option Socket := none
  corsOrigins : Option (List String) := none
deriving DecidableEq

structure ValidatorOverrides where
  address : Option String := none
  submitChallenge : Option Bool := none
  submitProof : Option Bool := none
  startHeight : Option UInt64 := none
deriving DecidableEq

structure Overrides where
  log : LogOverrides := {}
  http : HttpOverrides := {}
  validator : ValidatorOverrides := {}
deriving DecidableEq

inductive OverrideError where
  | fileWithoutDirectory
  | unknownLevel
deriving DecidableEq

def OverrideError.message : OverrideError → String
  | .fileWithoutDirectory => "File backend requires a directory."
  | .unknownLevel => "Invalid log level provided."

/-- A directory or a file name counts only beside the target. -/
def LogOverrides.logger (overrides : LogOverrides) (configured : Logging.Logger) :
    Except OverrideError Logging.Logger :=
  match overrides.target with
  | none => .ok configured
  | some .stdout => .ok .stdout
  | some .stderr => .ok .stderr
  | some .file =>
    match overrides.directory with
    | some directory => .ok (.file { directory, fileName := overrides.fileName })
    | none => .error .fileWithoutDirectory

def LogOverrides.levelOr (overrides : LogOverrides) (configured : Logging.Level) :
    Except OverrideError Logging.Level :=
  match overrides.level with
  | none => .ok configured
  | some name =>
    match Logging.Level.ofName? name with
    | some level => .ok level
    | none => .error .unknownLevel

def Logging.Settings.update (settings : Logging.Settings) (overrides : LogOverrides) :
    Except OverrideError Logging.Settings := do
  let logger ← overrides.logger settings.logger
  let level ← overrides.levelOr settings.level
  return { settings with logger, level }

def HttpSettings.update (settings : HttpSettings) (overrides : HttpOverrides) : HttpSettings where
  address := overrides.address.getD settings.address
  corsOrigins := overrides.corsOrigins.getD settings.corsOrigins

def ValidatorSettings.update (settings : ValidatorSettings) (overrides : ValidatorOverrides) :
    ValidatorSettings where
  address := overrides.address.or settings.address
  policy := {
    submitChallenge := overrides.submitChallenge.getD settings.policy.submitChallenge
    submitProof := overrides.submitProof.getD settings.policy.submitProof }
  watcher := { settings.watcher with startHeight := overrides.startHeight.or settings.watcher.startHeight }

def Config.update (config : Config) (overrides : Overrides) : Except OverrideError Config := do
  let log ← config.log.update overrides.log
  return { config with
    log
    http := config.http.update overrides.http
    validator := config.validator.update overrides.validator }

end Availability
