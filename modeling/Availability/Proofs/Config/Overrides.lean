import Availability.Config.Options
import Availability.Proofs.Except

namespace Availability

namespace Logging

theorem Level.ofName?_name (level : Level) : ofName? level.name = some level := by cases level <;> rfl

theorem Level.name_injective {first second : Level} (same : first.name = second.name) : first = second := by
  have levels := congrArg ofName? same
  rw [ofName?_name, ofName?_name] at levels
  exact Option.some.inj levels

theorem Level.ofName?_eq_some_iff {name : String} {level : Level} : ofName? name = some level ↔ level.name = name := by
  constructor
  · intro found
    simpa using List.find?_some found
  · rintro rfl
    exact level.ofName?_name

theorem Level.ofName?_eq_none_iff {name : String} : ofName? name = none ↔ ∀ level : Level, level.name ≠ name := by
  simp only [Option.eq_none_iff_forall_ne_some, ne_eq, ofName?_eq_some_iff]

def Logger.target? : Logger → Option LogTarget
  | .file _ => some .file
  | .stdout => some .stdout
  | .stderr => some .stderr
  | .none => Option.none

def Logger.file? : Logger → Option LogFile
  | .file destination => some destination
  | _ => Option.none

theorem Logger.ext_file {first second : Logger} (target : first.target? = second.target?)
    (file : first.file? = second.file?) : first = second := by
  cases first <;> cases second <;> simp_all [target?, file?]

end Logging

inductive Setting where
  | logTarget
  | logFilter
  | logLevel
  | httpAddress
  | corsOrigins
  | storage
  | chain
  | prover
  | dataSourceInfo
  | validatorAddress
  | submitChallenge
  | submitProof
  | pollInterval
  | confirmationDelay
  | startHeight
  | altDa
  | rollkit
deriving DecidableEq

abbrev Setting.Value : Setting → Type
  | .logTarget => Option LogTarget
  | .logFilter => Option Logging.Filter
  | .logLevel => String
  | .httpAddress => Socket
  | .corsOrigins => List String
  | .storage => StorageSettings
  | .chain => ChainSettings
  | .prover => ProverSettings
  | .dataSourceInfo => String
  | .validatorAddress => Option String
  | .submitChallenge => Bool
  | .submitProof => Bool
  | .pollInterval => Duration
  | .confirmationDelay => UInt64
  | .startHeight => Option UInt64
  | .altDa => AltDa.Settings
  | .rollkit => Rollkit.Settings

def Config.value (config : Config) : (setting : Setting) → setting.Value
  | .logTarget => config.log.logger.target?
  | .logFilter => config.log.filter
  | .logLevel => config.log.level.name
  | .httpAddress => config.http.address
  | .corsOrigins => config.http.corsOrigins
  | .storage => config.storage
  | .chain => config.chain
  | .prover => config.prover
  | .dataSourceInfo => config.dataSourceInfo
  | .validatorAddress => config.validator.address
  | .submitChallenge => config.validator.policy.submitChallenge
  | .submitProof => config.validator.policy.submitProof
  | .pollInterval => config.validator.watcher.pollInterval
  | .confirmationDelay => config.validator.watcher.confirmationDelay
  | .startHeight => config.validator.watcher.startHeight
  | .altDa => config.altDa
  | .rollkit => config.rollkit

def Config.logFile? (config : Config) : Option Logging.LogFile := config.log.logger.file?

theorem Config.ext_value {first second : Config} (values : ∀ setting, first.value setting = second.value setting)
    (files : first.logFile? = second.logFile?) : first = second := by
  obtain ⟨⟨logger, filter, level⟩, ⟨address, origins⟩, storage, chain, prover, info, ⟨validator, ⟨challenge, proof⟩,
    ⟨interval, delay, start⟩⟩, altDa, rollkit⟩ := first
  obtain ⟨⟨logger', filter', level'⟩, ⟨address', origins'⟩, storage', chain', prover', info', ⟨validator',
    ⟨challenge', proof'⟩, ⟨interval', delay', start'⟩⟩, altDa', rollkit'⟩ := second
  obtain rfl : logger = logger' := Logging.Logger.ext_file (values .logTarget) files
  obtain rfl : level = level' := Logging.Level.name_injective (values .logLevel)
  obtain rfl : filter = filter' := values .logFilter
  obtain rfl : address = address' := values .httpAddress
  obtain rfl : origins = origins' := values .corsOrigins
  obtain rfl : storage = storage' := values .storage
  obtain rfl : chain = chain' := values .chain
  obtain rfl : prover = prover' := values .prover
  obtain rfl : info = info' := values .dataSourceInfo
  obtain rfl : validator = validator' := values .validatorAddress
  obtain rfl : challenge = challenge' := values .submitChallenge
  obtain rfl : proof = proof' := values .submitProof
  obtain rfl : interval = interval' := values .pollInterval
  obtain rfl : delay = delay' := values .confirmationDelay
  obtain rfl : start = start' := values .startHeight
  obtain rfl : altDa = altDa' := values .altDa
  obtain rfl : rollkit = rollkit' := values .rollkit
  rfl

def Overrides.value? (overrides : Overrides) : (setting : Setting) → Option setting.Value
  | .logTarget => overrides.log.target.map some
  | .logLevel => overrides.log.level
  | .httpAddress => overrides.http.address
  | .corsOrigins => overrides.http.corsOrigins
  | .validatorAddress => overrides.validator.address.map some
  | .submitChallenge => overrides.validator.submitChallenge
  | .submitProof => overrides.validator.submitProof
  | .startHeight => overrides.validator.startHeight.map some
  | .logFilter | .storage | .chain | .prover | .dataSourceInfo | .pollInterval | .confirmationDelay | .altDa
  | .rollkit => none

namespace LogOverrides

open Logging

variable {overrides : LogOverrides}

inductive Refused (overrides : LogOverrides) : OverrideError → Prop where
  | directory (target : overrides.target = some .file) (missing : overrides.directory = none) :
      Refused overrides .fileWithoutDirectory
  | level {name : String} (placed : overrides.target = some .file → overrides.directory ≠ none)
      (given : overrides.level = some name) (unknown : ∀ level : Level, level.name ≠ name) :
      Refused overrides .unknownLevel

/-- The file that lines go to afterwards: the one that was configured, or one that the arguments alone describe. -/
def Leaves (overrides : LogOverrides) (before : Option LogFile) (after : LogFile) : Prop :=
  overrides.target = none ∧ before = some after ∨
    overrides.target = some .file ∧ overrides.directory = some after.directory ∧
      after.fileName = overrides.fileName ∧ after.rotation = .hourly

/-- Each setting of the file is the one given, or that of `before` if none is given. -/
structure Exact (overrides : LogOverrides) (before after : LogFile) : Prop where
  directory : after.directory = overrides.directory.getD before.directory
  fileName : after.fileName = overrides.fileName.or before.fileName
  rotation : after.rotation = before.rotation

theorem logger_cases (overrides : LogOverrides) (configured : Logger) :
    overrides.target = none ∧ overrides.logger configured = .ok configured ∨
    overrides.target = some .stdout ∧ overrides.logger configured = .ok .stdout ∨
    overrides.target = some .stderr ∧ overrides.logger configured = .ok .stderr ∨
    (∃ directory, overrides.target = some .file ∧ overrides.directory = some directory ∧
      overrides.logger configured = .ok (.file { directory, fileName := overrides.fileName })) ∨
    overrides.target = some .file ∧ overrides.directory = none ∧
      overrides.logger configured = .error .fileWithoutDirectory := by
  unfold logger
  cases overrides.target with
  | none => simp
  | some target =>
    cases target with
    | file => cases overrides.directory <;> simp
    | stdout => simp
    | stderr => simp

theorem levelOr_cases (overrides : LogOverrides) (configured : Level) :
    overrides.level = none ∧ overrides.levelOr configured = .ok configured ∨
    (∃ level : Level, overrides.level = some level.name ∧ overrides.levelOr configured = .ok level) ∨
    ∃ name, overrides.level = some name ∧ (∀ level : Level, level.name ≠ name) ∧
      overrides.levelOr configured = .error .unknownLevel := by
  unfold levelOr
  cases overrides.level with
  | none => exact Or.inl ⟨rfl, rfl⟩
  | some name =>
    cases known : Level.ofName? name with
    | none => exact Or.inr (Or.inr ⟨name, rfl, Level.ofName?_eq_none_iff.mp known, by simp [known]⟩)
    | some level =>
      obtain rfl := Level.ofName?_eq_some_iff.mp known
      exact Or.inr (Or.inl ⟨level, rfl, by simp [known]⟩)

theorem logger_eq_error_iff {configured : Logger} {err : OverrideError} :
    overrides.logger configured = .error err ↔
      err = .fileWithoutDirectory ∧ overrides.target = some .file ∧ overrides.directory = none := by
  rcases overrides.logger_cases configured with ⟨target, chosen⟩ | ⟨target, chosen⟩ | ⟨target, chosen⟩ |
    ⟨directory, target, given, chosen⟩ | ⟨target, missing, chosen⟩ <;> simp [*, eq_comm]

theorem levelOr_eq_error_iff {configured : Level} {err : OverrideError} :
    overrides.levelOr configured = .error err ↔
      err = .unknownLevel ∧ ∃ name, overrides.level = some name ∧ ∀ level : Level, level.name ≠ name := by
  rcases overrides.levelOr_cases configured with ⟨given, chosen⟩ | ⟨level, given, chosen⟩ |
    ⟨name, given, unknown, chosen⟩
  · simp [given, chosen]
  · simp [given, chosen]
  · rw [chosen, Except.error.injEq]
    constructor
    · rintro rfl
      exact ⟨rfl, name, given, unknown⟩
    · rintro ⟨rfl, -⟩
      rfl

theorem name_of_levelOr {configured level : Level} (settled : overrides.levelOr configured = .ok level) :
    level.name = overrides.level.getD configured.name := by
  rcases overrides.levelOr_cases configured with ⟨given, chosen⟩ | ⟨level, given, chosen⟩ |
    ⟨name, given, unknown, chosen⟩ <;> simp_all

theorem target_of_logger {configured logger : Logger} (settled : overrides.logger configured = .ok logger) :
    logger.target? = (overrides.target.map some).getD configured.target? := by
  rcases overrides.logger_cases configured with ⟨target, chosen⟩ | ⟨target, chosen⟩ | ⟨target, chosen⟩ |
    ⟨directory, target, given, chosen⟩ | ⟨target, missing, chosen⟩ <;> cases settled.symm.trans chosen <;>
    rw [target] <;> rfl

theorem file_of_logger {configured logger : Logger} (settled : overrides.logger configured = .ok logger)
    (file : LogFile) : logger.file? = some file ↔ overrides.Leaves configured.file? file := by
  obtain ⟨place, name, rotation⟩ := file
  unfold Leaves
  rcases overrides.logger_cases configured with ⟨target, chosen⟩ | ⟨target, chosen⟩ | ⟨target, chosen⟩ |
    ⟨directory, target, given, chosen⟩ | ⟨target, missing, chosen⟩ <;> cases settled.symm.trans chosen <;>
    simp [Logger.file?, *, eq_comm]

/-- Nothing is given for the file that does not count, and nothing of it is lost that was not given. -/
def Spares (overrides : LogOverrides) (before : LogFile) : Prop :=
  (overrides.target = none → (∀ directory, overrides.directory = some directory → directory = before.directory) ∧
    ∀ name, overrides.fileName = some name → before.fileName = some name) ∧
  (overrides.target = some .file → (overrides.fileName = none → before.fileName = none) ∧ before.rotation = .hourly)

/-- Without a target, what is given for the file does not count; with one, what is configured for it does not. -/
theorem Leaves.exact_iff {before after : LogFile} (leaves : overrides.Leaves (some before) after) :
    overrides.Exact before after ↔ overrides.Spares before := by
  rcases leaves with ⟨target, same⟩ | ⟨target, directory, name, rotation⟩
  · cases same
    have directory : before.directory = overrides.directory.getD before.directory ↔
        ∀ directory, overrides.directory = some directory → directory = before.directory := by
      cases overrides.directory <;> simp [eq_comm]
    have name : before.fileName = overrides.fileName.or before.fileName ↔
        ∀ name, overrides.fileName = some name → before.fileName = some name := by
      cases overrides.fileName <;> simp
    constructor
    · exact fun exact => ⟨fun _ => ⟨directory.mp exact.directory, name.mp exact.fileName⟩, by simp [target]⟩
    · exact fun ⟨kept, _⟩ => ⟨directory.mpr (kept target).1, name.mpr (kept target).2, rfl⟩
  · have named : after.fileName = overrides.fileName.or before.fileName ↔
        (overrides.fileName = none → before.fileName = none) := by
      rw [name]
      cases overrides.fileName <;> simp [eq_comm]
    constructor
    · exact fun exact => ⟨by simp [target], fun _ => ⟨named.mp exact.fileName, exact.rotation.symm.trans rotation⟩⟩
    · exact fun ⟨_, kept⟩ => ⟨by simp [directory], named.mpr (kept target).1, rotation.trans (kept target).2.symm⟩

end LogOverrides

namespace Config

variable {config updated : Config} {overrides : Overrides}

theorem update_eq_ok (done : config.update overrides = .ok updated) :
    ∃ logger level, overrides.log.logger config.log.logger = .ok logger ∧
      overrides.log.levelOr config.log.level = .ok level ∧
      { config with
        log := { config.log with logger, level }
        http := config.http.update overrides.http
        validator := config.validator.update overrides.validator } = updated := by
  obtain ⟨log, settled, done⟩ := Except.bind_eq_ok.mp done
  obtain ⟨logger, chosen, settled⟩ := Except.bind_eq_ok.mp settled
  obtain ⟨level, known, settled⟩ := Except.bind_eq_ok.mp settled
  cases settled
  exact ⟨logger, level, chosen, known, Except.ok.inj done⟩

theorem update_eq_error_iff {err : OverrideError} :
    config.update overrides = .error err ↔ overrides.log.Refused err := by
  unfold update Logging.Settings.update
  -- The logger is settled first, so that a level is only looked at once the logger stands.
  cases chosen : overrides.log.logger config.log.logger with
  | error cause =>
    obtain ⟨rfl, target, missing⟩ := LogOverrides.logger_eq_error_iff.mp chosen
    constructor
    · rintro ⟨⟩
      exact .directory target missing
    · rintro (_ | ⟨placed, -, -⟩)
      · rfl
      · exact absurd missing (placed target)
  | ok logger =>
    have placed : overrides.log.target = some .file → overrides.log.directory ≠ none := fun target missing => by
      cases chosen.symm.trans (LogOverrides.logger_eq_error_iff.mpr ⟨rfl, target, missing⟩)
    cases known : overrides.log.levelOr config.log.level with
    | error cause =>
      obtain ⟨rfl, name, given, unknown⟩ := LogOverrides.levelOr_eq_error_iff.mp known
      constructor
      · rintro ⟨⟩
        exact .level placed given unknown
      · rintro (⟨target, missing⟩ | _)
        · exact absurd missing (placed target)
        · rfl
    | ok level =>
      constructor
      · rintro ⟨⟩
      · rintro (⟨target, missing⟩ | ⟨-, given, unknown⟩)
        · exact absurd missing (placed target)
        · cases known.symm.trans (LogOverrides.levelOr_eq_error_iff.mpr ⟨rfl, _, given, unknown⟩)

theorem or_eq_getD {α : Type} (given configured : Option α) :
    given.or configured = (given.map some).getD configured := by
  cases given <;> rfl

theorem value_of_update (done : config.update overrides = .ok updated) (setting : Setting) :
    updated.value setting = (overrides.value? setting).getD (config.value setting) := by
  obtain ⟨logger, level, chosen, known, rfl⟩ := update_eq_ok done
  cases setting with
  | logTarget => exact LogOverrides.target_of_logger chosen
  | logLevel => exact LogOverrides.name_of_levelOr known
  | validatorAddress => exact or_eq_getD overrides.validator.address config.validator.address
  | startHeight => exact or_eq_getD overrides.validator.startHeight config.validator.watcher.startHeight
  | _ => rfl

theorem logFile?_of_update (done : config.update overrides = .ok updated) (file : Logging.LogFile) :
    updated.logFile? = some file ↔ overrides.log.Leaves config.logFile? file := by
  obtain ⟨logger, level, chosen, -, rfl⟩ := update_eq_ok done
  exact LogOverrides.file_of_logger chosen file

/-- Only a log file without a directory and an unknown level are refused. Each setting is the one given, or else the
configured one; a node's settings and its log file determine it. The settings of the file are replaced one by one only
where `Spares` holds: a target that is given replaces all of them, and without one none is. -/
theorem update_exact (config : Config) (overrides : Overrides) :
    (∀ err, config.update overrides = .error err ↔ overrides.log.Refused err) ∧
    ∀ updated,
      (config.update overrides = .ok updated ↔
        (∀ err, ¬overrides.log.Refused err) ∧
        (∀ setting, updated.value setting = (overrides.value? setting).getD (config.value setting)) ∧
        ∀ file, updated.logFile? = some file ↔ overrides.log.Leaves config.logFile? file) ∧
      ∀ before after, config.update overrides = .ok updated → config.logFile? = some before →
        updated.logFile? = some after → (overrides.log.Exact before after ↔ overrides.log.Spares before) := by
  refine ⟨fun err => update_eq_error_iff, fun updated => ⟨⟨fun done => ?_, ?_⟩, ?_⟩⟩
  · refine ⟨fun err refused => ?_, value_of_update done, logFile?_of_update done⟩
    cases done.symm.trans (update_eq_error_iff.mpr refused)
  · rintro ⟨accepted, values, files⟩
    cases done : config.update overrides with
    | error err => exact absurd (update_eq_error_iff.mp done) (accepted err)
    | ok found =>
      -- What comes of the update has these settings and this file too.
      congr 1
      refine ext_value (fun setting => ?_) (Option.ext fun file => ?_)
      · rw [value_of_update done, values]
      · rw [logFile?_of_update done, files]
  · intro before after done configured left
    have leaves := (logFile?_of_update done after).mp left
    rw [configured] at leaves
    exact leaves.exact_iff

/-- A log file that is given another directory loses its name and its rotation. If the target is not given again, it
keeps its directory. -/
theorem not_every_file_setting_exact :
    let before : Logging.LogFile := { directory := "/var/log/node", fileName := some "node.log", rotation := .never }
    let url : Url := { scheme := "http", host := some (.address (.v4 [127, 0, 0, 1])), path := .segments [""] }
    let config : Config := {
      log := { logger := .file before }
      http := { address := { address := .v4 [127, 0, 0, 1], port := 8080 } }
      storage := {}
      chain := { gateway := { url }, sender := "alice" }
      prover := { url } }
    let moved : Overrides := { log := { target := some .file, directory := some "/srv/log" } }
    let untargeted : Overrides := { log := { directory := some "/srv/log" } }
    (∃ updated, config.update moved = .ok updated ∧ updated.logFile? = some { directory := "/srv/log" } ∧
      ¬moved.log.Exact before { directory := "/srv/log" }) ∧
    ∃ updated, config.update untargeted = .ok updated ∧ updated.logFile? = some before ∧
      ¬untargeted.log.Exact before before := by
  refine ⟨⟨_, rfl, rfl, fun exact => ?_⟩, _, rfl, rfl, fun exact => ?_⟩
  · cases exact.rotation
  · exact absurd exact.directory (by decide)

end Config

end Availability
