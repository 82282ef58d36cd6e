import Availability.Logging.File
import Availability.Logging.Filter

namespace Availability.Logging

inductive Logger where
  | file (destination : LogFile)
  | stdout
  | stderr
  | none
deriving DecidableEq

structure Settings where
  logger : Logger := .stdout
  filter : Option Filter := Option.none
  level : Level := .info
deriving DecidableEq

def Logger.ofJson? (value : Json) : Option Logger :=
  match value.alternative? with
  | some ("file", some destination) => (LogFile.ofJson? destination).map .file
  | _ =>
    match value.bareAlternative? with
    | some "stdout" => some .stdout
    | some "stderr" => some .stderr
    | some "none" => some .none
    | _ => Option.none

def Logger.toJson : Logger → Json
  | .file destination => .object [("file", destination.toJson)]
  | .stdout => .text "stdout"
  | .stderr => .text "stderr"
  | .none => .text "none"

def filterOfJson? (value : Json) : Option (Option Filter) :=
  match value.alternative? with
  | some ("env_filter", some filter) => (Filter.ofJson? filter).map some
  | _ => if value.bareAlternative? = some "none" then some Option.none else Option.none

def filterToJson : Option Filter → Json
  | some filter => .object [("env_filter", filter.toJson)]
  | Option.none => .text "none"

namespace Settings

def ofJson? (value : Json) : Option Settings := do
  let fields ← value.fields? ["logger", "filter", "level"]
  let defaults : Settings := {}
  return {
    logger := ← fields.orDefault "logger" Logger.ofJson? defaults.logger
    filter := ← fields.orDefault "filter" filterOfJson? defaults.filter
    level := ← fields.orDefault "level" Level.ofJson? defaults.level }

def toJson (settings : Settings) : Json :=
  .object [
    ("logger", settings.logger.toJson),
    ("filter", filterToJson settings.filter),
    ("level", settings.level.toJson)]

end Settings

end Availability.Logging
