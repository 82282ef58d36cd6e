import Availability.Duration
import Availability.Hex
import Availability.Json.Fields
import Availability.Logging.Filter

namespace Availability.Logging

inductive Rotation where
  | minutely
  | hourly
  | daily
  | never
deriving DecidableEq

namespace Rotation

def all : List Rotation := [.minutely, .hourly, .daily, .never]

def name : Rotation → String
  | .minutely => "minutely"
  | .hourly => "hourly"
  | .daily => "daily"
  | .never => "never"

def ofJson? (value : Json) : Option Rotation := value.bareAlternative?.bind fun name => all.find? (·.name == name)

end Rotation

structure Moment where
  year : Nat
  month : Nat
  day : Nat
  hour : Nat
  minute : Nat
deriving DecidableEq

def Rotation.stamp (rotation : Rotation) (moment : Moment) : String :=
  let date :=
    [Duration.zeroPadded 4 moment.year, Duration.zeroPadded 2 moment.month, Duration.zeroPadded 2 moment.day]
  let time := match rotation with
    | .minutely => [Duration.zeroPadded 2 moment.hour, Duration.zeroPadded 2 moment.minute]
    | .hourly => [Duration.zeroPadded 2 moment.hour]
    | .daily | .never => []
  "-".intercalate (date ++ time)

structure LogFile where
  directory : String
  fileName : Option String := none
  rotation : Rotation := .hourly
deriving DecidableEq

namespace LogFile

def defaultName : String := "kestrel.log"

def ofJson? (value : Json) : Option LogFile := do
  let fields ← value.fields? ["directory", "prefix", "rotation"]
  return {
    directory := ← fields.required "directory" Json.toText?
    fileName := ← fields.optional "prefix" Json.toText?
    rotation := ← fields.orDefault "rotation" Rotation.ofJson? .hourly }

def toJson (file : LogFile) : Json :=
  .object [
    ("directory", .text file.directory),
    ("prefix", Json.orNull .text file.fileName),
    ("rotation", .text file.rotation.name)]

/-- The name of the file that is written to at a moment. A file that is never rotated needs no date, if it has
    a name. -/
def nameAt (file : LogFile) (moment : Moment) : String :=
  let stamp := file.rotation.stamp moment
  match file.fileName.getD defaultName, file.rotation with
  | "", _ => stamp
  | name, .never => name
  | name, _ => name ++ "." ++ stamp

end LogFile

/-- Characters that a terminal would act on are written as escapes. -/
def shown (c : Char) : String :=
  if ['\x07', '\x08', '\x0c', '\x1b', '\x7f'].contains c then
    "\\x" ++ Hex.encode [UInt8.ofNat c.toNat]
  else if 0x80 ≤ c.toNat && c.toNat < 0xa0 then "\\u\x7b" ++ Text.hexDigits c.toNat ++ "\x7d"
  else c.toString

def line (level : Level) (target message : String) : String :=
  let name := level.name
  String.ofList (List.replicate (5 - name.length) ' ') ++ name ++ " " ++ target ++ ": "
    ++ String.join (message.toList.map shown)

end Availability.Logging
