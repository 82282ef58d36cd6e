import Availability.Json
import Availability.Json.Fields
import Availability.Logging.Pattern
import Availability.Text
import Availability.Utf8

namespace Availability.Logging

inductive Level where
  | error
  | warn
  | info
  | debug
  | trace
deriving DecidableEq

namespace Level

def all : List Level := [.error, .warn, .info, .debug, .trace]

def name : Level → String
  | .error => "ERROR"
  | .warn => "WARN"
  | .info => "INFO"
  | .debug => "DEBUG"
  | .trace => "TRACE"

def ofName? (name : String) : Option Level := all.find? (·.name == name)

def ofText? (text : String) : Option Level :=
  match Decimal.readWord text with
  | .ok number => if number = 0 then none else all[number.toNat - 1]?
  | .error _ => ofName? text.toUpper

def ofJson? (value : Json) : Option Level := value.toText?.bind ofText?

def toJson (level : Level) : Json := .text level.name

end Level

structure Filter where
  levels : List (String × String)
deriving DecidableEq

namespace Filter

def insert (target level : String) : List (String × String) → List (String × String)
  | [] => [(target, level)]
  | head :: rest =>
    if target < head.1 then (target, level) :: head :: rest
    else if target = head.1 then (target, level) :: rest
    else head :: insert target level rest

def levelsOfJson? : Json → Option (List (String × String))
  | .object members =>
    members.foldlM (fun levels member => member.2.toText?.map fun level => insert member.1 level levels) []
  | _ => none

def ofJson? (value : Json) : Option Filter := do
  let fields ← value.fields? ["filters"]
  return ⟨← fields.required "filters" levelsOfJson?⟩

def toJson (filter : Filter) : Json :=
  .object [("filters", .object (filter.levels.map fun (target, level) => (target, .text level)))]

def directives (filter : Filter) : String :=
  ",".intercalate (filter.levels.map fun (target, level) => target ++ "=" ++ level)

/-- The levels a directive may end in: a level, or none at all. -/
def isLevel (text : List Char) : Bool :=
  let text := String.ofList text
  text == "" || text == "0" || text.toLower == "off" || (Level.ofText? text).isSome
    || (Decimal.readWord text).toOption = some 0

def mayStart (c : Char) : Bool := Text.isAlphanumeric c || c = '-' || c = ':' || c = '_'

def isDigits (cs : List Char) : Bool := cs.all fun c => (Text.decimalDigit? c).isSome

def isMantissa (cs : List Char) : Bool :=
  match Text.cut? '.' cs with
  | none => !cs.isEmpty && isDigits cs
  | some (whole, part) => !(whole ++ part).isEmpty && isDigits (whole ++ part)

def withoutSign : List Char → List Char
  | '+' :: rest => rest
  | '-' :: rest => rest
  | cs => cs

def isMagnitude (cs : List Char) : Bool :=
  ["inf", "infinity", "nan"].contains (String.ofList cs).toLower
    || match Text.cut? 'e' ((String.ofList cs).toLower.toList) with
      | none => isMantissa cs
      | some (mantissa, exponent) =>
        isMantissa mantissa && !(withoutSign exponent).isEmpty && isDigits (withoutSign exponent)

/-- A value that fields are compared with is a number, or else a pattern. -/
def isValue (cs : List Char) : Bool := isMagnitude (withoutSign cs) || Pattern.valid cs

/-- A field, alone or with a value; a second value does not matter. -/
def isField (cs : List Char) : Bool :=
  match Text.split '=' cs with
  | _ :: value :: _ => isValue value
  | _ => true

/-- What has been read of a directive, with the place where the part that is being read starts. -/
inductive Stage where
  | target
  | span
  | field (start : Nat)
  | fields
  | closed
  | level (start : Nat)

namespace Stage

def stretch? (text : Bytes) (start stop : Nat) : Option (List Char) :=
  (Utf8.decode? ((text.drop start).take (stop - start))).map (·.toList)

def next? (text : Bytes) (place : Nat) (c : Char) : Stage → Option Stage
  | .target => some (if c = '=' then .level (place + 1) else if c = '[' then .span else .target)
  | .span => some (if c = ']' then .closed else if c = '\x7b' then .field (place + 1) else .span)
  | .field start =>
    if c = '\x7d' then if (stretch? text start place).any isField then some .fields else none
    else some (.field start)
  | .fields => if c = ']' then some .closed else none
  | .closed => if c = '=' then some (.level (place + 1)) else none
  | .level start => some (.level start)

def complete (text : Bytes) : Stage → Bool
  | .target => true
  | .closed => true
  | .level start => (stretch? text start text.length).any isLevel
  | _ => false

def readFrom (text : Bytes) (place : Nat) (stage : Stage) : List Char → Bool
  | [] => stage.complete text
  | c :: rest =>
    match stage.next? text place c with
    | some stage => readFrom text (place + c.utf8Size) stage rest
    | none => false

end Stage

/-- The white space around a directive is skipped, yet places are counted behind it and looked up before it. -/
def isDirective (directive : List Char) : Bool :=
  let directive := String.ofList directive
  let text := Bytes.ofText directive
  match (Text.trim directive).toList with
  | [] => false
  | '[' :: rest => Stage.span.readFrom text 1 rest
  | c :: rest => mayStart c && Stage.target.readFrom text 0 (c :: rest)

/-- Every directive can be followed. A comma in a name or a level divides it into two directives. -/
def valid (filter : Filter) : Bool :=
  ((Text.split ',' filter.directives.toList).filter (!·.isEmpty)).all isDirective

end Filter

end Availability.Logging
