import Availability.Json.Fragment

namespace Availability.Json

/-- Why a value was not read: its text is no JSON, or it is JSON of another shape. Reading stops at
whichever comes first. -/
inductive Fault where
  | malformed
  | mismatched
deriving DecidableEq

inductive Shape where
  | text
  | word
  | texts
deriving DecidableEq

namespace Shape

def readText : Fragment → Except Fault Json
  | .broken => .error .malformed
  | .unreadable => .error .malformed
  | .whole (.text value) => .ok (.text value)
  | _ => .error .mismatched

def read : Shape → Fragment → Except Fault Json
  | _, .broken => .error .malformed
  | _, .unreadable => .error .malformed
  | .text, fragment => readText fragment
  | .word, .whole value => if value.toWord?.isSome then .ok value else .error .mismatched
  | .texts, .list items closed => do
    let values ← items.mapM readText
    if closed then return .list values else .error .malformed
  | _, _ => .error .mismatched

/-- Members in the order of the text, `read` holding those before. Unknown ones are skipped. -/
def readMembers (fields : List (String × Shape)) : List (Option String × Fragment) →
    (read : List (String × Json)) → Except Fault (List (String × Json))
  | [], read => .ok read.reverse
  | (none, _) :: _, _ => .error .malformed
  | (some name, value) :: rest, read =>
    match fields.lookup name with
    | none => if value.complete then readMembers fields rest read else .error .malformed
    | some shape => do
      if read.any (·.1 == name) then .error .mismatched
      let value ← shape.read value
      readMembers fields rest ((name, value) :: read)

def readItems (closed : Bool) : List (String × Shape) → List Fragment → Except Fault (List (String × Json))
  | [], [] => if closed then .ok [] else .error .malformed
  | [], _ :: _ => .error .malformed
  | _ :: _, [] => .error (if closed then .mismatched else .malformed)
  | (name, shape) :: fields, item :: items => do
    let value ← shape.read item
    let values ← readItems closed fields items
    return (name, value) :: values

def readStructure (fields : List (String × Shape)) : Fragment → Except Fault Json
  | .broken => .error .malformed
  | .unreadable => .error .malformed
  | .whole _ => .error .mismatched
  | .list items closed => (readItems closed fields items).map .object
  | .object members closed => do
    let read ← readMembers fields members []
    if !closed then .error .malformed
    if fields.all fun field => read.any (·.1 == field.1) then return .object read else .error .mismatched

end Shape

end Availability.Json
