import Availability.Json

namespace Availability.Json

/-- A value as far as it could be read: a text may be at fault before the value ends. -/
inductive Fragment where
  | broken
  /-- A text or a number that ends but cannot be read: no characters, or beyond the doubles. -/
  | unreadable
  | whole (value : Json)
  | list (items : List Fragment) (closed : Bool)
  | object (members : List (Option String × Fragment)) (closed : Bool)

namespace Fragment

mutual

def complete : Fragment → Bool
  | .broken => false
  | .unreadable => true
  | .whole _ => true
  | .list items closed => completeAll items && closed
  | .object members closed => completeMembers members && closed

def completeAll : List Fragment → Bool
  | [] => true
  | item :: rest => item.complete && completeAll rest

def completeMembers : List (Option String × Fragment) → Bool
  | [] => true
  | (_, value) :: rest => value.complete && completeMembers rest

end

mutual

def toJson? : (depth : Nat) → Fragment → Option Json
  | _, .broken => none
  | _, .unreadable => none
  | _, .whole value => some value
  | depth + 1, .list items true => (itemsToJson? depth items).map .list
  | depth + 1, .object members true => (membersToJson? depth members).map .object
  | _, .list .. => none
  | _, .object .. => none

def itemsToJson? : (depth : Nat) → List Fragment → Option (List Json)
  | _, [] => some []
  | depth, item :: rest => do
    let value ← toJson? depth item
    let values ← itemsToJson? depth rest
    return value :: values

def membersToJson? : (depth : Nat) → List (Option String × Fragment) → Option (List (String × Json))
  | _, [] => some []
  | depth, (name, item) :: rest => do
    let name ← name
    let value ← toJson? depth item
    let values ← membersToJson? depth rest
    return (name, value) :: values

end

/-- Without the members that a structure of these names skips, unread beyond their end. -/
def ofNames (names : List String) : Fragment → Fragment
  | .object members closed =>
    .object (members.filter fun (name, value) => !(name.any (!names.contains ·) && value.complete)) closed
  | value => value

end Fragment

end Availability.Json
