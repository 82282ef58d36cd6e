namespace Availability

/-- A JSON document. Numbers written without fraction and exponent that fit a signed or an unsigned
64 bit word are `int`; every other number keeps only its literal. Members keep their order. -/
inductive Json where
  | null
  | bool (value : Bool)
  | int (value : Int)
  | real (literal : String)
  | text (value : String)
  | list (items : List Json)
  | object (members : List (String × Json))
deriving Inhabited

namespace Json

def nat (n : Nat) : Json := .int n

def texts (items : List String) : Json := .list (items.map .text)

def nats (items : List Nat) : Json := .list (items.map nat)

def orNull {α : Type} (f : α → Json) : Option α → Json
  | none => .null
  | some a => f a

/-- The last member of that name. -/
def member? (name : String) : Json → Option Json
  | .object members => (members.reverse.find? (·.1 == name)).map (·.2)
  | _ => none

def toText? : Json → Option String
  | .text value => some value
  | _ => none

def toWord? : Json → Option Nat
  | .int value => if 0 ≤ value ∧ value < UInt64.size then some value.toNat else none
  | _ => none

def toBool? : Json → Option Bool
  | .bool value => some value
  | _ => none

def toByte? : Json → Option UInt8
  | .int value => if 0 ≤ value ∧ value < 256 then some (UInt8.ofNat value.toNat) else none
  | _ => none

def toList? {α : Type} (item? : Json → Option α) : Json → Option (List α)
  | .list items => items.mapM item?
  | _ => none

def toOption? {α : Type} (value? : Json → Option α) : Json → Option (Option α)
  | .null => some none
  | value => (value? value).map some

end Json

end Availability
