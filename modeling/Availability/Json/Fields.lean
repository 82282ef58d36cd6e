import Availability.Json

namespace Availability.Json

/-- The members a structure is read from, which are given by name or by position. -/
structure Fields where
  positional : Bool
  values : List (String × Option Json)

def occurrences (name : String) (members : List (String × Json)) : Nat :=
  (members.filter (·.1 == name)).length

/-- Unknown names are skipped, a known name may come once, and a list holds nothing beyond the structure. -/
def fields? (names : List String) : Json → Option Fields
  | .object members =>
    if names.all fun name => occurrences name members ≤ 1 then
      some ⟨false, names.map fun name => (name, (members.find? (·.1 == name)).map (·.2))⟩
    else none
  | .list items =>
    if items.length ≤ names.length then
      some ⟨true, names.zip (items.map some ++ List.replicate (names.length - items.length) none)⟩
    else none
  | _ => none

namespace Fields

def find? (fields : Fields) (name : String) : Option Json :=
  (fields.values.find? (·.1 == name)).bind (·.2)

def required {α : Type} (fields : Fields) (name : String) (value? : Json → Option α) : Option α :=
  (fields.find? name).bind value?

/-- Left out by name, the value is absent; a list may not end before it. -/
def optional {α : Type} (fields : Fields) (name : String) (value? : Json → Option α) : Option (Option α) :=
  match fields.find? name with
  | some value => toOption? value? value
  | none => if fields.positional then none else some none

def orDefault {α : Type} (fields : Fields) (name : String) (value? : Json → Option α) (default : α) : Option α :=
  match fields.find? name with
  | some value => value? value
  | none => some default

end Fields

/-- The name of an alternative and what it carries: a bare name, or an object with one member. -/
def alternative? : Json → Option (String × Option Json)
  | .text name => some (name, none)
  | .object [(name, value)] => some (name, some value)
  | _ => none

def bareAlternative? (value : Json) : Option String :=
  match alternative? value with
  | some (name, none) => some name
  | some (name, some .null) => some name
  | _ => none

def ofWord (word : UInt64) : Json := .int word.toNat

def ofBytes (bytes : List UInt8) : Json := .list (bytes.map fun byte => .int byte.toNat)

def word? (value : Json) : Option UInt64 := value.toWord?.map UInt64.ofNat

def bytes? : Json → Option (List UInt8) := toList? toByte?

end Availability.Json
