import Availability.Text

namespace Availability.Http

structure MediaType where
  type : String
  subtype : String
  suffix : Option String
  parameters : List (String × String)
deriving DecidableEq

namespace MediaType

def isTokenChar (c : Char) : Bool :=
  c.isAlphanum || ['!', '#', '$', '%', '&', '\'', '*', '+', '-', '.', '^', '_', '|', '~', '`'].contains c

def token? (cs : List Char) : Option (List Char × List Char) :=
  match cs.span isTokenChar with
  | ([], _) => none
  | (token, rest) => some (token, rest)

def quoted? : List Char → Option (List Char × List Char)
  | [] => none
  | first :: rest => do
    let (value, rest) ← Text.cut? '"' rest
    guard ((first :: value).all fun c => 0x1f < c.toNat && c.toNat ≠ 0x7f)
    return (first :: value, rest)

/-- A value, and what follows the semicolon behind it. A bare value may be empty at the end only. -/
def value? : List Char → Option (List Char × List Char)
  | '"' :: rest => do
    let (value, rest) ← quoted? rest
    match rest.dropWhile (· = ' ') with
    | [] => return (value, [])
    | ';' :: rest => return (value, rest)
    | _ => none
  | cs =>
    match cs.span isTokenChar with
    | (value, []) => some (value, [])
    | (first :: value, ';' :: rest) => some (first :: value, rest)
    | _ => none

def lower (cs : List Char) : String := (String.ofList cs).toLower

def parameters? : (fuel : Nat) → List Char → Option (List (String × String))
  | 0, _ => none
  | fuel + 1, cs =>
    match cs.dropWhile (· = ' ') with
    | [] => some []
    | cs => do
      let (name, rest) ← token? cs
      let '=' :: rest := rest | none
      let (value, rest) ← value? rest
      let parameters ← parameters? fuel rest
      return (lower name, String.ofList value) :: parameters

/-- The suffix begins at the last plus sign but one at the start. -/
def cutSuffix (subtype : List Char) : List Char × Option (List Char) :=
  match Text.cut? '+' subtype.reverse with
  | none => (subtype, none)
  | some (_, []) => (subtype, none)
  | some (suffix, stem) => (stem.reverse, some suffix.reverse)

def ofText? (text : String) : Option MediaType := do
  let cs := text.toList
  guard (cs.all fun c => c.toNat < 0x7f)
  let (type, rest) ← token? cs
  let '/' :: rest := rest | none
  let (subtype, rest) ← token? rest
  let parameters ← match rest with
    | [] => some []
    | ';' :: rest => parameters? (rest.length + 1) rest
    | _ => none
  let (stem, suffix) := cutSuffix subtype
  return ⟨lower type, lower stem, suffix.map lower, parameters⟩

def parameter? (mediaType : MediaType) (name : String) : Option String := mediaType.parameters.lookup name

end MediaType

end Availability.Http
