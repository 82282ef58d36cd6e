import Availability.Text

namespace Availability.Logging.Pattern

structure Flags where
  caseless : Bool := false
  wide : Bool := true
  spaced : Bool := false
deriving DecidableEq

structure FlagChange where
  caseless : Option Bool := none
  wide : Option Bool := none
  spaced : Option Bool := none
  letters : List Char := []
  negated : Bool := false
deriving DecidableEq

def Flags.update (flags : Flags) (change : FlagChange) : Flags :=
  ⟨change.caseless.getD flags.caseless, change.wide.getD flags.wide, change.spaced.getD flags.spaced⟩

namespace FlagChange

def add? (change : FlagChange) (c : Char) : Option FlagChange :=
  if change.letters.contains c then none
  else
    let read := { change with letters := c :: change.letters }
    let on := !change.negated
    match c with
    | '-' => some { read with negated := true }
    | 'i' => some { read with caseless := some on }
    | 'u' => some { read with wide := some on }
    | 'x' => some { read with spaced := some on }
    | c => if ['m', 's', 'U', 'R'].contains c then some read else none

/-- Flags up to the colon or the bracket that ends them; a minus needs one behind it. -/
def read (change : FlagChange) : List Char → Option (FlagChange × Char × List Char)
  | [] => none
  | c :: rest =>
    if c = ':' || c = ')' then
      if change.letters.head? = some '-' then none else some (change, c, rest)
    else (change.add? c).bind fun change => change.read rest

end FlagChange

def skipSpaces (inRemark : Bool) : List Char → List Char
  | [] => []
  | c :: rest =>
    if inRemark then skipSpaces (c ≠ '\n') rest
    else if Text.isBlank c then skipSpaces false rest
    else if c = '#' then skipSpaces true rest
    else c :: rest

def Flags.skip (flags : Flags) (cs : List Char) : List Char := if flags.spaced then skipSpaces false cs else cs

inductive Atom where
  /-- A character; `isByte` if it was written with two hexadecimal digits. -/
  | literal (c : Char) (isByte : Bool)
  /-- A class with a letter for its name, such as digits; the capital letter stands for all others. -/
  | shorthand (letter : Char)
  | property
  | border
  | anchor
deriving DecidableEq

namespace Atom

def operators : List Char :=
  ['\\', '.', '+', '*', '?', '(', ')', '|', '[', ']', '\x7b', '\x7d', '^', '$', '#', '&', '-', '~']

def isEscapable (c : Char) : Bool :=
  operators.contains c || (c.toNat < 128 && !c.isAlphanum && c ≠ '<' && c ≠ '>')

def readHex (flags : Flags) (value : Nat) : (count : Nat) → List Char → Option (Nat × List Char)
  | 0, cs => some (value, cs)
  | count + 1, cs =>
    match flags.skip cs with
    | [] => none
    | c :: rest => (Text.hexDigit? c).bind fun digit => readHex flags (value * 16 + digit) count rest

def readCode (flags : Flags) (count : Nat) (cs : List Char) : Option (Atom × List Char) := do
  let (code, rest) ← readHex flags 0 count cs
  guard code.isValidChar
  return (.literal (Char.ofNat code) (count = 2 && code < 256), flags.skip rest)

def readEscape (flags : Flags) : List Char → Option (Atom × List Char)
  | [] => none
  | c :: rest =>
    if c = 'x' then readCode flags 2 rest
    else if c = 'u' then readCode flags 4 rest
    else if c = 'U' then readCode flags 8 rest
    else if c = 'p' || c = 'P' then (flags.skip rest).head?.map fun _ => (.property, (flags.skip rest).drop 1)
    else if ['d', 's', 'w', 'D', 'S', 'W'].contains c then some (.shorthand c, rest)
    else if ['a', 'f', 't', 'n', 'r', 'v'].contains c then some (.literal '\t' false, rest)
    else if c = 'A' || c = 'z' then some (.anchor, rest)
    else if ['b', 'B', '<', '>'].contains c then some (.border, rest)
    else if isEscapable c then some (.literal c false, rest)
    else none

/-- Characters beyond the first 128 have no case, and neither cases nor classes nor words are known for them. -/
def allowed (flags : Flags) : Atom → Bool
  | .literal c isByte => if flags.wide then !flags.caseless else !isByte || c.toNat < 128
  | .shorthand letter => !flags.wide && letter.isLower
  | .property => false
  | .border => !flags.wide
  | .anchor => true

end Atom

end Availability.Logging.Pattern
