import Availability.Logging.Pattern.Atom

/-! Classes of characters in brackets, with the bytes they stand for when bytes are matched. -/

namespace Availability.Logging.Pattern

def depthLimit : Nat := 250

/-- Pieces side by side, of which it is only known how deep they are. -/
structure Row where
  count : Nat := 0
  last : Nat := 0
  before : Nat := 0

namespace Row

def add (row : Row) (depth : Nat) : Row := ⟨row.count + 1, depth, max row.before row.last⟩

def deepen (row : Row) : Row := { row with last := row.last + 1 }

/-- Several pieces are a level of their own. -/
def depth (row : Row) : Nat := if row.count ≤ 1 then row.last else max row.before row.last + 1

end Row

/-- A set of bytes, whose codes are the places of the ones in the number. -/
abbrev ByteSet := Nat

namespace ByteSet

def range (first last : Nat) : ByteSet := ((1 <<< (last + 1 - first)) - 1) <<< first

def all : ByteSet := range 0 255

def complement (set : ByteSet) : ByteSet := all ^^^ set

def difference (left right : ByteSet) : ByteSet := left &&& right.complement

def capitals : ByteSet := range 65 90

def smalls : ByteSet := range 97 122

def digits : ByteSet := range 48 57

def letters : ByteSet := capitals ||| smalls

def word : ByteSet := letters ||| digits ||| range 95 95

def blank : ByteSet := range 9 9 ||| range 32 32

def space : ByteSet := range 9 13 ||| range 32 32

def caseless (set : ByteSet) : ByteSet :=
  set ||| ((set &&& capitals) <<< 32) ||| ((set &&& smalls) >>> 32)

def named : List (String × ByteSet) := [
  ("alnum", letters ||| digits), ("alpha", letters), ("ascii", range 0 127), ("blank", blank),
  ("cntrl", range 0 31 ||| range 127 127), ("digit", digits), ("graph", range 33 126), ("lower", smalls),
  ("print", range 32 126), ("punct", difference (range 33 126) (letters ||| digits)), ("space", space),
  ("upper", capitals), ("word", word), ("xdigit", digits ||| range 65 70 ||| range 97 102)]

def shorthand (letter : Char) : ByteSet :=
  match letter with
  | 'd' => digits
  | 's' => space
  | 'w' => word
  | 'D' => digits.complement
  | 'S' => space.complement
  | _ => word.complement

end ByteSet

inductive SetOperation where
  | intersection
  | difference
  | symmetricDifference
deriving DecidableEq

def SetOperation.apply : SetOperation → ByteSet → ByteSet → ByteSet
  | .intersection, left, right => left &&& right
  | .difference, left, right => left.difference right
  | .symmetricDifference, left, right => left ^^^ right

structure LeftSide where
  operation : SetOperation
  items : ByteSet
  depth : Nat

structure OpenClass where
  negated : Bool
  left : Option LeftSide := none
  items : ByteSet := 0
  row : Row := {}

namespace OpenClass

def add (opened : OpenClass) (set : ByteSet) (depth : Nat) : OpenClass :=
  { opened with items := opened.items ||| set, row := opened.row.add depth }

def depth (opened : OpenClass) : Nat :=
  match opened.left with
  | none => opened.row.depth
  | some left => max left.depth opened.row.depth + 1

def sides (flags : Flags) (opened : OpenClass) : ByteSet :=
  match opened.left with
  | none => opened.items
  | some left =>
    if flags.caseless then left.operation.apply (ByteSet.caseless left.items) (ByteSet.caseless opened.items)
    else left.operation.apply left.items opened.items

def operate (flags : Flags) (opened : OpenClass) (operation : SetOperation) : OpenClass :=
  { opened with left := some ⟨operation, opened.sides flags, opened.depth⟩, items := 0, row := {} }

/-- The bytes of the class, and how deep it is. Bytes beyond the first 128 are no characters, so that a class may not
hold them in the end. -/
def close? (flags : Flags) (opened : OpenClass) : Option (ByteSet × Nat) :=
  let set := opened.sides flags
  let set := if flags.caseless then ByteSet.caseless set else set
  let set := if opened.negated then ByteSet.complement set else set
  if flags.wide || set < ByteSet.range 128 128 then some (set, opened.depth + 1) else none

end OpenClass

namespace Class

/-- The items that stand for themselves at the start of a class: minus signs, or else a closing bracket. -/
def readStart (flags : Flags) (opened : OpenClass) : List Char → OpenClass × List Char
  | '-' :: rest => readDashes (opened.add (ByteSet.range 45 45) 0) (flags.skip rest)
  | ']' :: rest => (opened.add (ByteSet.range 93 93) 0, flags.skip rest)
  | cs => (opened, cs)
where
  readDashes (opened : OpenClass) : List Char → OpenClass × List Char
    | '-' :: rest => readDashes (opened.add (ByteSet.range 45 45) 0) rest
    | cs => (opened, cs)

def readOpening (flags : Flags) (cs : List Char) : OpenClass × List Char :=
  match flags.skip cs with
  | '^' :: rest => readStart flags { negated := true } (flags.skip rest)
  | cs => readStart flags { negated := false } cs

def readNamed? (cs : List Char) : Option (ByteSet × List Char) := do
  let ':' :: rest := cs | none
  let (negated, rest) := match rest with
    | '^' :: rest => (true, rest)
    | _ => (false, rest)
  let (name, behind) ← Text.cut? ':' rest
  let ']' :: behind := behind | none
  let set ← ByteSet.named.lookup (String.ofList name)
  return (if negated then set.complement else set, behind)

def readItem (flags : Flags) : List Char → Option (Atom × List Char)
  | [] => none
  | '\\' :: rest => Atom.readEscape flags rest
  | c :: rest => some (.literal c false, rest)

def single? (flags : Flags) : Atom → Option ByteSet
  | .literal c isByte =>
    if flags.wide then some 0
    else if c.toNat < 128 || isByte then some (ByteSet.range c.toNat c.toNat)
    else none
  | .shorthand letter => if flags.wide then none else some (ByteSet.shorthand letter)
  | _ => none

def range? (flags : Flags) : Atom → Atom → Option ByteSet
  | .literal first firstIsByte, .literal last lastIsByte => do
    guard (first ≤ last)
    let _ ← single? flags (.literal first firstIsByte)
    let _ ← single? flags (.literal last lastIsByte)
    return if flags.wide then 0 else ByteSet.range first.toNat last.toNat
  | _, _ => none

def readRange (flags : Flags) (cs : List Char) : Option (ByteSet × List Char) := do
  let (first, rest) ← readItem flags cs
  match flags.skip rest with
  | [] => none
  | '-' :: behind =>
    match flags.skip behind with
    | [] => none
    | ']' :: _ => return (← single? flags first, flags.skip rest)
    | '-' :: _ => return (← single? flags first, flags.skip rest)
    | behind => do
      let (last, rest) ← readItem flags behind
      return (← range? flags first last, rest)
  | rest => return (← single? flags first, rest)

def readFrom (flags : Flags) : (fuel : Nat) → OpenClass → List Char → Option ((ByteSet × Nat) × List Char)
  | 0, _, _ => none
  | fuel + 1, opened, cs =>
    match flags.skip cs with
    | [] => none
    | '[' :: rest =>
      match readNamed? rest with
      | some (set, rest) => readFrom flags fuel (opened.add set 0) rest
      | none => do
        let (nested, rest) := readOpening flags rest
        let ((set, depth), rest) ← readFrom flags fuel nested rest
        readFrom flags fuel (opened.add set depth) rest
    | ']' :: rest => (opened.close? flags).map (·, rest)
    | '&' :: '&' :: rest => readFrom flags fuel (opened.operate flags .intersection) rest
    | '-' :: '-' :: rest => readFrom flags fuel (opened.operate flags .difference) rest
    | '~' :: '~' :: rest => readFrom flags fuel (opened.operate flags .symmetricDifference) rest
    | cs => do
      let (set, rest) ← readRange flags cs
      readFrom flags fuel (opened.add set 0) rest

def read (flags : Flags) (cs : List Char) : Option (Nat × List Char) := do
  let (opened, rest) := readOpening flags cs
  let ((_, depth), rest) ← readFrom flags (rest.length + 1) opened rest
  guard (!(flags.wide && flags.caseless))
  return (depth, rest)

end Class

end Availability.Logging.Pattern
