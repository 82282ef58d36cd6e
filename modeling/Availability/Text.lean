namespace Availability.Text

def decimalDigit? (c : Char) : Option Nat := if '0' ≤ c ∧ c ≤ '9' then some (c.toNat - '0'.toNat) else none

def hexDigit? (c : Char) : Option Nat :=
  if '0' ≤ c ∧ c ≤ '9' then some (c.toNat - '0'.toNat)
  else if 'a' ≤ c ∧ c ≤ 'f' then some (c.toNat - 'a'.toNat + 10)
  else if 'A' ≤ c ∧ c ≤ 'F' then some (c.toNat - 'A'.toNat + 10)
  else none

def number? (base : Nat) (digit? : Char → Option Nat) : List Char → Option Nat
  | [] => none
  | cs => cs.foldlM (fun value c => (digit? c).map (value * base + ·)) 0

def decimal? (cs : List Char) : Option Nat := number? 10 decimalDigit? cs

/-- White space: what a reader of a line sees as a gap. -/
def isBlank (c : Char) : Bool :=
  let n := c.toNat
  (9 ≤ n && n ≤ 13) || n = 0x20 || n = 0x85 || n = 0xa0 || n = 0x1680 || (0x2000 ≤ n && n ≤ 0x200a)
    || n = 0x2028 || n = 0x2029 || n = 0x202f || n = 0x205f || n = 0x3000

def trimStart (cs : List Char) : List Char := cs.dropWhile isBlank

def trim (text : String) : String :=
  String.ofList (trimStart (trimStart text.toList).reverse).reverse

/-- The pieces between separators: one more than there are separators. -/
def split (separator : Char) : List Char → List (List Char)
  | [] => [[]]
  | c :: rest =>
    if c = separator then [] :: split separator rest
    else match split separator rest with
      | [] => [[c]]
      | piece :: pieces => (c :: piece) :: pieces

def cut? (separator : Char) : List Char → Option (List Char × List Char)
  | [] => none
  | c :: rest =>
    if c = separator then some ([], rest)
    else (cut? separator rest).map fun (before, behind) => (c :: before, behind)

def hexNumbers (text : String) : List Nat :=
  let step (state : List Nat × Option Nat) (c : Char) : List Nat × Option Nat :=
    match hexDigit? c, state with
    | some digit, (numbers, number) => (numbers, some (number.getD 0 * 16 + digit))
    | none, (numbers, some number) => (number :: numbers, none)
    | none, (numbers, none) => (numbers, none)
  ((text.push ' ').foldl step ([], none)).1.reverse

def hexGroups (lines : List String) : List (List Nat) :=
  (lines.flatMap fun line => line.splitOn " ").map hexNumbers

structure CharSet where
  ranges : List (Nat × Nat)

namespace CharSet

/-- Ranges from the lengths of gaps and ranges by turns, the first gap beginning at `start`. -/
def rangesFrom (start : Nat) : List Nat → List (Nat × Nat)
  | gap :: length :: rest => (start + gap, start + gap + length - 1) :: rangesFrom (start + gap + length) rest
  | _ => []

/-- The set whose gaps and ranges, from code 0 on, have the hexadecimal lengths in the lines. -/
def ofLengths (lines : List String) : CharSet := ⟨rangesFrom 0 (lines.flatMap hexNumbers)⟩

def contains (set : CharSet) (c : Char) : Bool :=
  set.ranges.any fun (first, last) => first ≤ c.toNat && c.toNat ≤ last

end CharSet

end Availability.Text

namespace Availability.Decimal

inductive Error where
  | empty
  | invalidDigit
  | tooLarge
deriving DecidableEq

def Error.message : Error → String
  | .empty => "cannot parse integer from empty string"
  | .invalidDigit => "invalid digit found in string"
  | .tooLarge => "number too large to fit in target type"

def readDigits (read : Nat) : List Char → Except Error Nat
  | [] => .ok read
  | c :: rest =>
    match Text.decimalDigit? c with
    | none => .error .invalidDigit
    | some digit =>
      let read := read * 10 + digit
      if UInt64.size ≤ read then .error .tooLarge else readDigits read rest

/-- Reads decimal digits after an optional plus sign. -/
def readWord (text : String) : Except Error UInt64 :=
  match text.toList with
  | [] => .error .empty
  | ['+'] => .error .invalidDigit
  | '+' :: digits => (readDigits 0 digits).map UInt64.ofNat
  | digits => (readDigits 0 digits).map UInt64.ofNat

end Availability.Decimal
