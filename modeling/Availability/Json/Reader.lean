import Availability.Json.Fields
import Availability.Json.Fragment
import Availability.Json.Number
import Availability.Utf8

namespace Availability.Json

def isBlank (byte : UInt8) : Bool := byte = 0x20 || byte = 0x0a || byte = 0x09 || byte = 0x0d

def skipBlanks (bytes : Bytes) : Bytes := bytes.dropWhile isBlank

def readUnit : Bytes → Option (Nat × Bytes)
  | a :: b :: c :: d :: rest => do
    let a ← Hex.digitValue? a
    let b ← Hex.digitValue? b
    let c ← Hex.digitValue? c
    let d ← Hex.digitValue? d
    return (((a * 16 + b) * 16 + c) * 16 + d, rest)
  | _ => none

def shortEscape? (letter : UInt8) : Option UInt8 :=
  match Char.ofNat letter.toNat with
  | '"' => some 0x22
  | '\\' => some 0x5c
  | '/' => some 0x2f
  | 'b' => some 0x08
  | 'f' => some 0x0c
  | 'n' => some 0x0a
  | 'r' => some 0x0d
  | 't' => some 0x09
  | _ => none

def isHighSurrogate (unit : Nat) : Bool := 0xD800 ≤ unit && unit < 0xDC00

def isLowSurrogate (unit : Nat) : Bool := 0xDC00 ≤ unit && unit < 0xE000

def readLowSurrogate : Bytes → Option (Nat × Bytes)
  | 0x5c :: 0x75 :: rest => (readUnit rest).filter fun (unit, _) => isLowSurrogate unit
  | _ => none

def escapedChar (unit : Nat) (rest : Bytes) : Option Char × Bytes :=
  if isHighSurrogate unit then
    match readLowSurrogate rest with
    | some (low, rest) => (some (Char.ofNat (0x10000 + (unit - 0xD800) * 0x400 + (low - 0xDC00))), rest)
    | none => (none, rest)
  else if isLowSurrogate unit then (none, rest)
  else (some (Char.ofNat unit), rest)

/-- The rest of a text whose opening quote was passed; `read` holds the bytes before, the last one first, unless
they are no text already. A text that ends may still be none. -/
def readText : (fuel : Nat) → Bytes → (read : Option Bytes) → Option (Option String × Bytes)
  | 0, _, _ => none
  | _ + 1, 0x22 :: rest, read => some (read.bind fun read => Utf8.decode? read.reverse, rest)
  | fuel + 1, 0x5c :: 0x75 :: rest, read => do
    let (unit, rest) ← readUnit rest
    let (c, rest) := escapedChar unit rest
    readText fuel rest do return (Bytes.ofText (← c).toString).reverse ++ (← read)
  | fuel + 1, 0x5c :: letter :: rest, read => do
    let byte ← shortEscape? letter
    readText fuel rest (read.map (byte :: ·))
  | fuel + 1, byte :: rest, read =>
    if byte < 0x20 || byte = 0x5c then none else readText fuel rest (read.map (byte :: ·))
  | _ + 1, [], _ => none

def textFragment : Option (Option String × Bytes) → Fragment × Option Bytes
  | some (some value, rest) => (.whole (.text value), some rest)
  | some (none, rest) => (.unreadable, some rest)
  | none => (.broken, none)

def numberFragment (bytes : Bytes) : Fragment × Option Bytes :=
  match Number.readLiteral bytes with
  | some (literal, rest) =>
    (if literal.scaled.inRange then .whole literal.toJson else .unreadable, some rest)
  | none => (.broken, none)

mutual

def readValue : (fuel : Nat) → Bytes → Fragment × Option Bytes
  | 0, _ => (.broken, none)
  | fuel + 1, bytes =>
    match skipBlanks bytes with
    | 0x6e :: 0x75 :: 0x6c :: 0x6c :: rest => (.whole .null, some rest)
    | 0x74 :: 0x72 :: 0x75 :: 0x65 :: rest => (.whole (.bool true), some rest)
    | 0x66 :: 0x61 :: 0x6c :: 0x73 :: 0x65 :: rest => (.whole (.bool false), some rest)
    | 0x22 :: rest => textFragment (readText (rest.length + 1) rest (some []))
    | 0x5b :: rest =>
      match skipBlanks rest with
      | 0x5d :: rest => (.list [] true, some rest)
      | rest =>
        let (items, rest) := readItems fuel rest
        (.list items rest.isSome, rest)
    | 0x7b :: rest =>
      match skipBlanks rest with
      | 0x7d :: rest => (.object [] true, some rest)
      | rest =>
        let (members, rest) := readMembers fuel rest
        (.object members rest.isSome, rest)
    | rest => numberFragment rest

def readItems : (fuel : Nat) → Bytes → List Fragment × Option Bytes
  | 0, _ => ([], none)
  | fuel + 1, bytes =>
    match readValue fuel bytes with
    | (item, none) => ([item], none)
    | (item, some rest) =>
      match skipBlanks rest with
      | 0x2c :: rest =>
        let (items, rest) := readItems fuel rest
        (item :: items, rest)
      | 0x5d :: rest => ([item], some rest)
      | _ => ([item], none)

def readMembers : (fuel : Nat) → Bytes → List (Option String × Fragment) × Option Bytes
  | 0, _ => ([], none)
  | fuel + 1, bytes =>
    match skipBlanks bytes with
    | 0x22 :: rest =>
      match readText (rest.length + 1) rest (some []) with
      | none => ([], none)
      | some (name, rest) =>
        match skipBlanks rest with
        | 0x3a :: rest =>
          match readValue fuel rest with
          | (value, none) => ([(name, value)], none)
          | (value, some rest) =>
            match skipBlanks rest with
            | 0x2c :: rest =>
              let (members, rest) := readMembers fuel rest
              ((name, value) :: members, rest)
            | 0x7d :: rest => ([(name, value)], some rest)
            | _ => ([(name, value)], none)
        | _ => ([(name, .broken)], none)
    | _ => ([], none)

end

def Fragment.ofBytes (bytes : Bytes) : Fragment × Option Bytes := readValue (2 * bytes.length + 2) bytes

def depthLimit : Nat := 127

def Fragment.ofDocument? (bytes : Bytes) : Option Fragment :=
  match Fragment.ofBytes bytes with
  | (value, some rest) => if (skipBlanks rest).isEmpty then some value else none
  | (_, none) => none

def document? (bytes : Bytes) : Option Json := (Fragment.ofDocument? bytes).bind (·.toJson? depthLimit)

def ofText? (text : String) : Option Json := document? (Bytes.ofText text)

def structure? (names : List String) (bytes : Bytes) : Option Json :=
  (Fragment.ofDocument? bytes).bind fun value => (value.ofNames names).toJson? depthLimit

def soleMember? {α : Type} (name : String) (value? : Json → Option α) (bytes : Bytes) : Option α := do
  let fields ← (← structure? [name] bytes).fields? [name]
  fields.required name value?

end Availability.Json
