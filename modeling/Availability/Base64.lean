import Availability.Bytes

namespace Availability.Base64

inductive Error where
  | invalidByte (byte : UInt8) (offset : Nat)
  | invalidLength
  | invalidLastSymbol (byte : UInt8) (offset : Nat)
  | invalidPadding
deriving DecidableEq

def Error.message : Error → String
  | .invalidByte byte offset => s!"Invalid byte {byte.toNat}, offset {offset}."
  | .invalidLength => "Encoded text cannot have a 6-bit remainder."
  | .invalidLastSymbol byte offset => s!"Invalid last symbol {byte.toNat}, offset {offset}."
  | .invalidPadding => "Invalid padding"

def alphabet : String := "ABCDEFGHIJKLMNOPQRSTUVWXYZabcdefghijklmnopqrstuvwxyz0123456789+/"

def digit (n : Nat) : Char := alphabet.toList.getD n 'A'

/-- Three bytes to four characters; a shorter end is filled up with `=`. -/
def encodeChars : Bytes → List Char
  | [] => []
  | [a] => [digit (a.toNat / 4), digit (a.toNat % 4 * 16), '=', '=']
  | [a, b] => [digit (a.toNat / 4), digit (a.toNat % 4 * 16 + b.toNat / 16), digit (b.toNat % 16 * 4), '=']
  | a :: b :: c :: rest =>
    digit (a.toNat / 4) :: digit (a.toNat % 4 * 16 + b.toNat / 16) :: digit (b.toNat % 16 * 4 + c.toNat / 64)
      :: digit (c.toNat % 64) :: encodeChars rest

def encode (bytes : Bytes) : String := String.ofList (encodeChars bytes)

def padding : UInt8 := 0x3d

def value? (byte : UInt8) : Option Nat :=
  if 0x41 ≤ byte ∧ byte ≤ 0x5a then some (byte.toNat - 0x41)
  else if 0x61 ≤ byte ∧ byte ≤ 0x7a then some (byte.toNat - 0x61 + 26)
  else if 0x30 ≤ byte ∧ byte ≤ 0x39 then some (byte.toNat - 0x30 + 52)
  else if byte = 0x2b then some 62
  else if byte = 0x2f then some 63
  else none

def value (byte : UInt8) (offset : Nat) : Except Error Nat :=
  match value? byte with
  | some n => .ok n
  | none => .error (.invalidByte byte offset)

/-- Reads groups of four characters, `offset` being that of the first. Padding may only end the last group. -/
def decodeGroups (offset : Nat) : Bytes → Except Error Bytes
  | [] => .ok []
  | [_] => .error .invalidLength
  | [a, b] => do
    let _ ← value a offset
    let _ ← value b (offset + 1)
    .error .invalidPadding
  | [a, b, c] => do
    let _ ← value a offset
    let _ ← value b (offset + 1)
    if c ≠ padding then
      let _ ← value c (offset + 2)
    .error .invalidPadding
  | a :: b :: c :: d :: rest => do
    let p ← value a offset
    let q ← value b (offset + 1)
    if c = padding then
      if d ≠ padding ∨ rest ≠ [] then .error (.invalidByte c (offset + 2))
      else if q % 16 ≠ 0 then .error (.invalidLastSymbol b (offset + 1))
      else return [UInt8.ofNat (p * 4 + q / 16)]
    else
      let r ← value c (offset + 2)
      if d = padding then
        if rest ≠ [] then .error (.invalidByte d (offset + 3))
        else if r % 4 ≠ 0 then .error (.invalidLastSymbol c (offset + 2))
        else return [UInt8.ofNat (p * 4 + q / 16), UInt8.ofNat (q % 16 * 16 + r / 4)]
      else
        let s ← value d (offset + 3)
        let bytes ← decodeGroups (offset + 4) rest
        return UInt8.ofNat (p * 4 + q / 16) :: UInt8.ofNat (q % 16 * 16 + r / 4) :: UInt8.ofNat (r % 4 * 64 + s)
          :: bytes

/-- A length that no data has is refused before any character but the last is looked at. -/
def decode (text : Bytes) : Except Error Bytes :=
  if text.length % 4 = 1 then
    match text.getLast? with
    | some last =>
      if last ≠ padding ∧ (value? last).isNone then .error (.invalidByte last (text.length - 1))
      else .error .invalidLength
    | none => .error .invalidLength
  else decodeGroups 0 text

end Availability.Base64
