import Availability.Bytes
import Availability.Text.Quoted

namespace Availability.Hex

def digit (n : Nat) : Char := "0123456789abcdef".toList.getD n '0'

def encodeByte (byte : UInt8) : List Char := [digit (byte.toNat / 16), digit (byte.toNat % 16)]

def encode (bytes : Bytes) : String := String.ofList (bytes.flatMap encodeByte)

def digitValue? (byte : UInt8) : Option Nat :=
  if 0x30 ≤ byte ∧ byte ≤ 0x39 then some (byte.toNat - 0x30)
  else if 0x61 ≤ byte ∧ byte ≤ 0x66 then some (byte.toNat - 0x61 + 10)
  else if 0x41 ≤ byte ∧ byte ≤ 0x46 then some (byte.toNat - 0x41 + 10)
  else none

inductive Error where
  | oddLength
  | invalidCharacter (byte : UInt8) (position : Nat)
deriving DecidableEq

def Error.message : Error → String
  | .oddLength => "odd number of digits"
  | .invalidCharacter byte position =>
    s!"invalid character {Text.quotedChar (Char.ofNat byte.toNat)} at position {position}"

def decodePairs (position : Nat) : Bytes → Except Error Bytes
  | [] => .ok []
  | [_] => .error .oddLength
  | high :: low :: rest =>
    match digitValue? high, digitValue? low with
    | none, _ => .error (.invalidCharacter high position)
    | _, none => .error (.invalidCharacter low (position + 1))
    | some h, some l => (decodePairs (position + 2) rest).map (UInt8.ofNat (16 * h + l) :: ·)

/-- Reads hexadecimal digits of either case, after an optional `0x` or `0X`. -/
def decode (text : Bytes) : Except Error Bytes :=
  let digits := match text with
    | 0x30 :: 0x78 :: rest => rest
    | 0x30 :: 0x58 :: rest => rest
    | _ => text
  if digits.length % 2 = 1 then .error .oddLength else decodePairs 0 digits

end Availability.Hex
