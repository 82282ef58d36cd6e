import Availability.Hex
import Availability.Text
import Availability.Utf8

/-! Percent encoding, and the pairs of names and values of a query. -/

namespace Availability.Percent

/-- Every `%` before two hexadecimal digits stands with them for one byte. -/
def decode : Bytes → Bytes
  | [] => []
  | [a] => [a]
  | [a, b] => [a, b]
  | a :: b :: c :: rest =>
    if a = 0x25 then
      match Hex.digitValue? b, Hex.digitValue? c with
      | some high, some low => UInt8.ofNat (16 * high + low) :: decode rest
      | _, _ => a :: decode (b :: c :: rest)
    else a :: decode (b :: c :: rest)

def encodeByte (byte : UInt8) : String :=
  String.ofList ['%', (Hex.digit (byte.toNat / 16)).toUpper, (Hex.digit (byte.toNat % 16)).toUpper]

/-- A component of a query: plus signs stand for blanks. -/
def decodeComponent (component : List Char) : String :=
  let blanked := (Bytes.ofText (String.ofList component)).map fun byte => if byte = 0x2b then 0x20 else byte
  Utf8.decodeLossy (decode blanked)

def pair (part : List Char) : String × String :=
  match Text.cut? '=' part with
  | some (name, value) => (decodeComponent name, decodeComponent value)
  | none => (decodeComponent part, "")

def pairs (query : String) : List (String × String) :=
  ((Text.split '&' query.toList).filter (!·.isEmpty)).map pair

def isPlain (byte : UInt8) : Bool :=
  (0x30 ≤ byte && byte ≤ 0x39) || (0x41 ≤ byte && byte ≤ 0x5a) || (0x61 ≤ byte && byte ≤ 0x7a)
    || byte = 0x2a || byte = 0x2d || byte = 0x2e || byte = 0x5f

def encodeQueryByte (byte : UInt8) : String :=
  if byte = 0x20 then "+" else if isPlain byte then String.ofList [Char.ofNat byte.toNat] else encodeByte byte

def encodeComponent (text : String) : String := String.join ((Bytes.ofText text).map encodeQueryByte)

def query (pairs : List (String × String)) : String :=
  "&".intercalate (pairs.map fun (name, value) => encodeComponent name ++ "=" ++ encodeComponent value)

end Availability.Percent
