import Availability.Bytes
import Availability.Hex
import Availability.Json

/-! Numbers of JSON documents. -/

namespace Availability.Json.Number

def isDigit (byte : UInt8) : Bool := 0x30 ≤ byte && byte ≤ 0x39

def digitValue (byte : UInt8) : Nat := byte.toNat - 0x30

def digitsValue (digits : Bytes) : Nat := digits.foldl (fun value byte => value * 10 + digitValue byte) 0

structure Literal where
  negative : Bool
  digits : Bytes
  fraction : Bytes
  exponent : Bytes

def readDigits (bytes : Bytes) : Option (Bytes × Bytes) :=
  match bytes.span isDigit with
  | ([], _) => none
  | (digits, rest) => some (digits, rest)

def readFraction : Bytes → Option (Bytes × Bytes)
  | 0x2e :: rest => do
    let (digits, rest) ← readDigits rest
    return (0x2e :: digits, rest)
  | rest => some ([], rest)

def readSign : Bytes → Bytes × Bytes
  | 0x2b :: rest => ([0x2b], rest)
  | 0x2d :: rest => ([0x2d], rest)
  | rest => ([], rest)

def readExponent : Bytes → Option (Bytes × Bytes)
  | mark :: rest =>
    if mark = 0x65 || mark = 0x45 then do
      let (sign, rest) := readSign rest
      let (digits, rest) ← readDigits rest
      return (mark :: (sign ++ digits), rest)
    else some ([], mark :: rest)
  | [] => some ([], [])

def readLiteral (bytes : Bytes) : Option (Literal × Bytes) := do
  let (negative, bytes) := match bytes with
    | 0x2d :: rest => (true, rest)
    | rest => (false, rest)
  let (digits, bytes) ← readDigits bytes
  guard (digits.length = 1 ∨ digits.head? ≠ some 0x30)
  let (fraction, bytes) ← readFraction bytes
  let (exponent, bytes) ← readExponent bytes
  return (⟨negative, digits, fraction, exponent⟩, bytes)

structure Scaled where
  significand : Nat
  power : Int

def fits (significand : Nat) (digit : UInt8) : Bool := significand * 10 + digitValue digit < UInt64.size

def scaleWhole (scaled : Scaled) : Bytes → Scaled
  | [] => scaled
  | digit :: rest =>
    if fits scaled.significand digit then scaleWhole ⟨scaled.significand * 10 + digitValue digit, 0⟩ rest
    else ⟨scaled.significand, rest.length + 1⟩

def scalePart (scaled : Scaled) : Bytes → Scaled
  | [] => scaled
  | digit :: rest =>
    if fits scaled.significand digit then
      scalePart ⟨scaled.significand * 10 + digitValue digit, scaled.power - 1⟩ rest
    else scaled

def exponentValue : Bytes → Int
  | _ :: 0x2d :: digits => -(digitsValue digits : Int)
  | _ :: 0x2b :: digits => digitsValue digits
  | _ :: digits => digitsValue digits
  | [] => 0

def Literal.scaled (literal : Literal) : Scaled :=
  let scaled := scalePart (scaleWhole ⟨0, 0⟩ literal.digits) (literal.fraction.drop 1)
  { scaled with power := scaled.power + exponentValue literal.exponent }

/-- The nearest number of 53 binary digits, of two the even one. -/
def roundToDouble (n : Nat) : Nat :=
  let excess := n.log2 - 52
  let kept := n >>> excess
  let lost := n - (kept <<< excess)
  let half := (1 <<< excess) / 2
  if excess = 0 then n
  else if half < lost || (lost = half && kept % 2 = 1) then (kept + 1) <<< excess
  else kept <<< excess

def doubleLimit : Nat := 1 <<< 1024 - 1 <<< 970

/-- The number is a double: significand and power are rounded before they are multiplied. -/
def Scaled.inRange (scaled : Scaled) : Bool :=
  scaled.significand = 0 || scaled.power < 0
    || (scaled.power ≤ 308
      && roundToDouble scaled.significand * roundToDouble (Nat.pow 10 scaled.power.toNat) < doubleLimit)

def Literal.toText (literal : Literal) : String :=
  let bytes := (if literal.negative then [0x2d] else []) ++ literal.digits ++ literal.fraction ++ literal.exponent
  String.ofList (bytes.map fun byte => Char.ofNat byte.toNat)

/-- The number a literal stands for. Zero with a sign has no integer of its own. -/
def Literal.toJson (literal : Literal) : Json :=
  let value := digitsValue literal.digits
  if literal.fraction ≠ [] ∨ literal.exponent ≠ [] then .real literal.toText
  else if literal.negative then
    if value = 0 ∨ 9223372036854775808 < value then .real literal.toText else .int (-value)
  else if value < UInt64.size then .int value
  else .real literal.toText

end Availability.Json.Number
