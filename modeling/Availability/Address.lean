import Availability.Text

/-! Network addresses: four bytes, or eight 16 bit pieces, with a port. -/

namespace Availability

inductive Address where
  | v4 (bytes : List Nat)
  | v6 (pieces : List Nat)
deriving DecidableEq

namespace Address

def byte? (cs : List Char) : Option Nat := do
  guard (cs.length = 1 ∨ cs.head? ≠ some '0')
  let value ← Text.decimal? cs
  if value < 256 then some value else none

def v4? (cs : List Char) : Option (List Nat) := do
  let bytes ← (Text.split '.' cs).mapM byte?
  if bytes.length = 4 then some bytes else none

def piece? (cs : List Char) : Option Nat := if cs.length ≤ 4 then Text.number? 16 Text.hexDigit? cs else none

/-- Pieces between colons; the last two may be written as four bytes if `mixed`. -/
def pieces? (mixed : Bool) : List (List Char) → Option (List Nat)
  | [] => some []
  | [last] =>
    match v4? last with
    | some [a, b, c, d] => if mixed then some [a * 256 + b, c * 256 + d] else none
    | _ => (piece? last).map fun value => [value]
  | group :: rest => do
    let value ← piece? group
    let values ← pieces? mixed rest
    return value :: values

def sidePieces? (mixed : Bool) (cs : List Char) : Option (List Nat) :=
  if cs.isEmpty then some [] else pieces? mixed (Text.split ':' cs)

def cutGap? : List Char → Option (List Char × List Char)
  | ':' :: ':' :: rest => some ([], rest)
  | c :: rest => (cutGap? rest).map fun (before, behind) => (c :: before, behind)
  | [] => none

/-- Eight pieces; a double colon stands for one or more that are zero. -/
def v6? (cs : List Char) : Option (List Nat) :=
  match cutGap? cs with
  | none => do
    let pieces ← pieces? true (Text.split ':' cs)
    if pieces.length = 8 then some pieces else none
  | some (front, back) => do
    let front ← sidePieces? false front
    let back ← sidePieces? true back
    if front.length + back.length ≤ 7 then
      some (front ++ List.replicate (8 - front.length - back.length) 0 ++ back)
    else none

def dotted (bytes : List Nat) : String := ".".intercalate (bytes.map toString)

def hexPiece (n : Nat) : String := String.ofList (Nat.toDigits 16 n)

def zeros (pieces : List Nat) : Nat := (pieces.takeWhile (· = 0)).length

/-- The longest run of at least two zeros, the first of several: where it starts and how long it is. -/
def longestGap (start : Nat) (best : Nat × Nat) : List Nat → Nat × Nat
  | [] => best
  | piece :: rest =>
    let run := zeros (piece :: rest)
    longestGap (start + 1) (if max 1 best.2 < run then (start, run) else best) rest

def colonHex (pieces : List Nat) : String := ":".intercalate (pieces.map hexPiece)

def compressed (pieces : List Nat) : String :=
  let (start, length) := longestGap 0 (0, 0) pieces
  if length = 0 then colonHex pieces
  else colonHex (pieces.take start) ++ "::" ++ colonHex (pieces.drop (start + length))

def toText : Address → String
  | .v4 bytes => dotted bytes
  | .v6 [0, 0, 0, 0, 0, 0xffff, high, low] =>
    "::ffff:" ++ dotted [high / 256, high % 256, low / 256, low % 256]
  | .v6 pieces => compressed pieces

end Address

structure Socket where
  address : Address
  scope : Nat := 0
  port : Nat
deriving DecidableEq

namespace Socket

def port? (cs : List Char) : Option Nat := do
  let port ← Text.decimal? cs
  if port < UInt16.size then some port else none

def scope? (cs : List Char) : Option Nat := do
  let scope ← Text.decimal? cs
  if scope < UInt32.size then some scope else none

def bracketed? (cs : List Char) : Option Socket := do
  let (inside, rest) ← Text.cut? ']' cs
  match rest with
  | ':' :: port => do
    let port ← port? port
    match Text.cut? '%' inside with
    | none => return ⟨.v6 (← Address.v6? inside), 0, port⟩
    | some (address, scope) => return ⟨.v6 (← Address.v6? address), ← scope? scope, port⟩
  | _ => none

def ofText? (text : String) : Option Socket :=
  match text.toList with
  | '[' :: rest => bracketed? rest
  | cs => do
    let (address, port) ← Text.cut? ':' cs
    return ⟨.v4 (← Address.v4? address), 0, ← port? port⟩

def toText (socket : Socket) : String :=
  match socket.address with
  | .v4 _ => s!"{socket.address.toText}:{socket.port}"
  | .v6 _ =>
    let zone := if socket.scope = 0 then "" else s!"%{socket.scope}"
    s!"[{socket.address.toText}{zone}]:{socket.port}"

end Socket

end Availability
