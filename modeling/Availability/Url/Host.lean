import Availability.Url
import Availability.Url.Domain

namespace Availability.Url.Host

def ipv4Part? : List Char → Option Nat
  | [] => none
  | '0' :: x :: digits =>
    if x = 'x' || x = 'X' then if digits.isEmpty then some 0 else Text.number? 16 Text.hexDigit? digits
    else Text.number? 8 (fun c => (Text.decimalDigit? c).filter (· < 8)) (x :: digits)
  | digits => Text.decimal? digits

def ipv4Parts (cs : List Char) : List (List Char) :=
  let parts := Text.split '.' cs
  match parts.reverse with
  | [] :: rest => if rest.isEmpty then parts else rest.reverse
  | _ => parts

/-- A name whose last part is a number is no name but an address. -/
def endsInNumber (cs : List Char) : Bool :=
  match (ipv4Parts cs).getLast? with
  | some last => (!last.isEmpty && last.all fun c => (Text.decimalDigit? c).isSome) || (ipv4Part? last).isSome
  | none => false

/-- The last part fills what the others leave of four bytes. -/
def ipv4 (cs : List Char) : Except Error Address :=
  let parts := ipv4Parts cs
  match parts.mapM ipv4Part? with
  | none => .error .invalidIpv4Address
  | some numbers =>
    let last := numbers.getLast?.getD 0
    let leading := numbers.dropLast
    let rest := 4 - leading.length
    if 4 < numbers.length ∨ leading.any (255 < ·) ∨ Bytes.capacity rest ≤ last then
      .error .invalidIpv4Address
    else .ok (.v4 (leading ++ (Bytes.bigEndian rest last).map (·.toNat)))

def isReserved (c : Char) : Bool :=
  ['\x00', '\t', '\n', '\r', ' ', '#', '/', ':', '<', '>', '?', '@', '[', '\\', ']', '^', '|'].contains c

def isReservedInDomain (c : Char) : Bool := isReserved c || c.toNat < 0x20 || c = '%' || c.toNat = 0x7f

def ofDomain (cs : List Char) : Except Error Host :=
  let decoded := Utf8.decodeLossy (Percent.decode (Bytes.ofText (String.ofList cs)))
  match Domain.toAscii? decoded.toList with
  | none => .error .invalidDomainName
  | some [] => .error .emptyHost
  | some domain =>
    if domain.any isReservedInDomain then .error .invalidDomainName
    else if endsInNumber domain then (ipv4 domain).map .address else .ok (.name (String.ofList domain))

def bracketed (cs : List Char) : Except Error Host :=
  match cs.reverse with
  | ']' :: inside =>
    match Address.v6? inside.reverse with
    | some pieces => .ok (.address (.v6 pieces))
    | none => .error .invalidIpv6Address
  | _ => .error .invalidIpv6Address

def ofText (cs : List Char) : Except Error Host :=
  if cs.any isReserved then .error .invalidDomainCharacter
  else .ok (.name (String.join ((Bytes.ofText (String.ofList cs)).map fun byte =>
    if 0x20 ≤ byte && byte < 0x7f then String.ofList [Char.ofNat byte.toNat] else Percent.encodeByte byte)))

def read (isSpecial : Bool) (cs : List Char) : Except Error Host :=
  match cs with
  | '[' :: inside => bracketed inside
  | _ => if isSpecial then ofDomain cs else ofText cs

end Availability.Url.Host
