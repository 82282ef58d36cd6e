import Availability.Digest
import Availability.Utf8

namespace Availability.Wire

inductive Error where
  | endOfInput
  | shortText
  | trailingBytes
  | notText (fault : Utf8.Fault)
  | unknownTag (tag : Nat)
  | sizeLimit
deriving DecidableEq

def Error.message : Error → String
  | .endOfInput => "io error: unexpected end of file"
  | .shortText => "io error: "
  | .trailingBytes => "Slice had bytes remaining after deserialization"
  | .notText fault => "string is not valid utf8: " ++ fault.message
  | .unknownTag tag => s!"tag for enum is not valid, found {tag}"
  | .sizeLimit => "the size limit has been reached"

/-- A layout: how a value is written, and how it is read off the front of the bytes that hold it. -/
structure Format (α : Type) where
  encode : α → Bytes
  decode : Bytes → Except Error (α × Bytes)

def takeExactly (count : Nat) (short : Error) (bytes : Bytes) : Except Error (Bytes × Bytes) :=
  let taken := bytes.take count
  if taken.length < count then .error short else .ok (taken, bytes.drop count)

namespace Format

def byte : Format UInt8 where
  encode value := [value]
  decode
    | [] => .error .endOfInput
    | value :: rest => .ok (value, rest)

def word : Format UInt64 where
  encode value := Bytes.littleEndian 8 value.toNat
  decode bytes := do
    let (taken, rest) ← takeExactly 8 .endOfInput bytes
    return (UInt64.ofNat (Bytes.ofLittleEndian taken), rest)

def digest : Format Digest where
  encode := Digest.toBytes
  decode bytes := do
    let (taken, rest) ← takeExactly 32 .endOfInput bytes
    match Digest.ofBytes? taken with
    | some value => return (value, rest)
    | none => .error .endOfInput

def text : Format String where
  encode value := word.encode (UInt64.ofNat value.utf8ByteSize) ++ Bytes.ofText value
  decode bytes := do
    let (length, rest) ← word.decode bytes
    let (taken, rest) ← takeExactly length.toNat .shortText rest
    match Utf8.decode taken with
    | .ok value => return (value, rest)
    | .error fault => .error (.notText fault)

def readItems {α : Type} (item : Format α) : (count : Nat) → (read : List α) → Bytes →
    Except Error (List α × Bytes)
  | 0, read, bytes => .ok (read.reverse, bytes)
  | count + 1, read, bytes =>
    match item.decode bytes with
    | .error err => .error err
    | .ok (value, rest) => readItems item count (value :: read) rest

def list {α : Type} (item : Format α) : Format (List α) where
  encode values := word.encode (UInt64.ofNat values.length) ++ values.flatMap item.encode
  decode bytes := do
    let (count, rest) ← word.decode bytes
    readItems item count.toNat [] rest

def option {α : Type} (item : Format α) : Format (Option α) where
  encode
    | none => [0]
    | some value => 1 :: item.encode value
  decode bytes := do
    let (tag, rest) ← byte.decode bytes
    if tag = 0 then return (none, rest)
    else if tag = 1 then
      let (value, rest) ← item.decode rest
      return (some value, rest)
    else .error (.unknownTag tag.toNat)

def pair {α β : Type} (first : Format α) (second : Format β) : Format (α × β) where
  encode value := first.encode value.1 ++ second.encode value.2
  decode bytes := do
    let (a, rest) ← first.decode bytes
    let (b, rest) ← second.decode rest
    return ((a, b), rest)

def map {α β : Type} (item : Format α) (toValue : α → β) (ofValue : β → α) : Format β where
  encode value := item.encode (ofValue value)
  decode bytes := do
    let (a, rest) ← item.decode bytes
    return (toValue a, rest)

/-- The largest record that is written; reading has no limit. -/
def sizeLimit : Nat := 1024 * 1024

def serialize {α : Type} (format : Format α) (value : α) : Except Error Bytes :=
  let bytes := format.encode value
  if sizeLimit < bytes.length then .error .sizeLimit else .ok bytes

def deserialize {α : Type} (format : Format α) (bytes : Bytes) : Except Error α :=
  match format.decode bytes with
  | .error err => .error err
  | .ok (value, rest) => if rest.isEmpty then .ok value else .error .trailingBytes

end Format

end Availability.Wire
