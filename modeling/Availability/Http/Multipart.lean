import Availability.Http
import Availability.Utf8

/-! Forms as they are sent: parts between lines that begin with a boundary. -/

namespace Availability.Http.Multipart

inductive Error where
  | malformed
  | unending (name : String)
deriving DecidableEq

def fault : String := "Error parsing `multipart/form-data` request"

def Error.message : Error → String
  | .malformed => "Malformed form: " ++ fault
  | .unending name => s!"Failed to read form field {name}: {fault}"

def lineEnd : Bytes := [0x0d, 0x0a]

def dashes : Bytes := [0x2d, 0x2d]

/-- What stands before the first place where the pattern is, and what behind it; `before` was passed already, the
last byte first. -/
def cutFrom? (pattern before : Bytes) (bytes : Bytes) : Option (Bytes × Bytes) :=
  if pattern.isPrefixOf bytes then some (before.reverse, bytes.drop pattern.length)
  else
    match bytes with
    | [] => none
    | byte :: rest => cutFrom? pattern (byte :: before) rest

def cut? (pattern bytes : Bytes) : Option (Bytes × Bytes) := cutFrom? pattern [] bytes

def isBlank (byte : UInt8) : Bool := byte = 0x20 || byte = 0x09

def isSpace (byte : UInt8) : Bool := isBlank byte || byte = 0x0a || byte = 0x0c || byte = 0x0d

def isNameByte (byte : UInt8) : Bool :=
  let c := Char.ofNat byte.toNat
  c.isAlphanum || ['!', '#', '$', '%', '&', '\'', '*', '+', '-', '.', '^', '_', '|', '~', '`'].contains c

def isValueByte (byte : UInt8) : Bool := byte = 0x09 || (0x20 ≤ byte && byte ≠ 0x7f)

def headerLimit : Nat := 32

def header? (bytes : Bytes) : Option ((Bytes × Bytes) × Bytes) := do
  let (name, rest) := bytes.span isNameByte
  guard (!name.isEmpty)
  let 0x3a :: rest := rest | none
  let (value, rest) := rest.span isValueByte
  let value := ((value.dropWhile isBlank).reverse.dropWhile isBlank).reverse
  match rest with
  | 0x0d :: 0x0a :: rest => return ((name, value), rest)
  | 0x0a :: rest => return ((name, value), rest)
  | _ => none

def headers? : (limit : Nat) → Bytes → Option (List (Bytes × Bytes))
  | _, 0x0d :: 0x0a :: _ => some []
  | _, 0x0a :: _ => some []
  | 0, _ => none
  | limit + 1, bytes => do
    let (header, rest) ← header? bytes
    let headers ← headers? limit rest
    return header :: headers

/-- A quoted value up to the first quotation mark that has no backslash before it. -/
def quoted? (read : Bytes) : Bytes → Option Bytes
  | [] => none
  | 0x22 :: rest =>
    match read with
    | 0x5c :: before => quoted? (0x22 :: before) rest
    | _ => some read.reverse
  | byte :: rest => quoted? (byte :: read) rest

def attributeValue? (bytes : Bytes) : Option String := do
  let 0x3d :: rest := bytes.dropWhile isSpace | none
  match rest.dropWhile isSpace with
  | 0x22 :: rest => (quoted? [] rest).bind Utf8.decode?
  | rest => Utf8.decode? (rest.takeWhile fun byte => byte ≠ 0x3b && byte ≠ 0x20)

def partName? (last : Option UInt8) : Bytes → Option String
  | [] => none
  | 0x6e :: 0x61 :: 0x6d :: 0x65 :: rest =>
    if last.all fun last => isSpace last || last = 0x3b then attributeValue? rest else partName? none rest
  | byte :: rest => partName? (some byte) rest

def nameOfPart? (headers : List (Bytes × Bytes)) : Option String := do
  let disposition (name : Bytes) : Bool :=
    (Utf8.decode? name).any fun name => name.toLower == "content-disposition"
  let (_, value) ← headers.find? fun (name, _) => disposition name
  partName? none value

/-- The parts behind a boundary, until one that two dashes follow. -/
def partsFrom (boundary : Bytes) : (fuel : Nat) → Bytes → Except Error (List Part)
  | 0, _ => .error .malformed
  | fuel + 1, bytes =>
    if dashes.isPrefixOf bytes then .ok []
    else
      match cut? (lineEnd ++ lineEnd) ((bytes.dropWhile isBlank).drop 2) with
      | none => .error .malformed
      | some (block, rest) =>
        match lineEnd.isPrefixOf (bytes.dropWhile isBlank), headers? headerLimit (block ++ lineEnd ++ lineEnd) with
        | true, some headers =>
          match cut? (lineEnd ++ dashes ++ boundary) rest with
          | none => .error ((nameOfPart? headers).elim .malformed .unending)
          | some (content, rest) => (partsFrom boundary fuel rest).map (⟨nameOfPart? headers, content⟩ :: ·)
        | _, _ => .error .malformed

/-- The parts of a form; what stands before the first boundary does not matter. -/
def parts (boundary bytes : Bytes) : Except Error (List Part) :=
  match cut? (dashes ++ boundary) bytes with
  | none => .error .malformed
  | some (_, rest) => partsFrom boundary (rest.length + 1) rest

end Availability.Http.Multipart
