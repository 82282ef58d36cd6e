import Availability.Bytes

namespace Availability.Utf8

/-- Where a byte string stops being text. `badLength` is absent when the input ends inside a character. -/
structure Fault where
  validUpTo : Nat
  badLength : Option Nat
deriving DecidableEq

def Fault.message (fault : Fault) : String :=
  match fault.badLength with
  | some length => s!"invalid utf-8 sequence of {length} bytes from index {fault.validUpTo}"
  | none => s!"incomplete utf-8 byte sequence from index {fault.validUpTo}"

def isContinuation (byte : UInt8) : Bool := 0x80 ≤ byte && byte ≤ 0xbf

def secondAllowed (first second : UInt8) : Bool :=
  if first = 0xe0 then 0xa0 ≤ second && second ≤ 0xbf
  else if first = 0xed then 0x80 ≤ second && second ≤ 0x9f
  else if first = 0xf0 then 0x90 ≤ second && second ≤ 0xbf
  else if first = 0xf4 then 0x80 ≤ second && second ≤ 0x8f
  else isContinuation second

/-- How many bytes a character starting with `first` has, 0 if no character starts so. -/
def width (first : UInt8) : Nat :=
  if first < 0x80 then 1
  else if first < 0xc2 then 0
  else if first < 0xe0 then 2
  else if first < 0xf0 then 3
  else if first < 0xf5 then 4
  else 0

def faultFrom (index : Nat) : Bytes → Option Fault
  | [] => none
  | first :: rest =>
    match width first with
    | 1 => faultFrom (index + 1) rest
    | 2 =>
      match rest with
      | [] => some ⟨index, none⟩
      | second :: rest => if isContinuation second then faultFrom (index + 2) rest else some ⟨index, some 1⟩
    | 3 =>
      match rest with
      | [] => some ⟨index, none⟩
      | second :: rest =>
        if !secondAllowed first second then some ⟨index, some 1⟩
        else match rest with
          | [] => some ⟨index, none⟩
          | third :: rest =>
            if isContinuation third then faultFrom (index + 3) rest else some ⟨index, some 2⟩
    | 4 =>
      match rest with
      | [] => some ⟨index, none⟩
      | second :: rest =>
        if !secondAllowed first second then some ⟨index, some 1⟩
        else match rest with
          | [] => some ⟨index, none⟩
          | third :: rest =>
            if !isContinuation third then some ⟨index, some 2⟩
            else match rest with
              | [] => some ⟨index, none⟩
              | fourth :: rest =>
                if isContinuation fourth then faultFrom (index + 4) rest else some ⟨index, some 3⟩
    | _ => some ⟨index, some 1⟩

def decode? (bytes : Bytes) : Option String := String.fromUTF8? ⟨bytes.toArray⟩

def decode (bytes : Bytes) : Except Fault String :=
  match decode? bytes with
  | some text => .ok text
  | none => .error ((faultFrom 0 bytes).getD ⟨0, none⟩)

/-- Reads at most `faults` faulty places, each of which becomes one replacement character. -/
def decodeReplacing : (faults : Nat) → Bytes → String
  | 0, bytes => (decode? bytes).getD ""
  | faults + 1, bytes =>
    match faultFrom 0 bytes with
    | none => (decode? bytes).getD ""
    | some fault =>
      let sound := (decode? (bytes.take fault.validUpTo)).getD ""
      match fault.badLength with
      | none => sound.push '\ufffd'
      | some length => sound.push '\ufffd' ++ decodeReplacing faults (bytes.drop (fault.validUpTo + length))

def decodeLossy (bytes : Bytes) : String :=
  match decode? bytes with
  | some text => text
  | none => decodeReplacing bytes.length bytes

end Availability.Utf8
