import Availability.Json.Writer
import Availability.Proofs.Utf8

namespace Availability

namespace Bytes

theorem ofText_empty : ofText "" = [] := ofText_eq_nil_iff.mpr rfl

theorem ofText_singleton (c : Char) : ofText (String.singleton c) = String.utf8EncodeChar c := by
  rw [String.singleton_eq_ofList, ofText_ofList, List.flatMap_singleton]

theorem ofText_push (text : String) (c : Char) : ofText (text.push c) = ofText text ++ String.utf8EncodeChar c := by
  rw [String.push_eq_append, ofText_append, ofText_singleton]

end Bytes

namespace Json

def escaped (c : Char) : Bytes :=
  match shortLetter? c with
  | some letter => 0x5c :: String.utf8EncodeChar letter
  | none =>
    if c < ' ' then
      [0x5c, 0x75, 0x30, 0x30] ++ String.utf8EncodeChar (hexDigit (c.toNat / 16)) ++
        String.utf8EncodeChar (hexDigit (c.toNat % 16))
    else String.utf8EncodeChar c

def quoted (text : String) : Bytes := 0x22 :: (text.toList.flatMap escaped ++ [0x22])

theorem ofText_writeChar (out : String) (c : Char) :
    Bytes.ofText (writeChar out c) = Bytes.ofText out ++ escaped c := by
  have backslash : String.utf8EncodeChar '\\' = [0x5c] := by decide
  have unit : Bytes.ofText "\\u00" = [0x5c, 0x75, 0x30, 0x30] := by decide +kernel
  unfold writeChar escaped
  cases shortLetter? c with
  | some letter =>
    simp only [Bytes.ofText_push, backslash, List.append_assoc]
    rfl
  | none =>
    dsimp only
    split
    · simp only [Bytes.ofText_push, Bytes.ofText_append, unit, List.append_assoc]
    · rw [Bytes.ofText_push]

theorem ofText_foldl_writeChar (out : String) (cs : List Char) :
    Bytes.ofText (cs.foldl writeChar out) = Bytes.ofText out ++ cs.flatMap escaped := by
  induction cs generalizing out with
  | nil => exact (List.append_nil _).symm
  | cons c cs ih => rw [List.foldl_cons, ih, ofText_writeChar, List.append_assoc, List.flatMap_cons]

theorem ofText_writeText (out text : String) : Bytes.ofText (writeText out text) = Bytes.ofText out ++ quoted text := by
  have quote : String.utf8EncodeChar '"' = [0x22] := by decide
  rw [writeText, String.foldl_eq_foldl_toList, Bytes.ofText_push, ofText_foldl_writeChar, Bytes.ofText_push, quote,
    List.append_assoc, List.append_assoc]
  rfl

example : quoted "a\n\x01\"" = Bytes.ofText "\"a\\n\\u0001\\\"\"" := by decide +kernel

def written (value : Json) : Bytes := Bytes.ofText (render value)

/-- Pieces with commas between them, and one before them unless they come first. -/
def joined : (first : Bool) → List Bytes → Bytes
  | _, [] => []
  | first, piece :: rest => (if first then piece else 0x2c :: piece) ++ joined false rest

def writtenMember (member : String × Json) : Bytes := quoted member.1 ++ 0x3a :: written member.2

theorem ofText_comma (out : String) (first : Bool) :
    Bytes.ofText (if first then out else out.push ',') = Bytes.ofText out ++ if first then [] else [0x2c] := by
  cases first with
  | true => exact (List.append_nil _).symm
  | false => exact Bytes.ofText_push out ','

mutual

theorem ofText_write (out : String) : (value : Json) → Bytes.ofText (write out value) = Bytes.ofText out ++ written value
  | .null => by simp only [written, render, write, String.empty_append, Bytes.ofText_append]
  | .bool value => by simp only [written, render, write, String.empty_append, Bytes.ofText_append]
  | .int value => by simp only [written, render, write, String.empty_append, Bytes.ofText_append]
  | .real literal => by simp only [written, render, write, String.empty_append, Bytes.ofText_append]
  | .text value => by
    simp only [written, render, write, ofText_writeText, Bytes.ofText_empty, List.nil_append]
  | .list items => by
    simp only [written, render, write, Bytes.ofText_push, ofText_writeItems, Bytes.ofText_empty, List.nil_append,
      List.append_assoc]
  | .object members => by
    simp only [written, render, write, Bytes.ofText_push, ofText_writeMembers, Bytes.ofText_empty,
      List.nil_append, List.append_assoc]

theorem ofText_writeItems (out : String) (first : Bool) : (items : List Json) →
    Bytes.ofText (writeItems out first items) = Bytes.ofText out ++ joined first (items.map written)
  | [] => (List.append_nil _).symm
  | item :: rest => by
    rw [writeItems, ofText_writeItems, ofText_write, ofText_comma, List.map_cons, joined]
    cases first <;> simp

theorem ofText_writeMembers (out : String) (first : Bool) : (members : List (String × Json)) →
    Bytes.ofText (writeMembers out first members) = Bytes.ofText out ++ joined first (members.map writtenMember)
  | [] => (List.append_nil _).symm
  | (name, value) :: rest => by
    have colon : String.utf8EncodeChar ':' = [0x3a] := by decide
    rw [writeMembers, ofText_writeMembers, ofText_write, Bytes.ofText_push, ofText_writeText, ofText_comma,
      List.map_cons, joined, writtenMember, colon]
    cases first <;> simp

end

theorem written_null : written .null = [0x6e, 0x75, 0x6c, 0x6c] := by decide +kernel

theorem written_true : written (.bool true) = [0x74, 0x72, 0x75, 0x65] := by decide +kernel

theorem written_false : written (.bool false) = [0x66, 0x61, 0x6c, 0x73, 0x65] := by decide +kernel

theorem written_int (value : Int) : written (.int value) = Bytes.ofText (toString value) :=
  congrArg Bytes.ofText (String.empty_append)

theorem written_text (text : String) : written (.text text) = quoted text := by
  rw [written, render, write, ofText_writeText, Bytes.ofText_empty, List.nil_append]

theorem written_list (items : List Json) :
    written (.list items) = 0x5b :: (joined true (items.map written) ++ [0x5d]) := by
  rw [written, render, write, Bytes.ofText_push, ofText_writeItems, Bytes.ofText_push, Bytes.ofText_empty]
  rfl

theorem written_object (members : List (String × Json)) :
    written (.object members) = 0x7b :: (joined true (members.map writtenMember) ++ [0x7d]) := by
  rw [written, render, write, Bytes.ofText_push, ofText_writeMembers, Bytes.ofText_push, Bytes.ofText_empty]
  rfl

end Json

end Availability
