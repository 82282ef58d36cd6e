import Availability.Json.Reader
import Availability.Proofs.Utf8

namespace Availability.Json

def Plain (byte : UInt8) : Prop := 0x20 ≤ byte ∧ byte ≠ 0x22 ∧ byte ≠ 0x5c

instance : DecidablePred Plain := fun _ => inferInstanceAs (Decidable (_ ∧ _))

variable {byte : UInt8} {chars rest : Bytes} {read : Option Bytes} {fuel : Nat}

theorem readText_plain (plain : Plain byte) :
    readText (fuel + 1) (byte :: rest) read = readText fuel rest (read.map (byte :: ·)) := by
  obtain ⟨visible, unquoted, unescaped⟩ := plain
  have legible : (byte < 0x20 || byte = 0x5c) = false := by
    simpa [unescaped] using visible
  rw [readText]
  · rw [legible]
    rfl
  · exact unquoted
  · exact fun _ same _ => unescaped same
  · exact fun _ _ same _ => unescaped same

theorem readText_append (plain : ∀ byte ∈ chars, Plain byte) (fuel : Nat) (rest read : Bytes) :
    readText (fuel + chars.length) (chars ++ rest) (some read) = readText fuel rest (some (chars.reverse ++ read)) := by
  induction chars generalizing read with
  | nil => rfl
  | cons byte chars ih =>
    obtain ⟨first, others⟩ := List.forall_mem_cons.mp plain
    rw [List.cons_append, List.length_cons, ← Nat.add_assoc, readText_plain first, Option.map_some, ih others,
      List.reverse_cons, List.append_assoc]
    rfl

theorem skipBlanks_cons (visible : isBlank byte = false) (rest : Bytes) : skipBlanks (byte :: rest) = byte :: rest := by
  rw [skipBlanks, List.dropWhile_cons_of_neg (by simp [visible])]

def listing (name item : String) : String := "\x7b\"" ++ name ++ "\":[\"" ++ item ++ "\"]\x7d"

theorem ofText_listing (name item : String) :
    Bytes.ofText (listing name item) = 0x7b :: 0x22 :: (Bytes.ofText name ++ 0x22 :: 0x3a :: 0x5b :: 0x22 ::
      (Bytes.ofText item ++ [0x22, 0x5d, 0x7d])) := by
  have start : Bytes.ofText "\x7b\"" = [0x7b, 0x22] := by decide +kernel
  have middle : Bytes.ofText "\":[\"" = [0x22, 0x3a, 0x5b, 0x22] := by decide +kernel
  have ending : Bytes.ofText "\"]\x7d" = [0x22, 0x5d, 0x7d] := by decide +kernel
  simp only [listing, Bytes.ofText_append, start, middle, ending, List.append_assoc, List.cons_append, List.nil_append]

end Availability.Json
