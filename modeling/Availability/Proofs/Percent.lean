import Availability.Percent
import Availability.Proofs.Text
import Availability.Proofs.Utf8

namespace Availability

theorem Bytes.ofText_join (texts : List String) : ofText (String.join texts) = texts.flatMap ofText := by
  induction texts with
  | nil => rw [String.join_nil, ofText_eq_nil_iff.mpr rfl, List.flatMap_nil]
  | cons text texts ih => rw [String.join_cons, ofText_append, ih, List.flatMap_cons]

namespace Percent

variable {byte : UInt8}

def blanked (byte : UInt8) : UInt8 := if byte = 0x2b then 0x20 else byte

theorem decodeComponent_eq (component : List Char) :
    decodeComponent component =
      Utf8.decodeLossy (decode ((Bytes.ofText (String.ofList component)).map blanked)) := rfl

def digit (n : Nat) : UInt8 := UInt8.ofNat (Hex.digit n).toUpper.toNat

theorem digits_known : ∀ n : Fin 16, String.utf8EncodeChar (Hex.digit n).toUpper = [digit n] ∧
    blanked (digit n) = digit n ∧ Hex.digitValue? (digit n) = some n.val := by
  decide +kernel

theorem plain_known : ∀ n : Fin 256, isPlain (UInt8.ofNat n) = true →
    String.utf8EncodeChar (Char.ofNat (UInt8.ofNat n).toNat) = [UInt8.ofNat n] ∧
      blanked (UInt8.ofNat n) = UInt8.ofNat n ∧ UInt8.ofNat n ≠ 0x25 := by
  decide +kernel

theorem separators_known : ∀ n : Fin 256, '&' ∉ (encodeQueryByte (UInt8.ofNat n)).toList ∧
    '=' ∉ (encodeQueryByte (UInt8.ofNat n)).toList := by
  decide +kernel

theorem ofNat_toNat_byte (byte : UInt8) : UInt8.ofNat (⟨byte.toNat, byte.toNat_lt⟩ : Fin 256).val = byte :=
  UInt8.ofNat_toNat

theorem separators_not_mem_byte (byte : UInt8) :
    '&' ∉ (encodeQueryByte byte).toList ∧ '=' ∉ (encodeQueryByte byte).toList := by
  have known := separators_known ⟨byte.toNat, byte.toNat_lt⟩
  rwa [ofNat_toNat_byte] at known

theorem decode_cons_of_ne (other : byte ≠ 0x25) (rest : Bytes) : decode (byte :: rest) = byte :: decode rest := by
  match rest with
  | [] => rfl
  | [b] => rfl
  | b :: c :: rest => rw [decode, if_neg other]

theorem decode_digits (byte : UInt8) (rest : Bytes) :
    decode (0x25 :: digit (byte.toNat / 16) :: digit (byte.toNat % 16) :: rest) = byte :: decode rest := by
  have wide := byte.toNat_lt
  have high := (digits_known ⟨byte.toNat / 16, by omega⟩).2.2
  have low := (digits_known ⟨byte.toNat % 16, by omega⟩).2.2
  have whole : 16 * (byte.toNat / 16) + byte.toNat % 16 = byte.toNat := by omega
  rw [decode, if_pos rfl, high, low]
  dsimp only
  rw [whole, UInt8.ofNat_toNat]

theorem ofText_encodeByte (byte : UInt8) :
    (Bytes.ofText (encodeByte byte)).map blanked =
      [0x25, digit (byte.toNat / 16), digit (byte.toNat % 16)] := by
  have wide := byte.toNat_lt
  obtain ⟨high, keptHigh, -⟩ := digits_known ⟨byte.toNat / 16, by omega⟩
  obtain ⟨low, keptLow, -⟩ := digits_known ⟨byte.toNat % 16, by omega⟩
  rw [encodeByte, Bytes.ofText_ofList]
  simp only [List.flatMap_cons, List.flatMap_nil, high, low, List.append_nil, List.map_append, List.map_cons,
    List.map_nil, keptHigh, keptLow]
  rfl

theorem decode_encodeQueryByte (byte : UInt8) (rest : Bytes) :
    decode ((Bytes.ofText (encodeQueryByte byte)).map blanked ++ rest) = byte :: decode rest := by
  unfold encodeQueryByte
  split
  · next blank =>
    subst blank
    rw [show "+" = String.ofList ['+'] from rfl, Bytes.ofText_ofList]
    exact decode_cons_of_ne (show (0x20 : UInt8) ≠ 0x25 by decide) rest
  · split
    · next plain =>
      have known := plain_known ⟨byte.toNat, byte.toNat_lt⟩
      rw [ofNat_toNat_byte] at known
      obtain ⟨written, kept, other⟩ := known plain
      rw [Bytes.ofText_ofList, List.flatMap_cons, List.flatMap_nil, List.append_nil, written, List.map_cons, kept]
      exact decode_cons_of_ne other rest
    · rw [ofText_encodeByte]
      exact decode_digits byte rest

theorem decode_encodeQueryBytes (bytes : Bytes) :
    decode ((bytes.flatMap fun byte => Bytes.ofText (encodeQueryByte byte)).map blanked) = bytes := by
  induction bytes with
  | nil => rfl
  | cons byte bytes ih => rw [List.flatMap_cons, List.map_append, decode_encodeQueryByte, ih]

theorem decodeComponent_encodeComponent (text : String) : decodeComponent (encodeComponent text).toList = text := by
  rw [decodeComponent_eq, String.ofList_toList, encodeComponent, Bytes.ofText_join, List.flatMap_map,
    decode_encodeQueryBytes, Utf8.decodeLossy, Utf8.decode?_ofText]

theorem separators_not_mem (text : String) :
    '&' ∉ (encodeComponent text).toList ∧ '=' ∉ (encodeComponent text).toList := by
  rw [encodeComponent, String.toList_join, List.flatMap_map]
  simp only [List.mem_flatMap, not_exists, not_and]
  exact ⟨fun byte _ => (separators_not_mem_byte byte).1, fun byte _ => (separators_not_mem_byte byte).2⟩

def part (named : String × String) : List Char :=
  (encodeComponent named.1).toList ++ '=' :: (encodeComponent named.2).toList

theorem pair_part (named : String × String) : pair (part named) = named := by
  rw [pair, part, Text.cut?_append (separators_not_mem named.1).2]
  simp only [decodeComponent_encodeComponent]

theorem ampersand_not_mem_part (named : String × String) : '&' ∉ part named := by
  have name := (separators_not_mem named.1).1
  have value := (separators_not_mem named.2).1
  simp [part, name, value]

theorem toList_query (named : List (String × String)) : (query named).toList = ['&'].intercalate (named.map part) := by
  rw [query, String.toList_intercalate, List.map_map]
  refine congrArg _ (List.map_congr_left fun (name, value) _ => ?_)
  simp [part]

/-- What is written into a query is read from it again, whatever it is. -/
theorem pairs_query (named : List (String × String)) : pairs (query named) = named := by
  cases named with
  | nil => rfl
  | cons first rest =>
    have parts : Text.split '&' (query (first :: rest)).toList = (first :: rest).map part := by
      rw [Text.split_eq_splitOn, toList_query]
      refine List.splitOn_intercalate '&' (fun piece member => ?_) (by simp)
      obtain ⟨named, -, rfl⟩ := List.mem_map.mp member
      exact ampersand_not_mem_part named
    have filled : ∀ piece ∈ (first :: rest).map part, (!piece.isEmpty) = true := by
      intro piece member
      obtain ⟨named, -, rfl⟩ := List.mem_map.mp member
      simp [part]
    rw [pairs, parts, List.filter_eq_self.mpr filled, List.map_map]
    exact (List.map_congr_left fun named _ => pair_part named).trans (List.map_id _)

end Percent

end Availability
