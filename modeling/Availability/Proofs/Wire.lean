import Mathlib.Algebra.Ring.Nat
import Availability.Proofs.Utf8
import Availability.Record

namespace Availability.Wire

theorem takeExactly_append (short : Error) {count : Nat} {front : Bytes} (rest : Bytes) (size : front.length = count) :
    takeExactly count short (front ++ rest) = .ok (front, rest) := by
  subst size
  simp [takeExactly]

namespace Format

variable {α β : Type}

/-- What is written is read back, whatever follows it, as long as its size is a word. -/
def Lawful (format : Format α) : Prop :=
  ∀ value rest, (format.encode value).length < UInt64.size →
    format.decode (format.encode value ++ rest) = .ok (value, rest)

theorem decode_word (value : UInt64) (rest : Bytes) : word.decode (word.encode value ++ rest) = .ok (value, rest) := by
  have size : (word.encode value).length = 8 := Bytes.length_littleEndian 8 value.toNat
  have number : Bytes.ofLittleEndian (word.encode value) = value.toNat := by
    change Bytes.ofLittleEndian (Bytes.littleEndian 8 value.toNat) = _
    rw [Bytes.ofLittleEndian_littleEndian]
    exact Nat.mod_eq_of_lt value.toNat_lt
  unfold word at size number ⊢
  simp only [takeExactly_append .endOfInput rest size, number, UInt64.ofNat_toNat, bind, Except.bind, pure, Except.pure]

theorem word_lawful : word.Lawful := fun value rest _ => decode_word value rest

theorem decode_digest (value : Digest) (rest : Bytes) :
    digest.decode (digest.encode value ++ rest) = .ok (value, rest) := by
  have size : value.toBytes.length = 32 := Vector.length_toList
  have whole : Digest.ofBytes? value.toBytes = some value := by
    unfold Digest.ofBytes?
    rw [dif_pos (by simpa using size)]
    exact congrArg some (Vector.toArray_inj.mp (Array.toList_inj.mp rfl))
  change (takeExactly 32 .endOfInput (value.toBytes ++ rest) >>= _) = _
  rw [takeExactly_append .endOfInput rest size]
  simp only [bind, Except.bind, whole, pure, Except.pure]

theorem digest_lawful : digest.Lawful := fun value rest _ => decode_digest value rest

theorem length_encode_text (value : String) : (text.encode value).length = 8 + value.utf8ByteSize := by
  change (Bytes.littleEndian 8 _ ++ Bytes.ofText value).length = _
  rw [List.length_append, Bytes.length_littleEndian, Bytes.length_ofText]

theorem length_encode_texts (values : List String) :
    ((list text).encode values).length = 8 + (values.map fun value => 8 + value.utf8ByteSize).sum := by
  change (Bytes.littleEndian 8 _ ++ values.flatMap text.encode).length = _
  rw [List.length_append, Bytes.length_littleEndian, List.length_flatMap]
  congr 2
  exact List.map_congr_left fun value _ => length_encode_text value

theorem decode_text {value : String} (fits : value.utf8ByteSize < UInt64.size) (rest : Bytes) :
    text.decode (text.encode value ++ rest) = .ok (value, rest) := by
  have size : (UInt64.ofNat value.utf8ByteSize).toNat = value.utf8ByteSize := UInt64.toNat_ofNat_of_lt' fits
  have content := takeExactly_append .shortText rest (Bytes.length_ofText value)
  change (word.decode (word.encode _ ++ Bytes.ofText value ++ rest) >>= _) = _
  rw [List.append_assoc, decode_word]
  simp only [bind, Except.bind, size, content, Utf8.decode_ofText, pure, Except.pure]

theorem text_lawful : text.Lawful := by
  intro value rest fits
  rw [length_encode_text] at fits
  exact decode_text (by omega) rest

theorem readItems_flatMap {item : Format α} (lawful : item.Lawful) {values : List α}
    (fits : ∀ value ∈ values, (item.encode value).length < UInt64.size) (read : List α) (rest : Bytes) :
    readItems item values.length read (values.flatMap item.encode ++ rest) =
      .ok (read.reverse ++ values, rest) := by
  induction values generalizing read with
  | nil => simp [readItems]
  | cons value values ih =>
    have first : (item.encode value).length < UInt64.size := fits value List.mem_cons_self
    rw [List.length_cons, readItems, List.flatMap_cons, List.append_assoc, lawful value _ first]
    simp only
    rw [ih fun other member => fits other (List.mem_cons_of_mem _ member)]
    simp

theorem length_le_flatMap {item : Format α} (filled : ∀ value, 0 < (item.encode value).length) (values : List α) :
    values.length ≤ (values.flatMap item.encode).length := by
  induction values with
  | nil => exact Nat.le_refl _
  | cons value values ih =>
    have first := filled value
    rw [List.length_cons, List.flatMap_cons, List.length_append]
    omega

theorem length_encode_le_flatMap {item : Format α} {value : α} {values : List α} (member : value ∈ values) :
    (item.encode value).length ≤ (values.flatMap item.encode).length := by
  obtain ⟨before, after, rfl⟩ := List.append_of_mem member
  rw [List.flatMap_append, List.flatMap_cons]
  simp only [List.length_append]
  omega

theorem decode_list {item : Format α} {values : List α} (fits : values.length < UInt64.size) {rest : Bytes}
    (items : readItems item values.length [] (values.flatMap item.encode ++ rest) = .ok (values, rest)) :
    (list item).decode ((list item).encode values ++ rest) = .ok (values, rest) := by
  have count : (UInt64.ofNat values.length).toNat = values.length := UInt64.toNat_ofNat_of_lt' fits
  change (word.decode (word.encode _ ++ values.flatMap item.encode ++ rest) >>= _) = _
  rw [List.append_assoc, decode_word]
  simp only [bind, Except.bind, count, items]

theorem list_lawful {item : Format α} (lawful : item.Lawful) (filled : ∀ value, 0 < (item.encode value).length) :
    (list item).Lawful := by
  intro values rest fits
  change (word.encode _ ++ values.flatMap item.encode).length < _ at fits
  rw [List.length_append] at fits
  have few := length_le_flatMap filled values
  have short : ∀ value ∈ values, (item.encode value).length < UInt64.size := fun value member =>
    Nat.lt_of_le_of_lt (length_encode_le_flatMap member) (by omega)
  exact decode_list (by omega) (readItems_flatMap lawful short [] rest)

theorem byte_lawful : byte.Lawful := fun _ _ _ => rfl

theorem option_lawful {item : Format α} (lawful : item.Lawful) : (option item).Lawful := by
  intro value rest fits
  cases value with
  | none => rfl
  | some value =>
    change (item.encode value).length + 1 < _ at fits
    change (item.decode (item.encode value ++ rest) >>= _) = _
    rw [lawful value rest (by omega)]
    rfl

theorem pair_lawful {first : Format α} {second : Format β} (one : first.Lawful) (other : second.Lawful) :
    (pair first second).Lawful := by
  intro value rest fits
  change (first.encode value.1 ++ second.encode value.2).length < _ at fits
  rw [List.length_append] at fits
  change (first.decode (first.encode value.1 ++ second.encode value.2 ++ rest) >>= _) = _
  rw [List.append_assoc, one value.1 _ (by omega)]
  simp only [bind, Except.bind, other value.2 rest (by omega), pure, Except.pure]

theorem map_lawful {item : Format α} (lawful : item.Lawful) {toValue : α → β} {ofValue : β → α}
    (inverse : ∀ value, toValue (ofValue value) = value) : (item.map toValue ofValue).Lawful := by
  intro value rest fits
  change (item.decode (item.encode (ofValue value) ++ rest) >>= _) = _
  rw [lawful (ofValue value) rest fits]
  simp only [bind, Except.bind, inverse, pure, Except.pure]

theorem deserialize_of_serialize {format : Format α} (lawful : format.Lawful) {value : α} {bytes : Bytes}
    (written : format.serialize value = .ok bytes) : format.deserialize bytes = .ok value := by
  unfold serialize at written
  simp only at written
  split at written
  · cases written
  · rename_i short
    cases written
    have fits : (format.encode value).length < UInt64.size := by
      have limit : sizeLimit < UInt64.size := by decide
      omega
    have read := lawful value [] fits
    rw [List.append_nil] at read
    simp [deserialize, read]

end Format

end Availability.Wire

namespace Availability.Metadata

open Wire.Format in
theorem format_lawful : format.Lawful := by
  have uris : (list text).Lawful := list_lawful text_lawful fun value => by
    rw [length_encode_text]
    omega
  refine map_lawful (pair_lawful word_lawful (pair_lawful word_lawful
    (pair_lawful digest_lawful (pair_lawful word_lawful uris)))) fun metadata => ?_
  cases metadata
  rfl

theorem length_encode (metadata : Metadata) :
    (format.encode metadata).length = 64 + (metadata.shardUris.map fun uri => 8 + uri.utf8ByteSize).sum := by
  have hash : metadata.recoveredDataHash.toBytes.length = 32 := Vector.length_toList
  change (Bytes.littleEndian 8 _ ++ (Bytes.littleEndian 8 _ ++ (metadata.recoveredDataHash.toBytes ++
    (Bytes.littleEndian 8 _ ++ (Wire.Format.list Wire.Format.text).encode metadata.shardUris)))).length = _
  simp only [List.length_append, Bytes.length_littleEndian, hash, Wire.Format.length_encode_texts]
  omega

theorem ofBytes_of_toBytes {metadata : Metadata} {bytes : Bytes} (written : metadata.toBytes = .ok bytes) :
    ofBytes bytes = .ok metadata :=
  Wire.Format.deserialize_of_serialize format_lawful written

end Availability.Metadata
