import Availability.Proofs.Indexed
import Availability.Proofs.Wire
import Availability.Prover

namespace Availability

theorem Utf8.ofText_of_decode {bytes : Bytes} {text : String} (read : decode bytes = .ok text) :
    Bytes.ofText text = bytes := by
  unfold decode decode? String.fromUTF8? at read
  by_cases valid : ByteArray.IsValidUTF8 ⟨bytes.toArray⟩
  · rw [dif_pos valid] at read
    obtain rfl := Except.ok.inj read
    rw [Bytes.ofText_eq]
    rfl
  · rw [dif_neg valid] at read
    cases read

namespace Wire

theorem takeExactly_eq_ok {count : Nat} {short : Error} {bytes taken rest : Bytes}
    (split : takeExactly count short bytes = .ok (taken, rest)) : bytes = taken ++ rest ∧ taken.length = count := by
  unfold takeExactly at split
  simp only at split
  split at split
  · cases split
  · rename_i enough
    cases split
    refine ⟨(List.take_append_drop count bytes).symm, ?_⟩
    rw [List.length_take] at enough ⊢
    omega

namespace Format

variable {α β : Type}

/-- What is read is what would be written, and it is read in the same way whatever follows it. -/
def Canonical (format : Format α) : Prop :=
  ∀ bytes value rest, format.decode bytes = .ok (value, rest) →
    bytes = format.encode value ++ rest ∧ ∀ other, format.decode (format.encode value ++ other) = .ok (value, other)

theorem byte_canonical : byte.Canonical := by
  intro bytes value rest decoded
  cases bytes with
  | nil => cases decoded
  | cons first bytes =>
    cases decoded
    exact ⟨rfl, fun _ => rfl⟩

theorem encode_word {taken : Bytes} (length : taken.length = 8) :
    word.encode (UInt64.ofNat (Bytes.ofLittleEndian taken)) = taken := by
  have bound := Bytes.ofLittleEndian_lt taken
  rw [length] at bound
  have number : (UInt64.ofNat (Bytes.ofLittleEndian taken)).toNat = Bytes.ofLittleEndian taken :=
    UInt64.toNat_ofNat_of_lt' bound
  change Bytes.littleEndian 8 (UInt64.ofNat (Bytes.ofLittleEndian taken)).toNat = taken
  rw [number, ← length]
  exact Bytes.littleEndian_ofLittleEndian taken

theorem word_canonical : word.Canonical := by
  intro bytes value rest decoded
  obtain ⟨⟨taken, left⟩, split, made⟩ := Except.bind_eq_ok.mp decoded
  obtain ⟨rfl, length⟩ := takeExactly_eq_ok split
  cases made
  exact ⟨by rw [encode_word length], decode_word _⟩

theorem digest_canonical : digest.Canonical := by
  intro bytes value rest decoded
  obtain ⟨⟨taken, left⟩, split, made⟩ := Except.bind_eq_ok.mp decoded
  obtain ⟨rfl, length⟩ := takeExactly_eq_ok split
  have size : taken.toArray.size = 32 := by simpa using length
  simp only [Digest.ofBytes?, dif_pos size] at made
  cases made
  exact ⟨rfl, decode_digest _⟩

theorem text_canonical : text.Canonical := by
  intro bytes value rest decoded
  obtain ⟨⟨length, behind⟩, counted, taking⟩ := Except.bind_eq_ok.mp decoded
  obtain ⟨⟨taken, left⟩, split, reading⟩ := Except.bind_eq_ok.mp taking
  obtain ⟨rfl, -⟩ := word_canonical _ _ _ counted
  obtain ⟨rfl, size⟩ := takeExactly_eq_ok split
  simp only at reading
  cases sound : Utf8.decode taken with
  | error fault =>
    rw [sound] at reading
    cases reading
  | ok content =>
    rw [sound] at reading
    cases reading
    have content := Utf8.ofText_of_decode sound
    have count : value.utf8ByteSize = length.toNat := by rw [← Bytes.length_ofText, content, size]
    have fits : value.utf8ByteSize < UInt64.size := count ▸ length.toNat_lt
    refine ⟨?_, decode_text fits⟩
    change _ = word.encode (UInt64.ofNat value.utf8ByteSize) ++ Bytes.ofText value ++ rest
    rw [count, UInt64.ofNat_toNat, content, List.append_assoc]

theorem readItems_canonical {item : Format α} (canonical : item.Canonical) {count : Nat} {read values : List α}
    {bytes rest : Bytes} (all : readItems item count read bytes = .ok (values, rest)) :
    ∃ added, values = read.reverse ++ added ∧ added.length = count ∧ bytes = added.flatMap item.encode ++ rest ∧
      ∀ other, readItems item count read (added.flatMap item.encode ++ other) = .ok (values, other) := by
  induction count generalizing read bytes with
  | zero =>
    cases all
    exact ⟨[], (List.append_nil _).symm, rfl, rfl, fun _ => rfl⟩
  | succ count ih =>
    rw [readItems] at all
    cases decoded : item.decode bytes with
    | error err =>
      rw [decoded] at all
      cases all
    | ok found =>
      obtain ⟨value, behind⟩ := found
      rw [decoded] at all
      obtain ⟨rfl, again⟩ := canonical _ _ _ decoded
      obtain ⟨added, same, length, rfl, others⟩ := ih all
      refine ⟨value :: added, by simp [same], by simp [length], by simp, fun other => ?_⟩
      rw [List.flatMap_cons, List.append_assoc, readItems, again]
      exact others other

theorem list_canonical {item : Format α} (canonical : item.Canonical) : (list item).Canonical := by
  intro bytes values rest decoded
  obtain ⟨⟨count, behind⟩, counted, all⟩ := Except.bind_eq_ok.mp decoded
  obtain ⟨rfl, -⟩ := word_canonical _ _ _ counted
  obtain ⟨added, same, length, rfl, others⟩ := readItems_canonical canonical all
  rw [List.reverse_nil, List.nil_append] at same
  subst same
  have fits : values.length < UInt64.size := length ▸ count.toNat_lt
  refine ⟨?_, fun other => decode_list fits (length ▸ others other)⟩
  change _ = word.encode (UInt64.ofNat values.length) ++ values.flatMap item.encode ++ rest
  rw [length, UInt64.ofNat_toNat, List.append_assoc]

theorem option_canonical {item : Format α} (canonical : item.Canonical) : (option item).Canonical := by
  intro bytes value rest decoded
  obtain ⟨⟨tag, behind⟩, tagged, chosen⟩ := Except.bind_eq_ok.mp decoded
  obtain ⟨rfl, -⟩ := byte_canonical _ _ _ tagged
  simp only at chosen
  split at chosen
  · rename_i absent
    cases chosen
    subst absent
    exact ⟨rfl, fun _ => rfl⟩
  split at chosen
  · rename_i here
    subst here
    obtain ⟨⟨content, left⟩, found, made⟩ := Except.bind_eq_ok.mp chosen
    cases made
    obtain ⟨rfl, again⟩ := canonical _ _ _ found
    refine ⟨rfl, fun other => ?_⟩
    have behind := again other
    change (item.decode (item.encode content ++ other) >>= _) = _
    rw [behind]
    rfl
  · cases chosen

theorem pair_canonical {first : Format α} {second : Format β} (one : first.Canonical) (other : second.Canonical) :
    (pair first second).Canonical := by
  intro bytes value rest decoded
  obtain ⟨⟨a, behind⟩, front, following⟩ := Except.bind_eq_ok.mp decoded
  obtain ⟨⟨b, left⟩, back, made⟩ := Except.bind_eq_ok.mp following
  obtain ⟨rfl, start⟩ := one _ _ _ front
  obtain ⟨rfl, finish⟩ := other _ _ _ back
  cases made
  refine ⟨(List.append_assoc ..).symm, fun more => ?_⟩
  change (first.decode (first.encode a ++ second.encode b ++ more) >>= _) = _
  rw [List.append_assoc, start]
  change (second.decode (second.encode b ++ more) >>= _) = _
  rw [finish]
  rfl

theorem map_canonical {item : Format α} (canonical : item.Canonical) {toValue : α → β} {ofValue : β → α}
    (inverse : ∀ value, ofValue (toValue value) = value) : (item.map toValue ofValue).Canonical := by
  intro bytes value rest decoded
  obtain ⟨⟨content, left⟩, found, made⟩ := Except.bind_eq_ok.mp decoded
  cases made
  obtain ⟨rfl, again⟩ := canonical _ _ _ found
  change _ = item.encode (ofValue (toValue content)) ++ rest ∧
    ∀ other, (item.decode (item.encode (ofValue (toValue content)) ++ other) >>= _) = _
  rw [inverse]
  refine ⟨rfl, fun other => ?_⟩
  rw [again]
  rfl

theorem serialize_eq (format : Format α) (value : α) :
    format.serialize value =
      if (format.encode value).length ≤ sizeLimit then .ok (format.encode value) else .error .sizeLimit := by
  unfold serialize
  simp only
  split
  · rename_i large
    rw [if_neg (by omega)]
  · rename_i small
    rw [if_pos (by omega)]

theorem deserialize_eq_ok {format : Format α} {bytes : Bytes} {value : α} :
    format.deserialize bytes = .ok value ↔ format.decode bytes = .ok (value, []) := by
  unfold deserialize
  cases format.decode bytes with
  | error err => simp
  | ok found =>
    obtain ⟨content, _ | ⟨byte, rest⟩⟩ := found
    · simp
    · simp

section

variable {format : Format α} (canonical : format.Canonical) {bytes : Bytes} {value : α}
include canonical

theorem Canonical.encode_eq (read : format.deserialize bytes = .ok value) : format.encode value = bytes := by
  have written := (canonical _ _ _ (deserialize_eq_ok.mp read)).1
  rw [written, List.append_nil]

theorem Canonical.decode_append (read : format.deserialize bytes = .ok value) (more : Bytes) :
    format.decode (bytes ++ more) = .ok (value, more) := by
  have again := (canonical _ _ _ (deserialize_eq_ok.mp read)).2 more
  rwa [canonical.encode_eq read] at again

theorem Canonical.eq_of_prefix {other : Bytes} {accepted : α} (read : format.deserialize bytes = .ok value)
    (also : format.deserialize other = .ok accepted) (front : bytes <+: other) : bytes = other := by
  obtain ⟨more, rfl⟩ := front
  have longer := canonical.decode_append read more
  rw [deserialize_eq_ok.mp also] at longer
  cases longer
  rw [List.append_nil]

end

end Format

end Wire

end Availability
