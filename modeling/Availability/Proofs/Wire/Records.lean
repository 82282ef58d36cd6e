import Availability.Proofs.Wire.Canonical

namespace Availability

namespace Witness

open Wire.Format in
theorem format_lawful : format.Lawful :=
  map_lawful (pair_lawful digest_lawful digest_lawful) fun _ => rfl

open Wire.Format in
theorem format_canonical : format.Canonical :=
  map_canonical (pair_canonical digest_canonical digest_canonical) fun _ => rfl

theorem length_encode (witness : Witness) : (format.encode witness).length = 64 := by
  change (witness.shardHash.toBytes ++ witness.shardDoubleHash.toBytes).length = 64
  rw [List.length_append, Digest.toBytes, Digest.toBytes, Vector.length_toList, Vector.length_toList]

end Witness

open Wire.Format in
theorem Metadata.format_canonical : format.Canonical :=
  map_canonical (pair_canonical word_canonical (pair_canonical word_canonical (pair_canonical digest_canonical
    (pair_canonical word_canonical (list_canonical text_canonical))))) fun _ => rfl

namespace Wire

inductive Kind where
  | metadata
  | texts
  | word
  | bytes
  | optionalWord
  | witness
deriving DecidableEq

namespace Kind

abbrev Value : Kind → Type
  | .metadata => Metadata
  | .texts => List String
  | .word => UInt64
  | .bytes => Bytes
  | .optionalWord => Option UInt64
  | .witness => Witness

def format : (kind : Kind) → Format kind.Value
  | .metadata => Metadata.format
  | .texts => .list .text
  | .word => .word
  | .bytes => .list .byte
  | .optionalWord => .option .word
  | .witness => Witness.format

def size : (kind : Kind) → kind.Value → Nat
  | .metadata, record => 64 + (record.shardUris.map fun uri => 8 + uri.utf8ByteSize).sum
  | .texts, list => 8 + (list.map fun text => 8 + text.utf8ByteSize).sum
  | .word, _ => 8
  | .bytes, list => 8 + list.length
  | .optionalWord, none => 1
  | .optionalWord, some _ => 9
  | .witness, _ => 64

theorem length_encode (kind : Kind) (value : kind.Value) : (kind.format.encode value).length = kind.size value := by
  cases kind with
  | metadata => exact Metadata.length_encode value
  | texts => exact Format.length_encode_texts value
  | word => exact Bytes.length_littleEndian 8 value.toNat
  | bytes =>
    change (Bytes.littleEndian 8 _ ++ value.flatMap fun byte => [byte]).length = 8 + value.length
    rw [List.length_append, Bytes.length_littleEndian, List.flatMap_singleton']
  | optionalWord =>
    cases value with
    | none => rfl
    | some value => exact congrArg (· + 1) (Bytes.length_littleEndian 8 value.toNat)
  | witness => exact Witness.length_encode value

open Format in
theorem lawful (kind : Kind) : kind.format.Lawful := by
  cases kind with
  | metadata => exact Metadata.format_lawful
  | texts =>
    refine list_lawful text_lawful fun value => ?_
    rw [length_encode_text]
    omega
  | word => exact word_lawful
  | bytes => exact list_lawful byte_lawful fun _ => Nat.one_pos
  | optionalWord => exact option_lawful word_lawful
  | witness => exact Witness.format_lawful

open Format in
theorem canonical (kind : Kind) : kind.format.Canonical := by
  cases kind with
  | metadata => exact Metadata.format_canonical
  | texts => exact list_canonical text_canonical
  | word => exact word_canonical
  | bytes => exact list_canonical byte_canonical
  | optionalWord => exact option_canonical word_canonical
  | witness => exact Witness.format_canonical

end Kind

/-- Every record has one written form, which is read back; only its size keeps it from being written, and no other
bytes are read as it, nor is anything read that its written form starts with or is the start of. -/
theorem records_canonical (kind : Kind) :
    (∀ value : kind.Value,
      ((∃ bytes, kind.format.serialize value = .ok bytes) ↔ kind.size value ≤ 2 ^ 20) ∧
        ∀ bytes, kind.format.serialize value = .ok bytes → kind.format.deserialize bytes = .ok value) ∧
      ∀ (bytes : Bytes) (value : kind.Value), kind.format.deserialize bytes = .ok value →
        (∀ other, kind.format.deserialize other = .ok value → other = bytes) ∧
          kind.format.serialize value = (if bytes.length ≤ 2 ^ 20 then .ok bytes else .error .sizeLimit) ∧
            ∀ other, other <+: bytes ∨ bytes <+: other → other ≠ bytes →
              ∃ err, kind.format.deserialize other = .error err := by
  have limit : Format.sizeLimit = 2 ^ 20 := rfl
  constructor
  · intro value
    refine ⟨?_, fun bytes written => Format.deserialize_of_serialize kind.lawful written⟩
    rw [Format.serialize_eq, kind.length_encode, limit]
    by_cases small : kind.size value ≤ 2 ^ 20
    · rw [if_pos small]
      exact ⟨fun _ => small, fun _ => ⟨_, rfl⟩⟩
    · rw [if_neg small]
      exact ⟨nofun, fun fits => absurd fits small⟩
  · intro bytes value read
    refine ⟨fun other again => ?_, ?_, fun other near apart => ?_⟩
    · rw [← kind.canonical.encode_eq read, kind.canonical.encode_eq again]
    · rw [Format.serialize_eq, kind.canonical.encode_eq read, limit]
    · cases accepted : kind.format.deserialize other with
      | error err => exact ⟨err, rfl⟩
      | ok found =>
        rcases near with shorter | longer
        · exact absurd (kind.canonical.eq_of_prefix accepted read shorter) apart
        · exact absurd (kind.canonical.eq_of_prefix read accepted longer).symm apart

/-- The directory of two shards is read from its 94 bytes, and from no more and no fewer of them. -/
theorem records_canonical_metadata :
    ∃ (metadata : Metadata) (bytes : Bytes), metadata.shardUris = ["ipfs://a", "ar://b"] ∧ bytes.length = 94 ∧
      metadata.toBytes = .ok bytes ∧ Metadata.ofBytes bytes = .ok metadata ∧
        (∀ byte, ∃ err, Metadata.ofBytes (bytes ++ [byte]) = .error err) ∧
          ∃ err, Metadata.ofBytes bytes.dropLast = .error err := by
  let metadata : Metadata := ⟨5, 1, Vector.replicate 32 7, 5, ["ipfs://a", "ar://b"]⟩
  have small : Kind.metadata.size metadata ≤ 2 ^ 20 := by decide
  obtain ⟨bytes, written⟩ := ((records_canonical .metadata).1 metadata).1.mpr small
  have read := ((records_canonical .metadata).1 metadata).2 bytes written
  obtain ⟨-, -, refused⟩ := (records_canonical .metadata).2 bytes metadata read
  have length : bytes.length = 94 := by
    rw [← Kind.metadata.canonical.encode_eq read, Kind.length_encode]
    rfl
  refine ⟨metadata, bytes, rfl, length, written, read, fun byte => ?_, ?_⟩
  · exact refused _ (.inr (List.prefix_append _ _)) fun same => by simpa using congrArg List.length same
  · exact refused _ (.inl (List.dropLast_prefix _)) fun same => by simpa [length] using congrArg List.length same

end Wire

end Availability
