import Availability.Proofs.Json.Members
import Availability.Proofs.Json.ReadBack
import Availability.Record

namespace Availability

open Json (Exact Holds)

theorem Digest.ofBytes?_eq_some_iff {bytes : Bytes} {digest : Digest} :
    Digest.ofBytes? bytes = some digest ↔ bytes = digest.toBytes := by
  unfold Digest.ofBytes?
  constructor
  · intro made
    split at made
    · cases made
      exact List.toList_toArray.symm
    · cases made
  · rintro rfl
    have size : digest.toBytes.toArray.size = 32 := by simp [Digest.toBytes]
    rw [dif_pos size, Option.some_inj]
    exact Vector.toArray_inj.mp Array.toArray_toList

namespace ByteNotation

variable {bytes : ByteNotation}

theorem exact_digest (exact : Exact bytes.write bytes.read? fun _ => True) :
    Exact (fun digest => bytes.write digest.toBytes) bytes.digest? fun _ => True := by
  intro document digest
  simp only [digest?, Option.bind_eq_some_iff, exact document, Digest.ofBytes?_eq_some_iff, and_true]
  constructor
  · rintro ⟨_, written, rfl⟩
    exact written
  · exact fun written => ⟨_, written, rfl⟩

theorem exact_digests (exact : Exact bytes.write bytes.read? fun _ => True) :
    Exact bytes.digests bytes.digests? fun _ => True :=
  (exact_digest exact).list.always fun _ _ _ => trivial

theorem exact_numbers : Exact numbers.write numbers.read? fun _ => True := Json.exact_bytes

def Foreign (entry : Json) : Prop := ∀ number, entry = .int number → number < 0 ∨ 255 < number

theorem numbers_written {content : Bytes} {entries : List Json} (written : numbers.write content = .list entries) :
    entries.length = content.length ∧ ∀ entry ∈ entries, ¬ Foreign entry := by
  cases written
  refine ⟨List.length_map _, fun entry member foreign => ?_⟩
  obtain ⟨byte, -, rfl⟩ := List.mem_map.mp member
  have small := byte.toNat_lt
  have outside := foreign _ rfl
  omega

def Faulty (entries : List Json) : Prop := entries.length ≠ 32 ∨ ∃ entry ∈ entries, Foreign entry

theorem not_faulty {digests : List Digest} {items entries : List Json} (written : .list items = numbers.digests digests)
    (member : .list entries ∈ items) : ¬ Faulty entries := by
  cases written
  obtain ⟨digest, -, same⟩ := List.mem_map.mp member
  obtain ⟨length, known⟩ := numbers_written same
  rintro (long | ⟨entry, inside, foreign⟩)
  · exact long (length.trans (by simp [Digest.toBytes]))
  · exact known entry inside foreign

theorem readable_numbers {depth : Nat} (content : Bytes) : Json.Readable (depth + 1) (numbers.write content) :=
  .ofBytes content

theorem readable_digests {depth : Nat} (digests : List Digest) :
    Json.Readable (depth + 2) (numbers.digests digests) :=
  .list_map fun digest _ => readable_numbers digest.toBytes

end ByteNotation

theorem Status.ofJson?_name (status : Status) : ofJson? (.text status.name) = some status := by
  cases status <;> decide

namespace Record

variable {bytes : ByteNotation} {record : Record}

def members (bytes : ByteNotation) (record : Record) : List (String × Json) := [
  ("metadata_uri", .text record.metadataUri),
  ("shard_double_hashes", bytes.digests record.shardDoubleHashes),
  ("parity_shard_count", .ofWord record.parityShardCount),
  ("data_source_info", .text record.dataSourceInfo),
  ("status", .text record.status.name)]

theorem ofJson?_toJson (exact : Exact bytes.write bytes.read? fun _ => True) (record : Record) :
    ofJson? bytes (record.toJson bytes) = some record := by
  have distinct : ((record.members bytes).map (·.1)).Nodup := by
    change fieldNames.Nodup
    decide
  obtain ⟨fields, given, found⟩ := Json.fields?_of_nodup distinct
  have uri : fields.required "metadata_uri" Json.toText? = some record.metadataUri :=
    Json.required_of_find? Json.exact_text (found _ _ (by simp [members])) trivial
  have hashes : fields.required "shard_double_hashes" bytes.digests? = some record.shardDoubleHashes :=
    Json.required_of_find? (ByteNotation.exact_digests exact) (found _ _ (by simp [members])) trivial
  have parity : fields.required "parity_shard_count" Json.word? = some record.parityShardCount :=
    Json.required_of_find? Json.exact_word (found _ _ (by simp [members])) trivial
  have source : fields.required "data_source_info" Json.toText? = some record.dataSourceInfo :=
    Json.required_of_find? Json.exact_text (found _ _ (by simp [members])) trivial
  have status : fields.required "status" Status.ofJson? = some record.status := by
    rw [Json.Fields.required, found "status" (.text record.status.name) (by simp [members])]
    exact Status.ofJson?_name record.status
  refine (congrArg (· >>= _) given).trans ?_
  simp only [Option.bind_eq_bind, Option.bind_some, uri, hashes, parity, source, status]
  rfl

section

variable {members others : List (String × Json)}

theorem ofJson?_congr (bytes : ByteNotation)
    (same : ∀ name ∈ fieldNames, (members.filter (·.1 == name)).Perm (others.filter (·.1 == name))) :
    ofJson? bytes (.object members) = ofJson? bytes (.object others) := by
  rw [ofJson?, ofJson?, Json.fields?_congr same]

theorem holds_of_ofJson? (exact : Exact bytes.write bytes.read? fun _ => True)
    (read : ofJson? bytes (.object members) = some record) :
    Holds members ("metadata_uri", .text record.metadataUri) ∧
      Holds members ("shard_double_hashes", bytes.digests record.shardDoubleHashes) ∧
      Holds members ("parity_shard_count", .ofWord record.parityShardCount) ∧
      Holds members ("data_source_info", .text record.dataSourceInfo) ∧
      ∃ status, Holds members ("status", status) ∧ Status.ofJson? status = some record.status := by
  simp only [ofJson?, Option.bind_eq_bind, Option.bind_eq_some_iff, Option.pure_def, Option.some_inj] at read
  obtain ⟨fields, given, uri, first, hashes, second, parity, third, source, fourth, status, fifth, rfl⟩ := read
  obtain ⟨document, found, stated⟩ := Option.bind_eq_some_iff.mp fifth
  exact ⟨(Json.holds_of_required Json.exact_text given first).1,
    (Json.holds_of_required (ByteNotation.exact_digests exact) given second).1,
    (Json.holds_of_required Json.exact_word given third).1, (Json.holds_of_required Json.exact_text given fourth).1,
    document, Json.holds_of_find? given found, stated⟩

theorem exists_member (exact : Exact bytes.write bytes.read? fun _ => True)
    (read : ofJson? bytes (.object members) = some record) {name : String} (listed : name ∈ fieldNames) :
    ∃ value, (name, value) ∈ members := by
  obtain ⟨uri, hashes, parity, source, _, status, -⟩ := holds_of_ofJson? exact read
  simp only [fieldNames, List.mem_cons, List.not_mem_nil, or_false] at listed
  rcases listed with rfl | rfl | rfl | rfl | rfl
  · exact ⟨_, uri.mem⟩
  · exact ⟨_, hashes.mem⟩
  · exact ⟨_, parity.mem⟩
  · exact ⟨_, source.mem⟩
  · exact ⟨_, status.mem⟩

end

theorem ofJson?_faulty {members : List (String × Json)} {items entries : List Json}
    (listed : ("shard_double_hashes", .list items) ∈ members) (member : .list entries ∈ items)
    (faulty : ByteNotation.Faulty entries) : ofJson? .numbers (.object members) = none := by
  cases read : ofJson? .numbers (.object members) with
  | none => rfl
  | some record =>
    obtain ⟨-, hashes, -⟩ := holds_of_ofJson? ByteNotation.exact_numbers read
    exact absurd faulty (ByteNotation.not_faulty (hashes.eq_of_mem listed) member)

theorem readable {depth : Nat} (record : Record) : Json.Readable (depth + 3) (record.toJson .numbers) := by
  refine .object ?_
  simp only [List.forall_mem_cons]
  exact ⟨.text _, ByteNotation.readable_digests _, .ofWord _, .text _, .text _, List.forall_mem_nil _⟩

theorem structure?_render (record : Record) :
    Json.structure? fieldNames (Bytes.ofText (record.toJson .numbers).render) = some (record.toJson .numbers) :=
  Json.structure?_render fieldNames record.readable

theorem faithful (exact : Exact bytes.write bytes.read? fun _ => True) :
    Json.Faithful (fun _ => True) (toJson bytes) (ofJson? bytes) fun _ name => name ∈ fieldNames := by
  refine Json.faithful_of_congr (fun record _ => ofJson?_toJson exact record)
    (fun _ _ same => ofJson?_congr bytes same) fun members name listed missing => ?_
  cases read : ofJson? bytes (.object members) with
  | none => rfl
  | some record =>
    obtain ⟨value, member⟩ := exists_member exact read listed
    exact absurd member (missing value)

end Record

end Availability
