import Availability.Message
import Availability.Proofs.Record

namespace Availability.Message

open Json (Exact Holds)

def fieldNames : (typeTag : String) → List String
  | "publish_data" =>
    ["sender", "metadata_uri", "parity_shard_count", "shard_double_hashes", "data_source_info"]
  | "challenge_for_fraud" => ["sender", "metadata_uri"]
  | "submit_invalidity" => ["sender", "metadata_uri", "indices"]
  | "submit_validity_proof" => ["sender", "validator_address", "metadata_uri", "indices", "proofs"]
  | _ => []

def typeTags : List String := ["publish_data", "challenge_for_fraud", "submit_invalidity", "submit_validity_proof"]

def Worded : Message → Prop
  | .publishData _ | .challengeForFraud .. => True
  | .submitInvalidity _ _ indices | .submitValidityProof _ _ _ indices _ => ∀ index ∈ indices, index < UInt64.size

def Known (members : List (String × Json)) (name : String) : Prop :=
  name = "type" ∨ ∃ typeTag, ("type", .text typeTag) ∈ members ∧ name ∈ fieldNames typeTag

theorem typeTag_mem (message : Message) : message.typeTag ∈ typeTags := by
  cases message <;> simp [typeTag, typeTags]

theorem names_members (bytes : ByteNotation) (message : Message) :
    (message.members bytes).map (·.1) = fieldNames message.typeTag := by
  cases message <;> rfl

theorem nodup_names : ∀ typeTag ∈ typeTags, ("type" :: fieldNames typeTag).Nodup := by decide

theorem ne_type_of_mem {name typeTag : String} (listed : name ∈ fieldNames typeTag) : name ≠ "type" := by
  unfold fieldNames at listed
  rintro rfl
  split at listed <;> revert listed <;> decide

variable {bytes : ByteNotation}

section

variable {members others : List (String × Json)} {message : Message} {typeTag : String}

theorem ofFields?_congr (bytes : ByteNotation)
    (same : ∀ name ∈ fieldNames typeTag, (members.filter (·.1 == name)).Perm (others.filter (·.1 == name))) :
    ofFields? bytes typeTag (.object members) = ofFields? bytes typeTag (.object others) := by
  unfold ofFields?
  split
  all_goals first | rfl | exact congrArg (· >>= _) (Json.fields?_congr same)

theorem holds_of_ofFields? (exact : Exact bytes.write bytes.read? fun _ => True)
    (read : ofFields? bytes typeTag (.object members) = some message) :
    message.typeTag = typeTag ∧ message.Worded ∧ ∀ entry ∈ message.members bytes, Holds members entry := by
  unfold ofFields? at read
  split at read
  · simp only [Option.bind_eq_bind, Option.bind_eq_some_iff, Option.pure_def, Option.some_inj] at read
    obtain ⟨fields, given, sender, first, uri, second, parity, third, hashes, fourth, source, fifth, rfl⟩ := read
    refine ⟨rfl, trivial, ?_⟩
    simp only [Message.members, List.forall_mem_cons]
    exact ⟨(Json.holds_of_required Json.exact_text given first).1,
      (Json.holds_of_required Json.exact_text given second).1,
      (Json.holds_of_required Json.exact_word given third).1,
      (Json.holds_of_required (ByteNotation.exact_digests exact) given fourth).1,
      (Json.holds_of_required Json.exact_text given fifth).1, List.forall_mem_nil _⟩
  · simp only [Option.bind_eq_bind, Option.bind_eq_some_iff, Option.pure_def, Option.some_inj] at read
    obtain ⟨fields, given, sender, first, uri, second, rfl⟩ := read
    refine ⟨rfl, trivial, ?_⟩
    simp only [Message.members, List.forall_mem_cons]
    exact ⟨(Json.holds_of_required Json.exact_text given first).1,
      (Json.holds_of_required Json.exact_text given second).1, List.forall_mem_nil _⟩
  · simp only [Option.bind_eq_bind, Option.bind_eq_some_iff, Option.pure_def, Option.some_inj] at read
    obtain ⟨fields, given, sender, first, uri, second, indices, third, rfl⟩ := read
    obtain ⟨listed, worded⟩ := Json.holds_of_required Json.exact_index.list given third
    refine ⟨rfl, worded, ?_⟩
    simp only [Message.members, List.forall_mem_cons]
    exact ⟨(Json.holds_of_required Json.exact_text given first).1,
      (Json.holds_of_required Json.exact_text given second).1, listed, List.forall_mem_nil _⟩
  · simp only [Option.bind_eq_bind, Option.bind_eq_some_iff, Option.pure_def, Option.some_inj] at read
    obtain ⟨fields, given, sender, first, validator, second, uri, third, indices, fourth, proofs, fifth, rfl⟩ := read
    obtain ⟨listed, worded⟩ := Json.holds_of_required Json.exact_index.list given fourth
    refine ⟨rfl, worded, ?_⟩
    simp only [Message.members, List.forall_mem_cons]
    exact ⟨(Json.holds_of_required Json.exact_text given first).1,
      (Json.holds_of_required Json.exact_text given second).1,
      (Json.holds_of_required Json.exact_text given third).1, listed,
      (Json.holds_of_required exact.list given fifth).1, List.forall_mem_nil _⟩
  · cases read

end

theorem ofFields?_members (exact : Exact bytes.write bytes.read? fun _ => True) {message : Message}
    (worded : message.Worded) :
    ofFields? bytes message.typeTag (.object (message.members bytes)) = some message := by
  have distinct : ((message.members bytes).map (·.1)).Nodup := by
    rw [names_members]
    exact (List.nodup_cons.mp (nodup_names _ message.typeTag_mem)).2
  obtain ⟨fields, given, found⟩ := Json.fields?_of_nodup distinct
  have text {name value : String} (member : (name, .text value) ∈ message.members bytes) :
      fields.required name Json.toText? = some value :=
    Json.required_of_find? Json.exact_text (found _ _ member) trivial
  cases message with
  | publishData publication =>
    have sender := @text "sender" publication.sender (by simp [members])
    have uri := @text "metadata_uri" publication.metadataUri (by simp [members])
    have parity : fields.required "parity_shard_count" Json.word? = some publication.parityShardCount :=
      Json.required_of_find? Json.exact_word (found _ _ (by simp [members])) trivial
    have hashes : fields.required "shard_double_hashes" bytes.digests? = some publication.shardDoubleHashes :=
      Json.required_of_find? (ByteNotation.exact_digests exact) (found _ _ (by simp [members])) trivial
    have source := @text "data_source_info" publication.dataSourceInfo (by simp [members])
    refine (congrArg (· >>= _) given).trans ?_
    simp only [Option.bind_eq_bind, Option.bind_some, sender, uri, parity, hashes, source]
    rfl
  | challengeForFraud sender uri =>
    have first := @text "sender" sender (by simp [members])
    have second := @text "metadata_uri" uri (by simp [members])
    refine (congrArg (· >>= _) given).trans ?_
    simp only [Option.bind_eq_bind, Option.bind_some, first, second]
    rfl
  | submitInvalidity sender uri indices =>
    have first := @text "sender" sender (by simp [members])
    have second := @text "metadata_uri" uri (by simp [members])
    have third : fields.required "indices" (Json.toList? Json.toWord?) = some indices :=
      Json.required_of_find? Json.exact_index.list (found _ _ (by simp [members, Json.nats])) worded
    refine (congrArg (· >>= _) given).trans ?_
    simp only [Option.bind_eq_bind, Option.bind_some, first, second, third]
    rfl
  | submitValidityProof sender validator uri indices proofs =>
    have first := @text "sender" sender (by simp [members])
    have second := @text "validator_address" validator (by simp [members])
    have third := @text "metadata_uri" uri (by simp [members])
    have fourth : fields.required "indices" (Json.toList? Json.toWord?) = some indices :=
      Json.required_of_find? Json.exact_index.list (found _ _ (by simp [members, Json.nats])) worded
    have fifth : fields.required "proofs" (Json.toList? bytes.read?) = some proofs :=
      Json.required_of_find? exact.list (found _ _ (by simp [members])) fun _ _ => trivial
    refine (congrArg (· >>= _) given).trans ?_
    simp only [Option.bind_eq_bind, Option.bind_some, first, second, third, fourth, fifth]
    rfl

section

variable {members others : List (String × Json)} {message : Message} {typeTag : String}

theorem ofJson?_of_tagged (bytes : ByteNotation) (tagged : Holds members ("type", .text typeTag)) :
    ofJson? bytes (.object members) = ofFields? bytes typeTag (.object (members.filter (·.1 != "type"))) := by
  unfold ofJson?
  rw [Holds] at tagged
  simp only [tagged]

theorem tagged_of_ofJson? (read : ofJson? bytes (.object members) = some message) :
    ∃ typeTag, Holds members ("type", .text typeTag) ∧
      ofFields? bytes typeTag (.object (members.filter (·.1 != "type"))) = some message := by
  unfold ofJson? at read
  simp only at read
  split at read
  · next name typeTag found =>
    have named : (name, .text typeTag) ∈ members.filter (·.1 == "type") := found ▸ List.mem_singleton_self _
    obtain rfl : name = "type" := beq_iff_eq.mp (List.mem_filter.mp named).2
    exact ⟨typeTag, found, read⟩
  · cases read

theorem holds_of_ofJson? (exact : Exact bytes.write bytes.read? fun _ => True)
    (read : ofJson? bytes (.object members) = some message) :
    message.Worded ∧ Holds members ("type", .text message.typeTag) ∧
      ∀ entry ∈ message.members bytes, Holds members entry := by
  obtain ⟨typeTag, tagged, inner⟩ := tagged_of_ofJson? read
  obtain ⟨rfl, worded, holds⟩ := holds_of_ofFields? exact inner
  refine ⟨worded, tagged, fun entry member => ?_⟩
  have listed : entry.1 ∈ fieldNames message.typeTag := names_members bytes message ▸ List.mem_map_of_mem member
  have held := holds entry member
  rwa [Holds, Json.filter_filter_ne (ne_type_of_mem listed)] at held

theorem ofJson?_eq_none (exact : Exact bytes.write bytes.read? fun _ => True)
    (impossible : ∀ message : Message, Holds members ("type", .text message.typeTag) →
      (∀ entry ∈ message.members bytes, Holds members entry) → False) :
    ofJson? bytes (.object members) = none := by
  refine Option.eq_none_iff_forall_ne_some.mpr fun message read => ?_
  obtain ⟨-, tagged, holds⟩ := holds_of_ofJson? exact read
  exact impossible message tagged holds

theorem ofJson?_of_congr (same : ∀ name, Known members name →
      (members.filter (·.1 == name)).Perm (others.filter (·.1 == name)))
    (read : ofJson? bytes (.object members) = some message) : ofJson? bytes (.object others) = some message := by
  obtain ⟨typeTag, tagged, inner⟩ := tagged_of_ofJson? read
  -- The tag says which members are looked for, so it has to be found first.
  have also : Holds others ("type", .text typeTag) := by
    have moved := same "type" (.inl rfl)
    rw [tagged] at moved
    exact (List.singleton_perm.mp moved).symm
  rw [ofJson?_of_tagged bytes also, ← inner]
  refine (ofFields?_congr bytes fun name listed => ?_).symm
  rw [Json.filter_filter_ne (ne_type_of_mem listed), Json.filter_filter_ne (ne_type_of_mem listed)]
  exact same name (.inr ⟨typeTag, tagged.mem, listed⟩)

theorem known_of_congr (same : (members.filter (·.1 == "type")).Perm (others.filter (·.1 == "type"))) {name : String}
    (known : Known others name) : Known members name := by
  rcases known with rfl | ⟨typeTag, tagged, listed⟩
  · exact .inl rfl
  · have found : ("type", .text typeTag) ∈ others.filter (·.1 == "type") :=
      List.mem_filter.mpr ⟨tagged, beq_self_eq_true _⟩
    exact .inr ⟨typeTag, (List.mem_filter.mp (same.mem_iff.mpr found)).1, listed⟩

theorem ofJson?_congr (bytes : ByteNotation) (same : ∀ name, Known members name →
      (members.filter (·.1 == name)).Perm (others.filter (·.1 == name))) :
    ofJson? bytes (.object members) = ofJson? bytes (.object others) := by
  apply Option.ext
  intro message
  constructor
  · exact ofJson?_of_congr same
  · exact ofJson?_of_congr fun name known => (same name (known_of_congr (same "type" (.inl rfl)) known)).symm

end

theorem ofJson?_toJson (exact : Exact bytes.write bytes.read? fun _ => True) {message : Message}
    (worded : message.Worded) : ofJson? bytes (message.toJson bytes) = some message := by
  have distinct : ((("type", Json.text message.typeTag) :: message.members bytes).map (·.1)).Nodup := by
    rw [List.map_cons, names_members]
    exact nodup_names _ message.typeTag_mem
  have others : (("type", Json.text message.typeTag) :: message.members bytes).filter (·.1 != "type") =
      message.members bytes := by
    rw [List.filter_cons_of_neg (by simp), List.filter_eq_self]
    intro entry member
    have listed : entry.1 ∈ fieldNames message.typeTag := names_members bytes message ▸ List.mem_map_of_mem member
    simpa using ne_type_of_mem listed
  rw [toJson, ofJson?_of_tagged bytes (Json.holds_of_nodup distinct List.mem_cons_self), others]
  exact ofFields?_members exact worded

theorem faithful (exact : Exact bytes.write bytes.read? fun _ => True) :
    Json.Faithful Worded (toJson bytes) (ofJson? bytes) Known := by
  refine Json.faithful_of_congr (fun message worded => ofJson?_toJson exact worded)
    (fun _ _ same => ofJson?_congr bytes same) fun members name known missing => ?_
  refine ofJson?_eq_none exact fun message tagged holds => ?_
  rcases known with rfl | ⟨typeTag, also, listed⟩
  · exact missing _ tagged.mem
  · obtain rfl := Json.text.inj (tagged.eq_of_mem also)
    rw [← names_members bytes] at listed
    obtain ⟨⟨_, value⟩, member, rfl⟩ := List.mem_map.mp listed
    exact missing value (holds _ member).mem

theorem ofJson?_untagged (exact : Exact bytes.write bytes.read? fun _ => True) {members : List (String × Json)}
    (untagged : ∀ typeTag ∈ typeTags, ("type", .text typeTag) ∉ members) : ofJson? bytes (.object members) = none :=
  ofJson?_eq_none exact fun message tagged _ => untagged _ message.typeTag_mem tagged.mem

theorem ofJson?_faulty {members : List (String × Json)} {items entries : List Json}
    (tagged : ("type", .text "publish_data") ∈ members) (listed : ("shard_double_hashes", .list items) ∈ members)
    (member : .list entries ∈ items) (faulty : ByteNotation.Faulty entries) :
    ofJson? .numbers (.object members) = none := by
  refine ofJson?_eq_none ByteNotation.exact_numbers fun message kind holds => ?_
  have same := Json.text.inj (kind.eq_of_mem tagged)
  cases message with
  | publishData publication =>
    have hashes := holds ("shard_double_hashes", ByteNotation.numbers.digests publication.shardDoubleHashes)
      (by simp [Message.members])
    exact ByteNotation.not_faulty (hashes.eq_of_mem listed) member faulty
  | _ => simp [typeTag] at same

theorem ofJson?_foreign {members : List (String × Json)} {items entries : List Json} {entry : Json}
    (tagged : ("type", .text "submit_validity_proof") ∈ members) (listed : ("proofs", .list items) ∈ members)
    (member : .list entries ∈ items) (inside : entry ∈ entries) (foreign : ByteNotation.Foreign entry) :
    ofJson? .numbers (.object members) = none := by
  refine ofJson?_eq_none ByteNotation.exact_numbers fun message kind holds => ?_
  have same := Json.text.inj (kind.eq_of_mem tagged)
  cases message with
  | submitValidityProof sender validator uri indices proofs =>
    have written := holds ("proofs", .list (proofs.map ByteNotation.numbers.write)) (by simp [Message.members])
    cases written.eq_of_mem listed
    obtain ⟨proof, -, content⟩ := List.mem_map.mp member
    exact (ByteNotation.numbers_written content).2 entry inside foreign
  | _ => simp [typeTag] at same

theorem readable {depth : Nat} {message : Message} (worded : message.Worded) :
    Json.Readable (depth + 3) (message.toJson .numbers) := by
  refine .object (List.forall_mem_cons.mpr ⟨.text _, ?_⟩)
  cases message with
  | publishData publication =>
    simp only [members, List.forall_mem_cons]
    exact ⟨.text _, .text _, .ofWord _, ByteNotation.readable_digests _, .text _, List.forall_mem_nil _⟩
  | challengeForFraud sender uri =>
    simp only [members, List.forall_mem_cons]
    exact ⟨.text _, .text _, List.forall_mem_nil _⟩
  | submitInvalidity sender uri indices =>
    have listed : Json.Readable (depth + 2) (.nats indices) := .list_map fun index member => .nat (worded index member)
    simp only [members, List.forall_mem_cons]
    exact ⟨.text _, .text _, listed, List.forall_mem_nil _⟩
  | submitValidityProof sender validator uri indices proofs =>
    have listed : Json.Readable (depth + 2) (.nats indices) := .list_map fun index member => .nat (worded index member)
    have proven : Json.Readable (depth + 2) (.list (proofs.map ByteNotation.numbers.write)) :=
      .list_map fun proof _ => ByteNotation.readable_numbers proof
    simp only [members, List.forall_mem_cons]
    exact ⟨.text _, .text _, .text _, listed, proven, List.forall_mem_nil _⟩

/-- What the chain is told and what it tells of publishes is read as it was written, in any order of the members and
with others in between, and objects that lack something or hold what is no digest or no proof are refused. -/
theorem chain_json_faithful :
    Json.Faithful Worded (toJson .numbers) (ofJson? .numbers) Known ∧
      Json.Faithful (fun _ => True) (Record.toJson .numbers) (Record.ofJson? .numbers)
        (fun _ name => name ∈ Record.fieldNames) ∧
      (∀ message : Message, message.Worded →
        (Json.ofText? (message.toJson .numbers).render).bind (ofJson? .numbers) = some message) ∧
      (∀ record : Record,
        (Json.structure? Record.fieldNames (Bytes.ofText (record.toJson .numbers).render)).bind
          (Record.ofJson? .numbers) = some record) ∧
      (∀ members, (∀ typeTag ∈ typeTags, ("type", .text typeTag) ∉ members) →
        ofJson? .numbers (.object members) = none) ∧
      (∀ members items entries, ("shard_double_hashes", .list items) ∈ members → .list entries ∈ items →
        ByteNotation.Faulty entries →
          Record.ofJson? .numbers (.object members) = none ∧
            (("type", .text "publish_data") ∈ members → ofJson? .numbers (.object members) = none)) ∧
      ∀ members items entries entry, ("type", .text "submit_validity_proof") ∈ members →
        ("proofs", .list items) ∈ members → .list entries ∈ items → entry ∈ entries → ByteNotation.Foreign entry →
          ofJson? .numbers (.object members) = none := by
  refine ⟨faithful ByteNotation.exact_numbers, Record.faithful ByteNotation.exact_numbers, fun message worded => ?_,
    fun record => ?_, fun _ untagged => ofJson?_untagged ByteNotation.exact_numbers untagged,
    fun _ _ _ listed member faulty =>
      ⟨Record.ofJson?_faulty listed member faulty, fun tagged => ofJson?_faulty tagged listed member faulty⟩,
    fun _ _ _ _ tagged listed member inside foreign => ofJson?_foreign tagged listed member inside foreign⟩
  · rw [Json.ofText?_render (readable worded), Option.bind_some]
    exact ofJson?_toJson ByteNotation.exact_numbers worded
  · rw [Record.structure?_render, Option.bind_some]
    exact Record.ofJson?_toJson ByteNotation.exact_numbers record

/-- A message is read whose tag comes last, behind a memo; without its sender it is none. -/
theorem chain_json_faithful_reversed :
    let message : Message := .submitInvalidity "deputy" "ipfs://meta" [3, 1]
    let front := [("memo", Json.null), ("indices", Json.nats [3, 1]), ("metadata_uri", .text "ipfs://meta")]
    message.Worded ∧
      ofJson? .numbers (.object (front ++ [("sender", .text "deputy"), ("type", .text "submit_invalidity")])) =
        some message ∧
      ofJson? .numbers (.object (front ++ [("type", .text "submit_invalidity")])) = none := by
  intro message front
  have worded : message.Worded := by simp [message, Worded, UInt64.size]
  obtain ⟨messages, -⟩ := chain_json_faithful
  have skipped : ∀ entry ∈ [("memo", Json.null)],
      ¬ Known (("type", .text message.typeTag) :: message.members .numbers) entry.1 := by
    simp [message, Known, typeTag, members, fieldNames, Json.nats]
  have moved := List.reverse_perm
    ((("type", .text message.typeTag) :: message.members .numbers) ++ [("memo", .null)])
  refine ⟨worded, (messages.unordered _ _ _ skipped moved).trans (messages.read_write message worded),
    messages.complete _ "sender" (.inr ⟨"submit_invalidity", ?_, ?_⟩) ?_⟩
  · simp
  · decide
  · simp [front]

end Availability.Message
