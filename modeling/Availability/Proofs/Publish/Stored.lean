import Availability.Proofs.Erasure.Recovery
import Availability.Proofs.Publish
import Availability.Proofs.Steps

namespace Availability

open Program (Path)

namespace Program

theorem Path.of_storeEach {protocol : Protocol} {entries : List (Nat × Bytes)}
    {finished : List (Nat × Except Storage.Error String)} {heard : Transcript}
    (path : Path (storeEach protocol entries) heard (.done finished)) :
    finished.map (·.1) = entries.map (·.1) ∧ ∀ position answer, (position, answer) ∈ finished →
      ∃ object, (position, object) ∈ entries ∧ ⟨.store protocol object, answer⟩ ∈ heard := by
  induction entries generalizing finished heard with
  | nil =>
    obtain ⟨-, same⟩ := Path.of_done path
    cases same
    exact ⟨rfl, fun _ _ member => (List.not_mem_nil member).elim⟩
  | cons entry rest ih =>
    obtain ⟨answered, later, rfl, storing⟩ := Path.done_of_perform path
    obtain ⟨others, first, second, rfl, each, ended⟩ := Path.done_of_bind storing
    obtain ⟨rfl, same⟩ := Path.of_done ended
    cases same
    obtain ⟨positions, reported⟩ := ih each
    refine ⟨congrArg (entry.1 :: ·) positions, fun position answer member => ?_⟩
    rcases List.mem_cons.mp member with same | later
    · cases same
      exact ⟨entry.2, List.mem_cons_self, List.mem_cons_self⟩
    · obtain ⟨object, queued, stored⟩ := reported position answer later
      exact ⟨object, List.mem_cons_of_mem _ queued, List.mem_cons_of_mem _ (List.mem_append_left _ stored)⟩

theorem Path.of_storeAll {α : Type} {protocol : Protocol} {objects : List Bytes}
    {next : List (Except Storage.Error String) → Program α} {heard : Transcript} {value : α}
    (path : Path (.storeAll protocol objects next) heard (.done value)) :
    ∃ finished first second, heard = first ++ second ∧ (finished.map (·.1)).Perm (List.range objects.length) ∧
      (∀ position answer, (position, answer) ∈ finished → ∃ object, objects[position]? = some object ∧
        ⟨.store protocol object, answer⟩ ∈ first) ∧
      Path (next ((Indexed.collect finished).map (·.2))) second (.done value) := by
  cases path with
  | step taken others =>
    cases taken with
    | storeAll _ _ _ order =>
      obtain ⟨finished, first, second, rfl, each, rest⟩ := Path.done_of_bind others
      obtain ⟨positions, reported⟩ := Path.of_storeEach each
      refine ⟨finished, first, second, rfl, ?_, fun position answer member => ?_, rest⟩
      · rw [positions, Order.queue_positions_eq]
        exact order.complete
      · obtain ⟨object, queued, stored⟩ := reported position answer member
        exact ⟨object, Order.mem_queue.mp queued, stored⟩

end Program

theorem Attempt.storageOnly_ofExcept_bind_pure {ε α β : Type} (result : Except ε α) (g : α → β) :
    (ofExcept result >>= fun value => pure (g value)).run.StorageOnly := by
  cases result <;> exact trivial

namespace Store

variable {store : Store} {protocol : Protocol} {heard : Transcript}

theorem storageOnly_publishShards (store : Store) (protocol : Protocol) (shards : List Bytes) :
    (store.publishShards protocol shards).run.StorageOnly := by
  unfold publishShards
  cases store.registry.backend protocol with
  | error err => exact trivial
  | ok found => exact fun answers => Attempt.storageOnly_ofExcept_bind_pure _ _

theorem storageOnly_publishMetadata (store : Store) (protocol : Protocol) (metadata : Metadata) :
    (store.publishMetadata protocol metadata).run.StorageOnly := by
  unfold publishMetadata
  cases store.registry.backend protocol with
  | error err => exact trivial
  | ok found =>
    cases metadata.toBytes with
    | error err => exact trivial
    | ok bytes => exact ⟨rfl, fun answer => trivial⟩

theorem path_publishShards {shards : List Bytes} {uris : List String}
    (path : Path (store.publishShards protocol shards).run heard (.done (.ok uris))) :
    uris.length = shards.length ∧ ∀ (index : Nat) (uri : String), uris[index]? = some uri →
      ∃ shard, shards[index]? = some shard ∧ ⟨.store protocol shard, .ok uri⟩ ∈ heard := by
  unfold publishShards at path
  rcases Attempt.path_cases_ofExcept_bind path with ⟨-, failed⟩ | ⟨found, known, uploading⟩
  · exact absurd rfl (failed uris)
  obtain ⟨rfl, -⟩ := Storage.backend_eq_ok known
  obtain ⟨answers, stores, _, rfl, storing, joining⟩ := Attempt.path_ok_of_bind uploading
  rcases Attempt.path_cases_ofExcept_bind joining with ⟨-, failed⟩ | ⟨values, joined, ending⟩
  · exact absurd rfl (failed uris)
  obtain ⟨rfl, same⟩ := Path.of_done ending
  cases same
  obtain ⟨finished, _, _, rfl, complete, stored, ended⟩ := Path.of_storeAll storing
  cases (Path.of_done ended).2
  rw [Indexed.zipIdx_collect complete] at joined
  obtain ⟨length, each⟩ := Indexed.values_of_collect complete (Except.map_eq_ok.mpr ⟨values, joined, rfl⟩)
  refine ⟨length, fun index uri listed => ?_⟩
  obtain ⟨shard, placed, kept⟩ := stored index _ (each index uri listed)
  exact ⟨shard, placed, by simp [kept]⟩

theorem path_publishMetadata {metadata : Metadata} {uri : String}
    (path : Path (store.publishMetadata protocol metadata).run heard (.done (.ok uri))) :
    ∃ bytes, metadata.toBytes = .ok bytes ∧ heard = [⟨.store protocol bytes, .ok uri⟩] := by
  unfold publishMetadata at path
  rcases Attempt.path_cases_ofExcept_bind path with ⟨-, failed⟩ | ⟨found, known, writing⟩
  · exact absurd rfl (failed uri)
  obtain ⟨rfl, -⟩ := Storage.backend_eq_ok known
  rcases Attempt.path_cases_ofExcept_bind writing with ⟨-, failed⟩ | ⟨bytes, written, storing⟩
  · exact absurd rfl (failed uri)
  rcases Path.of_single storing with ⟨-, waiting⟩ | ⟨answer, rfl, same⟩
  · exact absurd rfl (waiting _)
  · cases same
    exact ⟨bytes, Except.mapError_eq_ok.mp written, rfl⟩

end Store

namespace Publish

section

variable (publisher : Publisher) (blob : Bytes) (dataShardCount parityShardCount : UInt64) (tag : String)

/-- What a publish has heard before it commits to its shards and metadata. -/
structure Prepared (protocol : Protocol) (encoded : Erasure.Encoded) (shardUris : List String) (metadataUri : String)
    (heard : Transcript) : Prop where
  tagged : Storage.protocolOfTag tag = .ok protocol
  some_data : dataShardCount ≠ 0
  few : dataShardCount.toNat + parityShardCount.toNat ≤ Erasure.maxTotalShards
  coded : Erasure.encode blob dataShardCount.toNat parityShardCount.toNat = .ok encoded
  sized : encoded.shardSize < UInt64.size
  listed : shardUris.length = encoded.shards.length
  held : ∀ (index : Nat) (uri : String), shardUris[index]? = some uri → ∃ shard, encoded.shards[index]? = some shard ∧
    ⟨.store protocol shard, .ok uri⟩ ∈ heard
  described : ∃ bytes, ⟨.store protocol bytes, .ok metadataUri⟩ ∈ heard ∧
    Metadata.ofBytes bytes = .ok (metadataFor blob parityShardCount encoded shardUris)
  silent : heard.sent = []

/-- The ways in which a publish can be under way. The chain has not taken anything from it before it succeeds, and
its message is the last thing it does. -/
inductive Course : Transcript → Program (Except Error Published) → Prop where
  | quiet {heard : Transcript} {last : Program (Except Error Published)} (silent : heard.accepted = [])
      (unsuccessful : ∀ published, last ≠ .done (.ok published)) : Course heard last
  | announced {protocol : Protocol} {encoded : Erasure.Encoded} {shardUris : List String} {heard : Transcript}
      {published : Published}
      (prepared : Prepared blob dataShardCount parityShardCount tag protocol encoded shardUris published.metadataUri
        heard) :
      Course (heard ++ [⟨.chain (.broadcast (.publishData
          (publicationFor publisher parityShardCount encoded published.metadataUri))), .ok published.transactionHash⟩])
        (.done (.ok published))

end

variable {publisher : Publisher} {blob : Bytes} {dataShardCount parityShardCount : UInt64} {tag : String}
  {heard : Transcript} {last : Program (Except Error Published)}

theorem Prepared.course {protocol : Protocol} {encoded : Erasure.Encoded} {shardUris : List String}
    {metadataUri : String}
    (prepared : Prepared blob dataShardCount parityShardCount tag protocol encoded shardUris metadataUri heard)
    (publisher : Publisher) {later : Transcript}
    (path : Path (ExceptT.run (Attempt.orFail (Program.ask (.broadcast (.publishData
      (publicationFor publisher parityShardCount encoded metadataUri)))) Error.chain >>= fun transactionHash =>
        pure (Published.mk transactionHash metadataUri))) later last) :
    Course publisher blob dataShardCount parityShardCount tag (heard ++ later) last := by
  have nothing := Transcript.accepted_eq_nil prepared.silent
  rcases Attempt.path_cases_ask_bind path with ⟨rfl | ⟨err, rfl⟩, failed⟩ | ⟨transactionHash, _, rfl, ended⟩
  · rw [List.append_nil]
    exact .quiet nothing failed
  · refine .quiet ?_ failed
    rw [Transcript.accepted_append, nothing]
    rfl
  · obtain ⟨rfl, rfl⟩ := Path.of_done ended
    have course : Course publisher blob dataShardCount parityShardCount tag _
      (.done (.ok ⟨transactionHash, metadataUri⟩)) := .announced prepared
    exact course

theorem course_of_path
    (path : Path (publish publisher blob dataShardCount parityShardCount tag).run heard last) :
    Course publisher blob dataShardCount parityShardCount tag heard last := by
  unfold publish at path
  -- As long as a step is not through, nothing was sent.
  rcases Attempt.path_cases_ofExcept_bind path with ⟨rfl, failed⟩ | ⟨protocol, tagged, registering⟩
  · exact .quiet rfl failed
  rcases Attempt.path_cases_ofExcept_bind registering with ⟨rfl, failed⟩ | ⟨_, -, checking⟩
  · exact .quiet rfl failed
  by_cases absent : dataShardCount = 0
  · rw [if_pos absent] at checking
    obtain ⟨rfl, rfl⟩ := Path.of_done checking
    exact .quiet rfl nofun
  rw [if_neg absent] at checking
  rcases Attempt.path_cases_ask_bind checking with ⟨rfl | ⟨err, rfl⟩, failed⟩ | ⟨params, later, rfl, coding⟩
  · exact .quiet rfl failed
  · exact .quiet rfl failed
  rcases Attempt.path_cases_ofExcept_bind coding with ⟨rfl, failed⟩ | ⟨encoded, encodes, uploading⟩
  · exact .quiet rfl failed
  obtain ⟨checked, coded, sized⟩ := encode_eq_ok_iff.mp encodes
  have quiet_shards := publisher.store.storageOnly_publishShards protocol encoded.shards
  rcases Attempt.path_cases_bind uploading with ⟨⟨_, waiting⟩, failed⟩ |
    ⟨shardUris, uploads, _, rfl, uploaded, describing⟩
  · obtain ⟨_, storing⟩ := Attempt.path_of_adapt waiting
    exact .quiet (Transcript.accepted_eq_nil (quiet_shards.path storing).sent) failed
  have silent := (quiet_shards.path (Attempt.path_ok_of_adapt uploaded)).sent
  obtain ⟨listed, held⟩ := Store.path_publishShards (Attempt.path_ok_of_adapt uploaded)
  have quiet_metadata := publisher.store.storageOnly_publishMetadata protocol
    (metadataFor blob parityShardCount encoded shardUris)
  rcases Attempt.path_cases_bind describing with ⟨⟨_, waiting⟩, failed⟩ |
    ⟨metadataUri, _, _, rfl, described, announcing⟩
  · obtain ⟨_, storing⟩ := Attempt.path_of_adapt waiting
    have still := (quiet_metadata.path storing).sent
    refine .quiet (Transcript.accepted_eq_nil ?_) failed
    change Transcript.sent (uploads ++ _) = []
    rw [Transcript.sent_append, silent, still]
    rfl
  obtain ⟨bytes, written, rfl⟩ := Store.path_publishMetadata (Attempt.path_ok_of_adapt described)
  have prepared : Prepared blob dataShardCount parityShardCount tag protocol encoded shardUris metadataUri
      (⟨.chain .params, .ok params⟩ :: (uploads ++ [⟨.store protocol bytes, .ok metadataUri⟩])) := by
    refine ⟨Except.mapError_eq_ok.mp tagged, absent, few_of_checked checked, coded,
      sized.trans_lt params.maxShardSize.toNat_lt, listed, fun index uri found => ?_,
      ⟨bytes, by simp, Metadata.ofBytes_of_toBytes written⟩, ?_⟩
    · obtain ⟨shard, placed, kept⟩ := held index uri found
      exact ⟨shard, placed, by simp [kept]⟩
    · change Transcript.sent (uploads ++ _) = []
      rw [Transcript.sent_append, silent]
      rfl
  have course := prepared.course publisher announcing
  rwa [List.cons_append, List.append_assoc] at course

theorem Course.of_ok {published : Published}
    (course : Course publisher blob dataShardCount parityShardCount tag heard (.done (.ok published))) :
    ∃ protocol encoded shardUris before,
      Prepared blob dataShardCount parityShardCount tag protocol encoded shardUris published.metadataUri before ∧
        heard = before ++ [⟨.chain (.broadcast (.publishData
          (publicationFor publisher parityShardCount encoded published.metadataUri))),
            .ok published.transactionHash⟩] := by
  cases course with
  | quiet silent unsuccessful => exact absurd rfl (unsuccessful published)
  | announced prepared => exact ⟨_, _, _, _, prepared, rfl⟩

theorem Course.of_error {err : Error}
    (course : Course publisher blob dataShardCount parityShardCount tag heard (.done (.error err))) :
    heard.accepted = [] := by
  cases course with
  | quiet silent _ => exact silent

structure Stored (told : Transcript) (protocol : Protocol) (metadata : Metadata) (shards : List Bytes)
    (publication : Publication) : Prop where
  listed : metadata.shardUris.length = shards.length
  layout : publication.parityShardCount.toNat < shards.length
  parity : metadata.parityShardCount = publication.parityShardCount
  committed : publication.shardDoubleHashes = shards.map doubleHash
  described : ∃ bytes, ⟨.store protocol bytes, .ok publication.metadataUri⟩ ∈ told ∧
    Metadata.ofBytes bytes = .ok metadata
  held : ∀ (index : Nat) (uri : String), metadata.shardUris[index]? = some uri → ∃ shard : Bytes,
    shards[index]? = some shard ∧ ⟨.store protocol shard, .ok uri⟩ ∈ told
  announced : told.sent = [.publishData publication]

theorem Prepared.total {protocol : Protocol} {encoded : Erasure.Encoded} {shardUris : List String} {metadataUri : String}
    (prepared : Prepared blob dataShardCount parityShardCount tag protocol encoded shardUris metadataUri heard) :
    0 < dataShardCount.toNat ∧ encoded.shards.length = dataShardCount.toNat + parityShardCount.toNat := by
  have positive : 0 < dataShardCount.toNat := UInt64.lt_iff_toNat_lt.mp (UInt64.pos_iff_ne_zero.mpr prepared.some_data)
  exact ⟨positive, Erasure.length_shards positive prepared.few prepared.coded⟩

theorem Prepared.stored {protocol : Protocol} {encoded : Erasure.Encoded} {shardUris : List String} {metadataUri : String}
    (prepared : Prepared blob dataShardCount parityShardCount tag protocol encoded shardUris metadataUri heard)
    (publisher : Publisher) (answer : Except Chain.Error String) :
    Stored (heard ++ [⟨.chain (.broadcast (.publishData
        (publicationFor publisher parityShardCount encoded metadataUri))), answer⟩]) protocol
      (metadataFor blob parityShardCount encoded shardUris) encoded.shards
      (publicationFor publisher parityShardCount encoded metadataUri) where
  listed := prepared.listed
  layout := by
    obtain ⟨positive, total⟩ := prepared.total
    change parityShardCount.toNat < encoded.shards.length
    omega
  parity := rfl
  committed := rfl
  described := by
    obtain ⟨bytes, stored, described⟩ := prepared.described
    exact ⟨bytes, List.mem_append_left _ stored, described⟩
  held index uri found := by
    obtain ⟨shard, placed, stored⟩ := prepared.held index uri found
    exact ⟨shard, placed, List.mem_append_left _ stored⟩
  announced := by
    rw [Transcript.sent_append, prepared.silent]
    rfl

theorem publish_stored {σ : Type} {env : Environment σ} {published : Published} {state after : σ}
    (ran : Attempt.runIn env (publish publisher blob dataShardCount parityShardCount tag) state =
      (.ok published, after)) :
    ∃ protocol metadata shards publication, Storage.protocolOfTag tag = .ok protocol ∧
      publication.metadataUri = published.metadataUri ∧
        Stored (Attempt.transcript env (publish publisher blob dataShardCount parityShardCount tag) state) protocol
          metadata shards publication := by
  have path := Program.path_runIn env (publish publisher blob dataShardCount parityShardCount tag).run state
  have result : ((publish publisher blob dataShardCount parityShardCount tag).run.runIn env state).1 = .ok published :=
    congrArg Prod.fst ran
  rw [result] at path
  obtain ⟨_, _, _, before, prepared, heard⟩ := (course_of_path path).of_ok
  rw [Attempt.transcript, heard]
  exact ⟨_, _, _, _, prepared.tagged, rfl, prepared.stored publisher _⟩

end Publish

end Availability
