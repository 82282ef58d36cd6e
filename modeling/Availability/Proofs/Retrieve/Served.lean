import Availability.Proofs.Audit.Unchallenged
import Availability.Proofs.Retrieve.Settled

namespace Availability

open Program (Path)

namespace Retrieve

open Audit (Fetches)

section

variable {store : Store} {metadataUri : String} {heard : Transcript}

structure Consulted (store : Store) (metadataUri : String) (heard : Transcript)
    (listing : Except Storage.Error Metadata) (told : Except Chain.Error (Option Record))
    (fetches : Metadata → Fetches) : Prop where
  silent : heard.sent = []
  listed : ∃ first, Path (store.fetchMetadata metadataUri).run first (.done listing) ∧ first ⊆ heard
  asked : ∀ metadata, listing = .ok metadata → metadata.parityShardCount.toNat < metadata.shardUris.length →
    ⟨.chain (.publishedData metadataUri), told⟩ ∈ heard ∧
      ((fetches metadata).map (·.1)).Perm (List.range metadata.shardUris.length) ∧
      Reported store.retrieveTimeout (metadata.shardUris.map store.target) (fetches metadata) heard

theorem path_commitments {shardCount : Nat} {digests : Option (List Digest)}
    (path : Path (commitments metadataUri shardCount) heard (.done digests)) :
    ∃ told, heard = [⟨.chain (.publishedData metadataUri), told⟩] ∧ digests = toldCommitments told shardCount := by
  obtain ⟨told, later, rfl, ended⟩ := Path.done_of_perform path
  rcases told with err | _ | record
  all_goals
    obtain ⟨rfl, same⟩ := Path.of_done ended
    cases same
    exact ⟨_, rfl, rfl⟩

theorem path_rebuild {metadata : Metadata} {required : Nat} {result : Except Error Bytes}
    (path : Path (ExceptT.run (do
      let digests ← ExceptT.lift (commitments metadataUri metadata.shardUris.length)
      let fetched ← (store.fetchShards metadata.shardUris (List.range metadata.shardUris.length) .tolerate).adapt
        Error.storage
      Attempt.ofExcept (rebuild metadata required (place digests metadata.shardUris.length fetched))))
        heard (.done result)) :
    ∃ told finished, heard.sent = [] ∧ ⟨.chain (.publishedData metadataUri), told⟩ ∈ heard ∧
      (finished.map (·.1)).Perm (List.range metadata.shardUris.length) ∧
      Reported store.retrieveTimeout (metadata.shardUris.map store.target) finished heard ∧
      result = rebuild metadata required (placement told metadata finished) := by
  obtain ⟨digests, _, later, rfl, asking, fetching⟩ := Attempt.path_done_of_lift_bind path
  obtain ⟨told, rfl, rfl⟩ := path_commitments asking
  rcases Attempt.path_done_of_bind fetching with ⟨err, rfl, failed⟩ | ⟨fetched, first, _, rfl, shards, ended⟩
  · obtain ⟨_, fetched, same⟩ := Attempt.path_done_of_adapt failed
    obtain ⟨_, -, rfl, -⟩ := Store.path_fetchShards fetched
    cases same
  have reading := Attempt.path_ok_of_adapt shards
  obtain ⟨finished, complete, same, reported⟩ := Store.path_fetchShards reading
  cases same
  obtain ⟨rfl, same⟩ := Path.of_done ended
  cases same
  have silent := ((store.storageOnly_fetchShards metadata.shardUris _ .tolerate).path reading).sent
  rw [List.append_nil]
  refine ⟨told, finished, ?_, List.mem_cons_self, complete, reported.mono (List.subset_append_right ..), rfl⟩
  rw [Transcript.sent_append, silent]
  rfl

/-- Whatever happens between its steps, a retrieval comes to what the rule says about what it has heard. -/
theorem settled_of_path {result : Except Error Bytes}
    (path : Path (retrieve store metadataUri).run heard (.done result)) :
    ∃ listing told fetches, Consulted store metadataUri heard listing told fetches ∧
      Settled listing told fetches result := by
  unfold retrieve at path
  -- The metadata did not come, or what comes then depends on whether its shard counts make sense.
  rcases Attempt.path_done_of_bind path with ⟨err, rfl, failed⟩ | ⟨metadata, first, second, rfl, described, reading⟩
  · obtain ⟨cause | metadata, listed, same⟩ := Attempt.path_done_of_adapt failed
    · cases same
      have silent := ((store.storageOnly_fetchMetadata metadataUri).path listed).sent
      exact ⟨.error cause, .ok none, fun _ => [], ⟨silent, ⟨heard, listed, List.Subset.refl _⟩, nofun⟩,
        settled_unavailable cause _ _⟩
    · cases same
  have listed := Attempt.path_ok_of_adapt described
  have quiet := ((store.storageOnly_fetchMetadata metadataUri).path listed).sent
  by_cases valid : metadata.parityShardCount.toNat < metadata.shardUris.length
  · have required : metadata.dataShardCount? =
        some (metadata.shardUris.length - metadata.parityShardCount.toNat) := if_pos valid
    simp only [required, Metadata.shardCount] at reading
    obtain ⟨told, finished, silent, asked, complete, reported, rfl⟩ := path_rebuild reading
    refine ⟨.ok metadata, told, fun _ => finished, ⟨?_, ⟨first, listed, List.subset_append_left ..⟩, ?_⟩,
      settled_rebuild told valid complete⟩
    · rw [Transcript.sent_append, quiet, silent, List.nil_append]
    · intro other same _
      cases same
      exact ⟨List.mem_append_right _ asked, complete, reported.mono (List.subset_append_right ..)⟩
  · have missing : metadata.dataShardCount? = none := if_neg valid
    simp only [missing] at reading
    obtain ⟨rfl, same⟩ := Path.of_done reading
    cases same
    rw [List.append_nil]
    refine ⟨.ok metadata, .ok none, fun _ => [], ⟨quiet, ⟨first, listed, List.Subset.refl _⟩, ?_⟩,
      settled_invalid (not_lt.mp valid) _ _⟩
    intro other same proper
    cases same
    exact absurd proper valid

end

/-- Where every shard was fetched and the record, if there is one, commits to it, the blob comes back. -/
theorem Settled.whole {metadata : Metadata} {told : Except Chain.Error (Option Record)} {fetches : Metadata → Fetches}
    {result : Except Error Bytes} (settled : Settled (.ok metadata) told fetches result) {blob : Bytes}
    {dataShardCount parityShardCount : Nat} {encoded : Erasure.Encoded} (positive : 0 < dataShardCount)
    (few : dataShardCount + parityShardCount ≤ Erasure.maxTotalShards)
    (encodes : Erasure.encode blob dataShardCount parityShardCount = .ok encoded)
    (listed : metadata.shardUris.length = encoded.shards.length)
    (parity : metadata.parityShardCount.toNat = parityShardCount)
    (size : metadata.recoveredDataSize.toNat = blob.length) (hash : metadata.recoveredDataHash = recoveredDataHash blob)
    (committed : ∀ record, told = .ok (some record) → record.shardDoubleHashes = encoded.shards.map doubleHash)
    (complete : ((fetches metadata).map (·.1)).Perm (List.range metadata.shardUris.length))
    (fetched : ∀ index answer, (index, answer) ∈ fetches metadata → ∃ shard, encoded.shards[index]? = some shard ∧
      answer = .ok shard) :
    result = .ok blob := by
  have total := Erasure.length_shards positive few encodes
  have required : metadata.shardUris.length - metadata.parityShardCount.toNat = dataShardCount := by omega
  have every : usable told metadata (fetches metadata) = Finset.range metadata.shardUris.length := by
    ext index
    simp only [usable, Finset.mem_filter, and_iff_left_iff_imp]
    intro inside
    have reached := complete.mem_iff.mpr (List.mem_range.mpr (Finset.mem_range.mp inside))
    obtain ⟨⟨_, answer⟩, member, rfl⟩ := List.mem_map.mp reached
    obtain ⟨shard, placed, rfl⟩ := fetched _ answer member
    refine ⟨shard, member, fun record known _ => ?_⟩
    rw [committed record known, List.getElem?_map, placed]
    rfl
  obtain ⟨shards, placed, outcome⟩ := settled.decoded metadata rfl (by omega) (by rw [every, Finset.card_range]; omega)
  have decoded : Erasure.decode shards dataShardCount blob.length = .ok blob := by
    apply Erasure.decode_of_held positive few encodes
    · rw [placed.length, listed, total]
    · intro index shard found
      obtain ⟨other, here, same⟩ := fetched index _ ((placed.exact index shard).mp found).1
      cases same
      exact here
    · rw [placed.length_present, every, Finset.card_range]
      omega
  rw [outcome, required, size, decoded]
  exact if_pos hash.symm

end Retrieve

section

variable {publisher : Publish.Publisher} {blob : Bytes} {dataShardCount parityShardCount : UInt64} {tag : String}
  {protocol : Protocol} {encoded : Erasure.Encoded} {shardUris : List String} {metadataUri : String}
  {told heard : Transcript} {announced : Except Chain.Error String} {store : Store}
  {result : Except Retrieve.Error Bytes}

theorem Publish.Prepared.retrieved
    (prepared : Prepared blob dataShardCount parityShardCount tag protocol encoded shardUris metadataUri told)
    (addressable : blob.length < UInt64.size) (registered : protocol ∈ store.registry)
    (served : Served protocol store.retrieveTimeout (told ++ [⟨.chain (.broadcast (.publishData
      (publicationFor publisher parityShardCount encoded metadataUri))), announced⟩]) heard)
    (committed : ∀ record, ⟨.chain (.publishedData metadataUri), .ok (some record)⟩ ∈ heard →
      record.shardDoubleHashes = encoded.shards.map doubleHash)
    (path : Path (Retrieve.retrieve store metadataUri).run heard (.done result)) : result = .ok blob := by
  have stored := prepared.stored publisher announced
  obtain ⟨positive, total⟩ := prepared.total
  obtain ⟨listing, record, fetches, consulted, settled⟩ := Retrieve.settled_of_path path
  obtain ⟨first, listed, part⟩ := consulted.listed
  obtain rfl := Audit.fetchMetadata_served stored (served.within part) registered listed
  have layout : parityShardCount.toNat < shardUris.length := by
    rw [prepared.listed, total]
    omega
  obtain ⟨asked, complete, reported⟩ := consulted.asked _ rfl layout
  refine settled.whole positive prepared.few prepared.coded prepared.listed rfl
    (UInt64.toNat_ofNat_of_lt addressable) rfl ?_ complete ?_
  · rintro other rfl
    exact committed other asked
  · intro index answer fetched
    exact Audit.fetched_of_reported stored served registered reported fetched

end

end Availability
