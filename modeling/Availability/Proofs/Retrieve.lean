import Availability.Retrieve
import Availability.Proofs.Erasure.Recovery
import Availability.Proofs.Store

namespace Availability.Retrieve

section

variable {σ : Type} (env : Environment σ) (store : Store) (metadataUri : String) (state : σ)

theorem commitments_runIn (shardCount : Nat) :
    (commitments metadataUri shardCount).runIn env state =
      match (Program.ask (.publishedData metadataUri)).runIn env state with
      | (.ok (some record), state) =>
        (if record.shardDoubleHashes.length = shardCount then some record.shardDoubleHashes else none, state)
      | (.ok none, state) => (none, state)
      | (.error _, state) => (none, state) := by
  unfold commitments
  rw [Program.runIn_bind]
  rcases (Program.ask (.publishedData metadataUri)).runIn env state with ⟨err | _ | record, after⟩
  · rfl
  · rfl
  · rfl

theorem retrieve_runIn :
    Attempt.runIn env (retrieve store metadataUri) state =
      match Attempt.runIn env (store.fetchMetadata metadataUri) state with
      | (.error err, state) => (.error (.storage err), state)
      | (.ok metadata, state) =>
        match metadata.dataShardCount? with
        | none => (.error (.invalidMetadata metadata.shardCount metadata.parityShardCount.toNat), state)
        | some required =>
          match (commitments metadataUri metadata.shardCount).runIn env state with
          | (digests, state) =>
            match Attempt.runIn env
              (store.fetchShards metadata.shardUris (List.range metadata.shardCount) .tolerate) state with
            | (.error err, state) => (.error (.storage err), state)
            | (.ok fetched, state) =>
              (rebuild metadata required (place digests metadata.shardCount fetched), state) := by
  unfold retrieve
  rw [Attempt.runIn_bind, Attempt.runIn_adapt]
  rcases Attempt.runIn env (store.fetchMetadata metadataUri) state with ⟨err | metadata, listed⟩
  · rfl
  simp only [Except.mapError]
  cases metadata.dataShardCount? with
  | none => rfl
  | some required =>
    simp only [Attempt.runIn_bind, Attempt.runIn_lift, Attempt.runIn_adapt]
    rcases (commitments metadataUri metadata.shardCount).runIn env listed with ⟨digests, asked⟩
    simp only
    rcases Attempt.runIn env
      (store.fetchShards metadata.shardUris (List.range metadata.shardCount) .tolerate) asked with
      ⟨err | fetched, after⟩
    · rfl
    · rfl

end

theorem length_place (commitments : Option (List Digest)) (shardCount : Nat) (fetched : List (Nat × Bytes)) :
    (place commitments shardCount fetched).length = shardCount := by simp [place]

theorem present_place (commitments : Option (List Digest)) {shardCount : Nat} {fetched : List (Nat × Bytes)}
    (ascending : fetched.Pairwise (·.1 < ·.1)) (inside : ∀ entry ∈ fetched, entry.1 < shardCount) :
    Erasure.present (place commitments shardCount fetched) =
      fetched.filter fun (index, shard) => matchesCommitment commitments index shard := by
  apply Indexed.eq_of_mem_iff (Erasure.present_ascending _) (ascending.filter _)
  rintro ⟨index, shard⟩
  rw [Erasure.mem_present, ← Indexed.find?_eq_some_iff (ascending.filter _), place, List.getElem?_map]
  by_cases within : index < shardCount
  · simp [within]
  · have missing : (index, shard) ∉ fetched := fun member => within (inside _ member)
    rw [Indexed.find?_eq_some_iff (ascending.filter _)]
    simp [within, missing]

section

variable {metadata : Metadata} {required : Nat} {shards : List (Option Bytes)} {blob : Bytes}

theorem rebuild_of_few (few : (Erasure.present shards).length < required) :
    rebuild metadata required shards = .error (.insufficientShards (Erasure.present shards).length required) := by
  unfold rebuild
  simp only [if_pos few]
  rfl

theorem rebuild_of_enough (enough : required ≤ (Erasure.present shards).length) :
    rebuild metadata required shards =
      ((Erasure.decode shards required metadata.recoveredDataSize.toNat).mapError Error.codec).bind fun blob =>
        if recoveredDataHash blob = metadata.recoveredDataHash then .ok blob else .error .recoveredDataMismatch := by
  unfold rebuild
  simp only [if_neg (not_lt.mpr enough), bind, Except.bind, pure, Except.pure, ne_eq, ite_not]

theorem rebuild_of_decoded (enough : required ≤ (Erasure.present shards).length)
    (decoded : Erasure.decode shards required metadata.recoveredDataSize.toNat = .ok blob)
    (same : recoveredDataHash blob = metadata.recoveredDataHash) : rebuild metadata required shards = .ok blob := by
  rw [rebuild_of_enough enough, decoded]
  simp only [Except.mapError, Except.bind, same, if_true]

end

end Availability.Retrieve
