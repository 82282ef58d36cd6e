import Mathlib.Data.Finset.Card
import Mathlib.Data.Finset.Range
import Availability.Audit.Verdict
import Availability.Proofs.Store

namespace Availability.Audit

abbrev Fetches := List (Nat × Except Storage.Error Bytes)

theorem Evidence.shard?_eq_some_iff {evidence : Evidence} (ascending : evidence.validShards.Pairwise (·.1 < ·.1))
    {index : Nat} {shard : Bytes} :
    evidence.shard? index = some shard ↔ (index, shard) ∈ evidence.validShards :=
  Indexed.find?_eq_some_iff ascending

namespace Task

open Classical in
noncomputable def matching (task : Task) (fetches : Fetches) : Finset Nat :=
  (Finset.range task.shardCount).filter fun index =>
    ∃ shard, (index, .ok shard) ∈ fetches ∧ task.shardDoubleHashes[index]? = some (doubleHash shard)

theorem mem_matching {task : Task} {fetches : Fetches} {index : Nat} :
    index ∈ task.matching fetches ↔
      ∃ shard, (index, .ok shard) ∈ fetches ∧ task.shardDoubleHashes[index]? = some (doubleHash shard) := by
  simp only [matching, Finset.mem_filter, Finset.mem_range, and_iff_right_iff_imp]
  rintro ⟨shard, _, committed⟩
  exact (List.getElem?_eq_some_iff.mp committed).1

structure Evident (task : Task) (fetches : Fetches) (evidence : Evidence) : Prop where
  shardCount : evidence.shardCount = task.shardCount
  ascending : evidence.validShards.Pairwise (·.1 < ·.1)
  exact : ∀ index shard, evidence.shard? index = some shard ↔
    index ∈ task.matching fetches ∧ (index, .ok shard) ∈ fetches

structure Described (task : Task) (metadata : Metadata) : Prop where
  layout : task.parityShardCount.toNat < task.shardCount
  count : metadata.shardUris.length = task.shardCount
  parity : metadata.parityShardCount = task.parityShardCount

/-- The rule by which a commitment is judged, given the metadata or why there is none, and what fetching
the shards that the metadata lists comes to. -/
structure Judged (task : Task) (listing : Except Storage.Error Metadata) (fetches : Metadata → Fetches)
    (verdict : Verdict) : Prop where
  metadataUnavailable : ∀ err, listing = .error err ↔
    verdict = .fraud (.metadataUnavailable err) ⟨task.shardCount, []⟩
  invalidShardLayout : ∀ metadata, listing = .ok metadata →
    (task.shardCount ≤ task.parityShardCount.toNat ↔
      verdict = .fraud (.invalidShardLayout task.shardCount task.parityShardCount.toNat) ⟨task.shardCount, []⟩)
  shardCountMismatch : ∀ metadata, listing = .ok metadata → task.parityShardCount.toNat < task.shardCount →
    (metadata.shardUris.length ≠ task.shardCount ↔
      verdict = .fraud (.shardCountMismatch task.shardCount metadata.shardUris.length) ⟨task.shardCount, []⟩)
  parityCountMismatch : ∀ metadata, listing = .ok metadata → task.parityShardCount.toNat < task.shardCount →
    metadata.shardUris.length = task.shardCount →
    (metadata.parityShardCount ≠ task.parityShardCount ↔
      verdict = .fraud (.parityCountMismatch task.parityShardCount.toNat metadata.parityShardCount.toNat)
        ⟨task.shardCount, []⟩)
  insufficientValidShards : ∀ metadata, listing = .ok metadata → task.Described metadata →
    ((task.matching (fetches metadata)).card < task.shardCount - task.parityShardCount.toNat ↔
      ∃ evidence, task.Evident (fetches metadata) evidence ∧
        verdict = .fraud (.insufficientValidShards (task.matching (fetches metadata)).card
          (task.shardCount - task.parityShardCount.toNat)) evidence)
  valid : ∀ metadata, listing = .ok metadata → task.Described metadata →
    (task.shardCount - task.parityShardCount.toNat ≤ (task.matching (fetches metadata)).card ↔
      ∃ evidence, task.Evident (fetches metadata) evidence ∧ verdict = .valid evidence)

end Task

section

variable {task : Task} {metadata : Metadata}

theorem requirement_of_layout (layout : task.shardCount ≤ task.parityShardCount.toNat) :
    requirement task metadata = .error (.invalidShardLayout task.shardCount task.parityShardCount.toNat) := by
  simp [requirement, Task.dataShardCount?, dataShardCount?, not_lt.mpr layout]

theorem requirement_of_count (layout : task.parityShardCount.toNat < task.shardCount)
    (count : metadata.shardUris.length ≠ task.shardCount) :
    requirement task metadata = .error (.shardCountMismatch task.shardCount metadata.shardUris.length) := by
  simp [requirement, Task.dataShardCount?, dataShardCount?, layout, Metadata.shardCount, count]

theorem requirement_of_parity (layout : task.parityShardCount.toNat < task.shardCount)
    (count : metadata.shardUris.length = task.shardCount)
    (parity : metadata.parityShardCount ≠ task.parityShardCount) :
    requirement task metadata =
      .error (.parityCountMismatch task.parityShardCount.toNat metadata.parityShardCount.toNat) := by
  simp [requirement, Task.dataShardCount?, dataShardCount?, layout, Metadata.shardCount, count, parity]

theorem requirement_of_described (described : task.Described metadata) :
    requirement task metadata = .ok (task.shardCount - task.parityShardCount.toNat) := by
  simp [requirement, Task.dataShardCount?, dataShardCount?, described.layout, Metadata.shardCount,
    described.count, described.parity]

theorem requirement_eq_ok {required : Nat} (met : requirement task metadata = .ok required) :
    task.Described metadata ∧ required = task.shardCount - task.parityShardCount.toNat := by
  by_cases layout : task.shardCount ≤ task.parityShardCount.toNat
  · rw [requirement_of_layout layout] at met
    cases met
  have sound := not_le.mp layout
  by_cases count : metadata.shardUris.length = task.shardCount
  · by_cases parity : metadata.parityShardCount = task.parityShardCount
    · rw [requirement_of_described ⟨sound, count, parity⟩] at met
      cases met
      exact ⟨⟨sound, count, parity⟩, rfl⟩
    · rw [requirement_of_parity sound count parity] at met
      cases met
  · rw [requirement_of_count sound count] at met
    cases met

end

section

variable {task : Task} {fetches : Fetches} (complete : (fetches.map (·.1)).Perm (List.range task.shardCount))
include complete

theorem verified_ascending :
    (verified task (Indexed.succeeded (Indexed.collect fetches))).Pairwise (·.1 < ·.1) :=
  (Indexed.succeeded_ascending complete).filter _

theorem mem_verified {index : Nat} {shard : Bytes} :
    (index, shard) ∈ verified task (Indexed.succeeded (Indexed.collect fetches)) ↔
      index ∈ task.matching fetches ∧ (index, .ok shard) ∈ fetches := by
  simp only [verified, List.mem_filter, Indexed.mem_succeeded_collect, decide_eq_true_eq, Task.mem_matching]
  constructor
  · rintro ⟨fetched, committed⟩
    exact ⟨⟨shard, fetched, committed⟩, fetched⟩
  · rintro ⟨⟨other, fetched, committed⟩, member⟩
    have same : (Except.ok other : Except Storage.Error Bytes) = .ok shard :=
      Indexed.result_unique complete fetched member
    cases same
    exact ⟨member, committed⟩

theorem length_verified :
    (verified task (Indexed.succeeded (Indexed.collect fetches))).length = (task.matching fetches).card := by
  apply Indexed.length_eq_card (verified_ascending complete)
  intro index
  constructor
  · intro member
    obtain ⟨shard, fetched, _⟩ := Task.mem_matching.mp member
    exact ⟨shard, (mem_verified complete).mpr ⟨member, fetched⟩⟩
  · rintro ⟨shard, member⟩
    exact ((mem_verified complete).mp member).1

theorem evident_verified :
    task.Evident fetches ⟨task.shardCount, verified task (Indexed.succeeded (Indexed.collect fetches))⟩ where
  shardCount := rfl
  ascending := verified_ascending complete
  exact index shard := by
    rw [Evidence.shard?_eq_some_iff (verified_ascending complete)]
    exact mem_verified complete

end

section

variable {task : Task} {metadata : Metadata} {fetches : Metadata → Fetches}

theorem judged_unavailable (err : Storage.Error) :
    task.Judged (.error err) fetches (.fraud (.metadataUnavailable err) ⟨task.shardCount, []⟩) where
  metadataUnavailable other := by simp
  invalidShardLayout _ listed := by cases listed
  shardCountMismatch _ listed := by cases listed
  parityCountMismatch _ listed := by cases listed
  insufficientValidShards _ listed := by cases listed
  valid _ listed := by cases listed

theorem judged_layout (layout : task.shardCount ≤ task.parityShardCount.toNat) :
    task.Judged (.ok metadata) fetches
      (.fraud (.invalidShardLayout task.shardCount task.parityShardCount.toNat) ⟨task.shardCount, []⟩) where
  metadataUnavailable err := by simp
  invalidShardLayout _ _ := by simp [layout]
  shardCountMismatch _ _ sound := absurd sound (not_lt.mpr layout)
  parityCountMismatch _ _ sound := absurd sound (not_lt.mpr layout)
  insufficientValidShards _ _ described := absurd described.layout (not_lt.mpr layout)
  valid _ _ described := absurd described.layout (not_lt.mpr layout)

theorem judged_count (layout : task.parityShardCount.toNat < task.shardCount)
    (count : metadata.shardUris.length ≠ task.shardCount) :
    task.Judged (.ok metadata) fetches
      (.fraud (.shardCountMismatch task.shardCount metadata.shardUris.length) ⟨task.shardCount, []⟩) where
  metadataUnavailable err := by simp
  invalidShardLayout _ _ := by simp [layout]
  shardCountMismatch _ listed _ := by
    cases listed
    simp [count]
  parityCountMismatch _ listed _ same := by
    cases listed
    exact absurd same count
  insufficientValidShards _ listed described := by
    cases listed
    exact absurd described.count count
  valid _ listed described := by
    cases listed
    exact absurd described.count count

theorem judged_parity (layout : task.parityShardCount.toNat < task.shardCount)
    (count : metadata.shardUris.length = task.shardCount)
    (parity : metadata.parityShardCount ≠ task.parityShardCount) :
    task.Judged (.ok metadata) fetches (.fraud (.parityCountMismatch task.parityShardCount.toNat
      metadata.parityShardCount.toNat) ⟨task.shardCount, []⟩) where
  metadataUnavailable err := by simp
  invalidShardLayout _ _ := by simp [layout]
  shardCountMismatch _ listed _ := by
    cases listed
    simp [count]
  parityCountMismatch _ listed _ _ := by
    cases listed
    simp [parity]
  insufficientValidShards _ listed described := by
    cases listed
    exact absurd described.parity parity
  valid _ listed described := by
    cases listed
    exact absurd described.parity parity

theorem judged_insufficient {evidence : Evidence} (described : task.Described metadata)
    (evident : task.Evident (fetches metadata) evidence)
    (few : (task.matching (fetches metadata)).card < task.shardCount - task.parityShardCount.toNat) :
    task.Judged (.ok metadata) fetches (.fraud (.insufficientValidShards (task.matching (fetches metadata)).card
      (task.shardCount - task.parityShardCount.toNat)) evidence) where
  metadataUnavailable err := by simp
  invalidShardLayout _ _ := by simp [described.layout]
  shardCountMismatch _ listed _ := by
    cases listed
    simp [described.count]
  parityCountMismatch _ listed _ _ := by
    cases listed
    simp [described.parity]
  insufficientValidShards _ listed _ := by
    cases listed
    exact ⟨fun _ => ⟨evidence, evident, rfl⟩, fun _ => few⟩
  valid _ listed _ := by
    cases listed
    simp only [not_le.mpr few, reduceCtorEq, and_false, exists_false]

theorem judged_valid {evidence : Evidence} (described : task.Described metadata)
    (evident : task.Evident (fetches metadata) evidence)
    (enough : task.shardCount - task.parityShardCount.toNat ≤ (task.matching (fetches metadata)).card) :
    task.Judged (.ok metadata) fetches (.valid evidence) where
  metadataUnavailable err := by simp
  invalidShardLayout _ _ := by simp [described.layout]
  shardCountMismatch _ listed _ := by
    cases listed
    simp [described.count]
  parityCountMismatch _ listed _ _ := by
    cases listed
    simp [described.parity]
  insufficientValidShards _ listed _ := by
    cases listed
    simp only [not_lt.mpr enough, reduceCtorEq, and_false, exists_false]
  valid _ listed _ := by
    cases listed
    exact ⟨fun _ => ⟨evidence, evident, rfl⟩, fun _ => enough⟩

theorem judged_judge (described : task.Described metadata)
    (complete : ((fetches metadata).map (·.1)).Perm (List.range task.shardCount)) :
    task.Judged (.ok metadata) fetches (judge task (task.shardCount - task.parityShardCount.toNat)
      (verified task (Indexed.succeeded (Indexed.collect (fetches metadata))))) := by
  have evident := evident_verified complete
  rw [judge, length_verified complete]
  split
  · rename_i few
    exact judged_insufficient described evident few
  · rename_i enough
    exact judged_valid described evident (not_lt.mp enough)

end

section

variable {σ : Type} (env : Environment σ) (store : Store) (task : Task) (state : σ)

theorem decide_runIn :
    (decide store task).runIn env state =
      match Attempt.runIn env (store.fetchMetadata task.metadataUri) state with
      | (.error err, state) => (.fraud (.metadataUnavailable err) ⟨task.shardCount, []⟩, state)
      | (.ok metadata, state) =>
        match requirement task metadata with
        | .error reason => (.fraud reason ⟨task.shardCount, []⟩, state)
        | .ok required =>
          match Attempt.runIn env
            (store.fetchShards metadata.shardUris (List.range task.shardCount) .tolerate) state with
          | (.error err, state) => (.fraud (.metadataUnavailable err) ⟨task.shardCount, []⟩, state)
          | (.ok fetched, state) => (judge task required (verified task fetched), state) := by
  unfold decide
  rw [Program.runIn_bind, Attempt.run_runIn]
  rcases Attempt.runIn env (store.fetchMetadata task.metadataUri) state with ⟨listing, listed⟩
  cases listing with
  | error err => rfl
  | ok metadata =>
    simp only
    cases requirement task metadata with
    | error reason => rfl
    | ok required =>
      simp only
      rw [Program.runIn_bind, Attempt.run_runIn]
      rcases Attempt.runIn env
        (store.fetchShards metadata.shardUris (List.range task.shardCount) .tolerate) listed with ⟨fetched, after⟩
      cases fetched <;> rfl

def fetchesAfter (metadata : Metadata) : Fetches :=
  (env.retrieveAll store.retrieveTimeout (metadata.shardUris.map store.target)
    (Attempt.runIn env (store.fetchMetadata task.metadataUri) state).2).1

/-- The verdict on every commitment follows the rule, whatever the storage networks answer and in whatever
order the fetches end. Fetching never fails as a whole, and no shard is fetched under an index without a
commitment. -/
theorem decide_judged :
    task.Judged (Attempt.runIn env (store.fetchMetadata task.metadataUri) state).1
        (fetchesAfter env store task state) ((decide store task).runIn env state).1 ∧
      ∀ metadata : Metadata, metadata.shardUris.length = task.shardCount → ∀ between : σ, ∃ fetched,
        (Attempt.runIn env (store.fetchShards metadata.shardUris (List.range task.shardCount) .tolerate) between).1 =
          .ok fetched ∧ ∀ entry ∈ fetched, entry.1 < task.shardDoubleHashes.length := by
  refine ⟨?_, ?_⟩
  · rw [decide_runIn]
    cases listing : Attempt.runIn env (store.fetchMetadata task.metadataUri) state with
    | mk listed after =>
      cases listed with
      | error err => exact judged_unavailable err
      | ok metadata =>
        simp only
        by_cases layout : task.shardCount ≤ task.parityShardCount.toNat
        · rw [requirement_of_layout layout]
          exact judged_layout layout
        have sound := not_le.mp layout
        by_cases count : metadata.shardUris.length = task.shardCount
        · by_cases parity : metadata.parityShardCount = task.parityShardCount
          · have described : task.Described metadata := ⟨sound, count, parity⟩
            have complete : ((fetchesAfter env store task state metadata).map (·.1)).Perm
                (List.range task.shardCount) := by
              have every := env.retrieveAll_complete store.retrieveTimeout (metadata.shardUris.map store.target)
                (Attempt.runIn env (store.fetchMetadata task.metadataUri) state).2
              rwa [List.length_map, count] at every
            have judged := judged_judge described complete
            rw [requirement_of_described described]
            simp only
            rw [← count, Store.fetchShards_tolerate]
            simpa only [fetchesAfter, listing, count] using judged
          · rw [requirement_of_parity sound count parity]
            exact judged_parity sound count parity
        · rw [requirement_of_count sound count]
          exact judged_count sound count
  · intro metadata count between
    refine ⟨_, congrArg Prod.fst (count ▸ store.fetchShards_tolerate env metadata.shardUris between), ?_⟩
    intro entry member
    have complete := env.retrieveAll_complete store.retrieveTimeout (metadata.shardUris.map store.target) between
    have fetched := Indexed.mem_succeeded_collect.mp member
    have position := complete.mem_iff.mp (List.mem_map_of_mem fetched)
    rw [List.length_map, count] at position
    exact List.mem_range.mp position

end

end Availability.Audit
