import Availability.Proofs.Loss
import Availability.Proofs.Store.Indices

namespace Availability

open World (environment)

namespace Store

/-- How the retrieval from a uri ended: with what the network that owns it was heard to answer, if there is one. -/
def Answered (store : Store) (heard : Transcript) (uri : String) (answer : Except Storage.Error Bytes) : Prop :=
  match store.target uri with
  | .ok (protocol, uri) => ⟨.retrieve protocol uri store.retrieveTimeout, answer⟩ ∈ heard
  | .error err => answer = .error err

variable {store : Store} {shardUris : List String} {indices : List Nat} {policy : Indexed.Policy}
  {answers : List (Except Storage.Error Bytes)} {heard more : Transcript} {uri : String}
  {answer : Except Storage.Error Bytes} {result : Except Storage.Error (List (Nat × Bytes))}

theorem Answered.mono (answered : store.Answered heard uri answer) (part : heard ⊆ more) :
    store.Answered more uri answer := by
  unfold Answered at answered ⊢
  cases known : store.target uri with
  | error err =>
    rw [known] at answered
    exact answered
  | ok target =>
    rw [known] at answered
    exact part answered

theorem Fetched.answered (fetched : Fetched store shardUris indices policy answers heard result)
    (inside : ∀ index ∈ indices, index < shardUris.length) :
    List.Forall₂ (fun index answer => ∃ uri, shardUris[index]? = some uri ∧ store.Answered heard uri answer)
      indices answers := by
  refine List.forall₂_iff_zip.mpr ⟨fetched.complete.symm, fun {index answer} paired => ?_⟩
  refine ⟨shardUris.getD index "", getElem?_eq_getD "" (inside index (List.of_mem_zip paired).1), ?_⟩
  unfold Answered
  cases known : store.target (shardUris.getD index "") with
  | error err =>
    obtain ⟨position, here⟩ := List.mem_iff_getElem?.mp paired
    obtain ⟨listed, given⟩ := List.getElem?_zip_eq_some.mp here
    exact Option.some.inj (given.symm.trans (fetched.unowned position index err listed known))
  | ok target =>
    refine fetched.heard.mem_iff.mpr (List.mem_filterMap.mpr ⟨_, paired, ?_⟩)
    simp only [targetAt, known]
    rfl

end Store

namespace Retrieve

def requested (metadata : Metadata) (indices : List Nat) : List Nat := indices.filter (· < metadata.shardCount)

theorem lt_of_mem_requested {metadata : Metadata} {indices : List Nat} {index : Nat}
    (member : index ∈ requested metadata indices) : index < metadata.shardCount := by
  simpa using List.of_mem_filter member

def hashed (metadata : Metadata) (kind : HashKind) (fetched : List (Nat × Bytes)) : ShardHashes where
  shardSize := metadata.shardSize
  shardUris := metadata.shardUris
  indices := fetched.map (·.1)
  hashes := fetched.map fun (_, shard) => kind.apply shard

def ShardHashes.rehashed (answer : ShardHashes) : ShardHashes :=
  { answer with hashes := answer.hashes.map fun digest => hash digest.toBytes }

/-- The answer is to the request without what is past the last shard, in its order, and each hash is that of the shard
at its own index. -/
structure Follows (store : Store) (indices : List Nat) (kind : HashKind) (heard : Transcript) (answer : ShardHashes) :
    Prop where
  indices : answer.indices = indices.filter (· < answer.shardUris.length)
  hashes : List.Forall₂ (fun index digest => ∃ uri shard, answer.shardUris[index]? = some uri ∧
    store.Answered heard uri (.ok shard) ∧ digest = kind.apply shard) answer.indices answer.hashes

/-- What a spot check of some shards comes to when its workers are answered so: the hashes of all the shards in the
order of their indices, or the failure of the first that failed. -/
structure Checked (store : Store) (metadata : Metadata) (wanted : List Nat) (kind : HashKind)
    (answers : List (Except Storage.Error Bytes)) (heard : Transcript) (result : Except Error ShardHashes) : Prop where
  answered : List.Forall₂ (fun index answer =>
    ∃ uri, metadata.shardUris[index]? = some uri ∧ store.Answered heard uri answer) wanted answers
  ok : ∀ answer, result = .ok answer ↔ ∃ shards : List Bytes, answers = shards.map .ok ∧
    answer = ⟨metadata.shardSize, metadata.shardUris, wanted, shards.map kind.apply⟩
  error : ∀ err, result = .error err ↔ ∃ cause, Indexed.FirstFailure answers cause ∧ err = .storage cause

section

variable {σ : Type} (env : Environment σ) (store : Store) (metadataUri : String) (indices : List Nat) (kind : HashKind)
  (state : σ)

theorem shardHashes_runIn :
    Attempt.runIn env (shardHashes store metadataUri indices kind) state =
      match Attempt.runIn env (store.fetchMetadata metadataUri) state with
      | (.error err, state) => (.error (.storage err), state)
      | (.ok metadata, state) =>
        match Attempt.runIn env
          (store.fetchShards metadata.shardUris (requested metadata indices) .abort) state with
        | (fetched, state) => ((fetched.mapError .storage).map (hashed metadata kind), state) := by
  unfold shardHashes
  rw [Attempt.runIn_bind, Attempt.runIn_adapt]
  rcases Attempt.runIn env (store.fetchMetadata metadataUri) state with ⟨err | metadata, listed⟩
  · rfl
  · refine (Attempt.runIn_bind_pure env _ (hashed metadata kind) listed).trans ?_
    rw [Attempt.runIn_adapt]
    rfl

theorem transcript_shardHashes {metadata : Metadata} {listed : σ}
    (listing : Attempt.runIn env (store.fetchMetadata metadataUri) state = (.ok metadata, listed)) :
    Attempt.transcript env (shardHashes store metadataUri indices kind) state =
      Attempt.transcript env (store.fetchMetadata metadataUri) state ++
        Attempt.transcript env
          (store.fetchShards metadata.shardUris (requested metadata indices) .abort) listed := by
  have adapted : Attempt.runIn env (ExceptT.adapt Error.storage (store.fetchMetadata metadataUri)) state =
      (.ok metadata, listed) := by
    rw [Attempt.runIn_adapt, listing]
    rfl
  unfold shardHashes
  rw [Attempt.transcript_bind_of_ok env adapted, Attempt.transcript_adapt]
  refine congrArg (_ ++ ·) ?_
  rw [← Attempt.transcript_adapt env listed _ Error.storage]
  exact Attempt.transcript_bind_pure env _ listed (hashed metadata kind)

end

section

variable {store : Store} {metadata : Metadata} {wanted : List Nat} {answers : List (Except Storage.Error Bytes)}
  {heard more : Transcript}

theorem zip_eq_map_iff (complete : answers.length = wanted.length) {fetched : List (Nat × Bytes)} :
    (wanted.zip answers = fetched.map fun (index, shard) => (index, .ok shard)) ↔
      wanted = fetched.map (·.1) ∧ answers = fetched.map fun (_, shard) => .ok shard := by
  constructor
  · intro paired
    have indices := congrArg (List.map Prod.fst) paired
    have shards := congrArg (List.map Prod.snd) paired
    rw [List.map_fst_zip complete.ge, List.map_map] at indices
    rw [List.map_snd_zip complete.le, List.map_map] at shards
    exact ⟨indices, shards⟩
  · rintro ⟨rfl, rfl⟩
    exact List.zip_map'

theorem hashed_zip {shards : List Bytes} (complete : shards.length = wanted.length) (kind : HashKind) :
    hashed metadata kind (wanted.zip shards) =
      ⟨metadata.shardSize, metadata.shardUris, wanted, shards.map kind.apply⟩ := by
  have hashes : (wanted.zip shards).map (fun entry => kind.apply entry.2) = shards.map kind.apply := by
    conv_rhs => rw [← List.map_snd_zip complete.le, List.map_map]
    rfl
  simp only [hashed, List.map_fst_zip complete.ge, hashes]

theorem checked_of_fetched {result : Except Storage.Error (List (Nat × Bytes))}
    (fetched : store.Fetched metadata.shardUris wanted .abort answers heard result)
    (inside : ∀ index ∈ wanted, index < metadata.shardCount) (part : heard ⊆ more) (kind : HashKind) :
    Checked store metadata wanted kind answers more ((result.mapError .storage).map (hashed metadata kind)) := by
  obtain ⟨complete, failed⟩ := fetched.aborted rfl
  constructor
  case answered =>
    refine (fetched.answered inside).imp fun index answer => ?_
    rintro ⟨uri, listed, answered⟩
    exact ⟨uri, listed, answered.mono part⟩
  case ok =>
    intro answer
    rw [Except.map_eq_ok]
    constructor
    · rintro ⟨entries, found, rfl⟩
      rw [Except.mapError_eq_ok, complete, zip_eq_map_iff fetched.complete] at found
      obtain ⟨rfl, rfl⟩ := found
      exact ⟨entries.map (·.2), by simp, by simp [hashed]⟩
    · rintro ⟨shards, rfl, rfl⟩
      have count : shards.length = wanted.length := by simpa using fetched.complete
      refine ⟨wanted.zip shards, ?_, ?_⟩
      · rw [Except.mapError_eq_ok, complete]
        exact List.zip_map_right
      · exact hashed_zip count kind
  case error =>
    intro err
    rw [Except.map_eq_error]
    cases result with
    | ok entries => simp [Except.mapError, ← failed]
    | error cause => simp [Except.mapError, ← failed, eq_comm]

theorem Checked.rehashed {also : Transcript} {single double : Except Error ShardHashes}
    (first : Checked store metadata wanted .single answers heard single)
    (second : Checked store metadata wanted .double answers also double) :
    double = single.map ShardHashes.rehashed := by
  cases single with
  | ok answer =>
    obtain ⟨shards, given, rfl⟩ := (first.ok answer).mp rfl
    refine (second.ok _).mpr ⟨shards, given, ?_⟩
    simp only [ShardHashes.rehashed, List.map_map]
    rfl
  | error err => exact (second.error err).mpr ((first.error err).mp rfl)

theorem Checked.follows {indices : List Nat} {kind : HashKind} {answer : ShardHashes}
    (checked : Checked store metadata (requested metadata indices) kind answers heard (.ok answer)) :
    Follows store indices kind heard answer := by
  obtain ⟨shards, rfl, rfl⟩ := (checked.ok answer).mp rfl
  refine ⟨rfl, List.forall₂_map_right_iff.mpr ((List.forall₂_map_right_iff.mp checked.answered).imp ?_)⟩
  rintro index shard ⟨uri, listed, answered⟩
  exact ⟨uri, shard, listed, answered, rfl⟩

end

section

variable {σ : Type} (env : Environment σ) (store : Store) (metadataUri : String) (indices : List Nat) (state : σ)

/-- What the workers of a spot check are answered does not depend on what is to be hashed. -/
theorem shardHashes_checked {metadata : Metadata} {listed : σ}
    (listing : Attempt.runIn env (store.fetchMetadata metadataUri) state = (.ok metadata, listed)) (kind : HashKind) :
    Checked store metadata (requested metadata indices) kind
      ((Indexed.collect (env.retrieveAll store.retrieveTimeout
        ((requested metadata indices).map (store.targetAt metadata.shardUris)) listed).1).map (·.2))
      (Attempt.transcript env (shardHashes store metadataUri indices kind) state)
      (Attempt.runIn env (shardHashes store metadataUri indices kind) state).1 := by
  rw [transcript_shardHashes env store metadataUri indices kind state listing, shardHashes_runIn, listing]
  exact checked_of_fetched (store.fetchShards_fetched env listed (fun _ => lt_of_mem_requested) .abort)
    (fun _ => lt_of_mem_requested) (List.subset_append_right _ _) kind

theorem shardHashes_unlisted {err : Storage.Error}
    (listing : (Attempt.runIn env (store.fetchMetadata metadataUri) state).1 = .error err) (kind : HashKind) :
    (Attempt.runIn env (shardHashes store metadataUri indices kind) state).1 = .error (.storage err) := by
  rw [shardHashes_runIn]
  rcases fetched : Attempt.runIn env (store.fetchMetadata metadataUri) state with ⟨_ | metadata, listed⟩
  · rw [fetched] at listing
    cases listing
    rfl
  · rw [fetched] at listing
    cases listing

theorem shardHashes_eq_ok {kind : HashKind} {answer : ShardHashes}
    (ran : (Attempt.runIn env (shardHashes store metadataUri indices kind) state).1 = .ok answer) :
    Follows store indices kind (Attempt.transcript env (shardHashes store metadataUri indices kind) state) answer := by
  rcases listing : Attempt.runIn env (store.fetchMetadata metadataUri) state with ⟨err | metadata, listed⟩
  · rw [shardHashes_unlisted env store metadataUri indices state (congrArg Prod.fst listing)] at ran
    cases ran
  · have checked := shardHashes_checked env store metadataUri indices state listing kind
    rw [ran] at checked
    exact checked.follows

theorem shardHashes_rehashed :
    (Attempt.runIn env (shardHashes store metadataUri indices .double) state).1 =
      (Attempt.runIn env (shardHashes store metadataUri indices .single) state).1.map ShardHashes.rehashed := by
  rcases listing : Attempt.runIn env (store.fetchMetadata metadataUri) state with ⟨err | metadata, listed⟩
  · have failed := shardHashes_unlisted env store metadataUri indices state (congrArg Prod.fst listing)
    rw [failed, failed]
    rfl
  · have checked := shardHashes_checked env store metadataUri indices state listing
    exact (checked .single).rehashed (checked .double)

end

section

variable (order : World → (workers : Nat) → Order workers) (store : Store) (metadataUri : String) (indices : List Nat)
  {world : World}

theorem shardHashes_looked_up {metadata : Metadata} (listed : world.metadataAt store metadataUri = .ok metadata)
    (kind : HashKind) :
    Checked store metadata (requested metadata indices) kind
      ((requested metadata indices).map fun index =>
        world.lookup store.retrieveTimeout (store.targetAt metadata.shardUris index))
      (Attempt.transcript (environment order) (shardHashes store metadataUri indices kind) world)
      (Attempt.runIn (environment order) (shardHashes store metadataUri indices kind) world).1 := by
  obtain ⟨later, listing, alike⟩ := fetchMetadata_looked_up order store world metadataUri
  rw [listed] at listing
  have checked := shardHashes_checked (environment order) store metadataUri indices world listing kind
  rw [World.answers_retrieveAll, List.map_map] at checked
  have looked (index : Nat) : later.lookup store.retrieveTimeout (store.targetAt metadata.shardUris index) =
      world.lookup store.retrieveTimeout (store.targetAt metadata.shardUris index) := alike.lookup _ _
  simpa only [Function.comp_def, looked] using checked

theorem shardHashes_rehashed_later {later : World} (alike : World.Alike world later)
    (other : World → (workers : Nat) → Order workers) :
    (Attempt.runIn (environment other) (shardHashes store metadataUri indices .double) later).1 =
      (Attempt.runIn (environment order) (shardHashes store metadataUri indices .single) world).1.map
        ShardHashes.rehashed := by
  have still : later.metadataAt store metadataUri = world.metadataAt store metadataUri := alike.metadataAt store _
  have looked (limit : Duration) (target : Except Storage.Error (Protocol × String)) :
      later.lookup limit target = world.lookup limit target := alike.lookup limit target
  cases listed : world.metadataAt store metadataUri with
  | error err =>
    obtain ⟨_, listing, -⟩ := fetchMetadata_looked_up order store world metadataUri
    obtain ⟨_, relisting, -⟩ := fetchMetadata_looked_up other store later metadataUri
    rw [shardHashes_unlisted _ store metadataUri indices world ((congrArg Prod.fst listing).trans listed),
      shardHashes_unlisted _ store metadataUri indices later ((congrArg Prod.fst relisting).trans (still.trans listed))]
    rfl
  | ok metadata =>
    have single := shardHashes_looked_up order store metadataUri indices listed .single
    have double := shardHashes_looked_up other store metadataUri indices (still.trans listed) .double
    simp only [looked] at double
    exact single.rehashed double

end

end Retrieve

theorem Loss.shardHashes_after (order : World → (workers : Nat) → Order workers) {reader : Store}
    {protocol : Protocol} {metadata : Metadata} {shards : List Bytes} {publication : Publication}
    {before after : World} (deposit : Publish.Deposit before protocol metadata shards publication)
    (loss : Loss reader protocol publication.metadataUri metadata before after) {indices : List Nat}
    (kept : ∀ index ∈ indices, index < metadata.shardCount → index ∈ intact protocol metadata before after)
    (kind : Retrieve.HashKind) :
    (Attempt.runIn (environment order) (Retrieve.shardHashes reader publication.metadataUri indices kind) after).1 =
      .ok ⟨metadata.shardSize, metadata.shardUris, Retrieve.requested metadata indices,
        (Retrieve.requested metadata indices).map fun index => kind.apply (shards.getD index [])⟩ := by
  have checked := Retrieve.shardHashes_looked_up order reader publication.metadataUri indices
    (metadataAt_after deposit.standing loss) kind
  refine (checked.ok _).mpr ⟨(Retrieve.requested metadata indices).map fun index => shards.getD index [], ?_, ?_⟩
  · rw [List.map_map]
    refine List.map_congr_left fun index member => ?_
    have inside := Retrieve.lt_of_mem_requested member
    obtain ⟨original, looked⟩ := lookup_shard deposit.standing loss inside
    have same : after.object? protocol (metadata.shardUris.getD index "") =
        before.object? protocol (metadata.shardUris.getD index "") := by
      simpa using List.of_mem_filter (kept index (List.mem_of_mem_filter member) inside)
    rw [Store.targetAt, looked, same, original]
    rfl
  · rw [List.map_map]
    rfl

/-- Twice hashed, the shards of a publish that are still what they were have the hashes that the chain has for them. -/
theorem Retrieve.shardHashes_published {order : World → (workers : Nat) → Order workers}
    {publisher : Publish.Publisher} {blob : Bytes} {dataShardCount parityShardCount : UInt64} {tag : String}
    {published : Publish.Published} {world before : World} (proper : world.Proper)
    (ran : Attempt.runIn (environment order)
      (Publish.publish publisher blob dataShardCount parityShardCount tag) world = (.ok published, before)) :
    ∃ protocol metadata record, Storage.protocolOfTag tag = .ok protocol ∧
      metadata.shardCount = dataShardCount.toNat + parityShardCount.toNat ∧
      (∃ shards publication, publication.metadataUri = published.metadataUri ∧
        Publish.Deposit before protocol metadata shards publication) ∧
      ∀ (reader : Store) (after : World) (order : World → (workers : Nat) → Order workers) (indices : List Nat),
        Loss reader protocol published.metadataUri metadata before after →
        (∀ index ∈ indices, index < metadata.shardCount → index ∈ intact protocol metadata before after) →
        after.ledger.published.get? published.metadataUri = some record ∧
          ∃ answer, (Attempt.runIn (environment order)
              (shardHashes reader published.metadataUri indices .double) after).1 = .ok answer ∧
            answer.indices = requested metadata indices ∧
            answer.hashes.map some = answer.indices.map fun index => record.shardDoubleHashes[index]? := by
  obtain ⟨protocol, encoded, shardUris, tagged, some_data, few, encodes, deposit⟩ :=
    Publish.publish_deposits proper ran
  have positive : 0 < dataShardCount.toNat := UInt64.lt_iff_toNat_lt.mp (UInt64.pos_iff_ne_zero.mpr some_data)
  have total := Erasure.length_shards positive few encodes
  obtain ⟨record, found, hashes⟩ := deposit.recorded
  refine ⟨protocol, _, record, tagged, deposit.listed.trans total, ⟨_, _, rfl, deposit⟩, ?_⟩
  intro reader after order indices loss kept
  refine ⟨loss.recorded.trans found, _, Loss.shardHashes_after order deposit loss kept .double, rfl, ?_⟩
  rw [hashes, List.map_map]
  refine List.map_congr_left fun index member => ?_
  have inside : index < encoded.shards.length := deposit.listed ▸ lt_of_mem_requested member
  change _ = (encoded.shards.map doubleHash)[index]?
  rw [List.getElem?_map, getElem?_eq_getD [] inside]
  rfl

end Availability
