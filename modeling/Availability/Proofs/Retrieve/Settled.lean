import Availability.Proofs.Http
import Availability.Proofs.Recoverable

namespace Availability

open World (environment)

namespace Retrieve

open Audit (Fetches)

/-- A record binds the shards as soon as it has as many hashes as the metadata has uris. -/
def Counts (told : Except Chain.Error (Option Record)) (metadata : Metadata) (index : Nat) (shard : Bytes) : Prop :=
  ∀ record, told = .ok (some record) → record.shardDoubleHashes.length = metadata.shardUris.length →
    record.shardDoubleHashes[index]? = some (doubleHash shard)

open Classical in
noncomputable def usable (told : Except Chain.Error (Option Record)) (metadata : Metadata) (fetches : Fetches) :
    Finset Nat :=
  (Finset.range metadata.shardUris.length).filter fun index =>
    ∃ shard, (index, .ok shard) ∈ fetches ∧ Counts told metadata index shard

structure Placed (told : Except Chain.Error (Option Record)) (metadata : Metadata) (fetches : Fetches)
    (shards : List (Option Bytes)) : Prop where
  length : shards.length = metadata.shardUris.length
  exact : ∀ index shard, shards[index]? = some (some shard) ↔
    (index, .ok shard) ∈ fetches ∧ Counts told metadata index shard

/-- What retrieval comes to, given the metadata or why there is none, what the chain tells, and what fetching the
shards comes to. -/
structure Settled (listing : Except Storage.Error Metadata) (told : Except Chain.Error (Option Record))
    (fetches : Metadata → Fetches) (outcome : Except Error Bytes) : Prop where
  storage : ∀ err, outcome = .error (.storage err) ↔ listing = .error err
  invalidMetadata : ∀ metadata, listing = .ok metadata →
    (metadata.shardUris.length ≤ metadata.parityShardCount.toNat ↔
      outcome = .error (.invalidMetadata metadata.shardUris.length metadata.parityShardCount.toNat))
  insufficientShards : ∀ metadata, listing = .ok metadata →
    metadata.parityShardCount.toNat < metadata.shardUris.length →
      ((usable told metadata (fetches metadata)).card <
          metadata.shardUris.length - metadata.parityShardCount.toNat ↔
        outcome = .error (.insufficientShards (usable told metadata (fetches metadata)).card
          (metadata.shardUris.length - metadata.parityShardCount.toNat)))
  decoded : ∀ metadata, listing = .ok metadata → metadata.parityShardCount.toNat < metadata.shardUris.length →
    metadata.shardUris.length - metadata.parityShardCount.toNat ≤ (usable told metadata (fetches metadata)).card →
      ∃ shards, Placed told metadata (fetches metadata) shards ∧
        outcome = ((Erasure.decode shards (metadata.shardUris.length - metadata.parityShardCount.toNat)
            metadata.recoveredDataSize.toNat).mapError Error.codec).bind fun blob =>
          if recoveredDataHash blob = metadata.recoveredDataHash then .ok blob else .error .recoveredDataMismatch
  sound : ∀ blob, outcome = .ok blob → ∃ metadata, listing = .ok metadata ∧
    blob.length = metadata.recoveredDataSize.toNat ∧ recoveredDataHash blob = metadata.recoveredDataHash

namespace Placed

variable {told : Except Chain.Error (Option Record)} {metadata : Metadata} {fetches : Fetches}
  {shards : List (Option Bytes)} (placed : Placed told metadata fetches shards)
include placed

theorem mem_present {index : Nat} {shard : Bytes} :
    (index, shard) ∈ Erasure.present shards ↔ (index, .ok shard) ∈ fetches ∧ Counts told metadata index shard := by
  rw [Erasure.mem_present, placed.exact]

theorem mem_usable {index : Nat} :
    index ∈ usable told metadata fetches ↔ ∃ shard, (index, shard) ∈ Erasure.present shards := by
  simp only [usable, Finset.mem_filter, Finset.mem_range, placed.mem_present, and_iff_right_iff_imp]
  rintro ⟨shard, counted⟩
  obtain ⟨inside, -⟩ := List.getElem?_eq_some_iff.mp ((placed.exact index shard).mpr counted)
  rwa [← placed.length]

theorem length_present : (Erasure.present shards).length = (usable told metadata fetches).card :=
  Indexed.length_eq_card (Erasure.present_ascending shards) fun _ => placed.mem_usable

end Placed

theorem settled_unavailable (err : Storage.Error) (told : Except Chain.Error (Option Record))
    (fetches : Metadata → Fetches) : Settled (.error err) told fetches (.error (.storage err)) where
  storage other := by simp
  invalidMetadata _ listed := by cases listed
  insufficientShards _ listed := by cases listed
  decoded _ listed := by cases listed
  sound _ retrieved := by cases retrieved

def toldCommitments (told : Except Chain.Error (Option Record)) (shardCount : Nat) : Option (List Digest) :=
  match told with
  | .ok (some record) =>
    if record.shardDoubleHashes.length = shardCount then some record.shardDoubleHashes else none
  | _ => none

theorem length_toldCommitments {told : Except Chain.Error (Option Record)} {shardCount : Nat} {digests : List Digest}
    (taken : toldCommitments told shardCount = some digests) : digests.length = shardCount := by
  unfold toldCommitments at taken
  split at taken
  · split at taken
    · rename_i count
      cases taken
      exact count
    · cases taken
  · cases taken

section

variable {told : Except Chain.Error (Option Record)} {metadata : Metadata} {fetches : Fetches}

theorem matchesCommitment_iff (index : Nat) (shard : Bytes) :
    matchesCommitment (toldCommitments told metadata.shardUris.length) index shard = true ↔
      Counts told metadata index shard := by
  unfold Counts toldCommitments
  rcases told with err | _ | record
  · simp [matchesCommitment]
  · simp [matchesCommitment]
  · by_cases count : record.shardDoubleHashes.length = metadata.shardUris.length
    · simp [matchesCommitment, count]
    · simp [matchesCommitment, count]

def placement (told : Except Chain.Error (Option Record)) (metadata : Metadata) (fetches : Fetches) :
    List (Option Bytes) :=
  place (toldCommitments told metadata.shardUris.length) metadata.shardUris.length
    (Indexed.succeeded (Indexed.collect fetches))

variable (told) (complete : (fetches.map (·.1)).Perm (List.range metadata.shardUris.length))
include complete

theorem lt_of_mem_succeeded {index : Nat} {shard : Bytes}
    (member : (index, shard) ∈ Indexed.succeeded (Indexed.collect fetches)) : index < metadata.shardUris.length := by
  have fetched := Indexed.mem_succeeded_collect.mp member
  exact List.mem_range.mp (complete.mem_iff.mp (List.mem_map_of_mem fetched))

theorem placed_placement : Placed told metadata fetches (placement told metadata fetches) where
  length := length_place _ _ _
  exact index shard := by
    rw [← Erasure.mem_present, placement,
      present_place _ (Indexed.succeeded_ascending complete) fun _ => lt_of_mem_succeeded complete,
      List.mem_filter, Indexed.mem_succeeded_collect]
    exact and_congr_right fun _ => matchesCommitment_iff index shard

end

theorem settled_invalid {metadata : Metadata} (invalid : metadata.shardUris.length ≤ metadata.parityShardCount.toNat)
    (told : Except Chain.Error (Option Record)) (fetches : Metadata → Fetches) :
    Settled (.ok metadata) told fetches
      (.error (.invalidMetadata metadata.shardUris.length metadata.parityShardCount.toNat)) where
  storage err := by simp
  invalidMetadata _ listed := by
    cases listed
    simp [invalid]
  insufficientShards _ listed valid := by
    cases listed
    exact absurd valid (not_lt.mpr invalid)
  decoded _ listed valid := by
    cases listed
    exact absurd valid (not_lt.mpr invalid)
  sound _ retrieved := by cases retrieved

theorem settled_rebuild {metadata : Metadata} {fetches : Metadata → Fetches}
    (told : Except Chain.Error (Option Record)) (valid : metadata.parityShardCount.toNat < metadata.shardUris.length)
    (complete : ((fetches metadata).map (·.1)).Perm (List.range metadata.shardUris.length)) :
    Settled (.ok metadata) told fetches
      (rebuild metadata (metadata.shardUris.length - metadata.parityShardCount.toNat)
        (placement told metadata (fetches metadata))) := by
  have placed := placed_placement told complete
  have count := placed.length_present
  by_cases enough : metadata.shardUris.length - metadata.parityShardCount.toNat ≤
      (Erasure.present (placement told metadata (fetches metadata))).length
  · have failure : ∀ err, rebuild metadata (metadata.shardUris.length - metadata.parityShardCount.toNat)
        (placement told metadata (fetches metadata)) = .error err →
          err = .recoveredDataMismatch ∨ ∃ cause, err = .codec cause := fun err => rebuild_error enough
    refine ⟨fun err => ?_, fun _ listed => ?_, fun _ listed _ => ?_, fun _ listed _ _ => ?_, fun blob rebuilt => ?_⟩
    · simp only [reduceCtorEq, iff_false]
      intro failed
      simpa using failure _ failed
    · cases listed
      refine iff_of_false (not_le.mpr valid) fun failed => ?_
      simpa using failure _ failed
    · cases listed
      refine iff_of_false (not_lt.mpr (count ▸ enough)) fun failed => ?_
      simpa using failure _ failed
    · cases listed
      exact ⟨_, placed, rebuild_of_enough enough⟩
    · obtain ⟨⟨dataShards, -, fits, rfl⟩, hashed⟩ :=
        (rebuild_eq_ok_iff (Nat.sub_pos_of_lt valid) enough placed.length).mp rebuilt
      exact ⟨metadata, rfl, List.length_take_of_le fits, hashed⟩
  · have few := not_le.mp enough
    rw [rebuild_of_few few, count]
    rw [count] at few
    refine ⟨fun err => by simp, fun _ listed => ?_, fun _ listed _ => ?_, fun _ listed _ many => ?_, fun _ => nofun⟩
    · cases listed
      exact iff_of_false (not_le.mpr valid) nofun
    · cases listed
      exact iff_of_true few rfl
    · cases listed
      exact absurd few (not_lt.mpr many)

section

variable {σ : Type} (env : Environment σ) (store : Store) (metadataUri : String) (state : σ)

def toldAfter : Except Chain.Error (Option Record) × σ :=
  (Program.ask (.publishedData metadataUri)).runIn env (Attempt.runIn env (store.fetchMetadata metadataUri) state).2

def fetchesAfter (metadata : Metadata) : Fetches :=
  (env.retrieveAll store.retrieveTimeout (metadata.shardUris.map store.target)
    (toldAfter env store metadataUri state).2).1

theorem commitments_told (shardCount : Nat) :
    (commitments metadataUri shardCount).runIn env state =
      (toldCommitments ((Program.ask (.publishedData metadataUri)).runIn env state).1 shardCount,
        ((Program.ask (.publishedData metadataUri)).runIn env state).2) := by
  rw [commitments_runIn]
  rcases (Program.ask (.publishedData metadataUri)).runIn env state with ⟨err | _ | record, after⟩
  · rfl
  · rfl
  · rfl

theorem fetches_complete (metadata : Metadata) :
    ((fetchesAfter env store metadataUri state metadata).map (·.1)).Perm (List.range metadata.shardUris.length) := by
  have every := env.retrieveAll_complete store.retrieveTimeout (metadata.shardUris.map store.target)
    (toldAfter env store metadataUri state).2
  rwa [List.length_map] at every

theorem settled_runIn :
    Settled (Attempt.runIn env (store.fetchMetadata metadataUri) state).1 (toldAfter env store metadataUri state).1
      (fetchesAfter env store metadataUri state) (Attempt.runIn env (retrieve store metadataUri) state).1 := by
  rw [retrieve_runIn]
  cases listing : Attempt.runIn env (store.fetchMetadata metadataUri) state with
  | mk listed after =>
    cases listed with
    | error err => exact settled_unavailable err _ _
    | ok metadata =>
      by_cases valid : metadata.parityShardCount.toNat < metadata.shardUris.length
      · have required : metadata.dataShardCount? =
            some (metadata.shardUris.length - metadata.parityShardCount.toNat) := if_pos valid
        have settled := settled_rebuild (toldAfter env store metadataUri state).1 valid
          (fetches_complete env store metadataUri state metadata)
        simp only [required, Metadata.shardCount, commitments_told, Store.fetchShards_tolerate]
        simpa only [placement, fetchesAfter, toldAfter, listing] using settled
      · have missing : metadata.dataShardCount? = none := if_neg valid
        simp only [missing]
        exact settled_invalid (not_lt.mp valid) _ _

theorem fetched_inside (metadata : Metadata) (between : σ) :
    ∃ fetched, (Attempt.runIn env (store.fetchShards metadata.shardUris (List.range metadata.shardUris.length)
        .tolerate) between).1 = .ok fetched ∧
      ∀ entry ∈ fetched, entry.1 < metadata.shardUris.length ∧
        ∀ asked digests, ((commitments metadataUri metadata.shardUris.length).runIn env asked).1 = some digests →
          entry.1 < digests.length := by
  refine ⟨_, congrArg Prod.fst (store.fetchShards_tolerate env metadata.shardUris between), ?_⟩
  intro entry member
  have complete := env.retrieveAll_complete store.retrieveTimeout (metadata.shardUris.map store.target) between
  rw [List.length_map] at complete
  have inside := lt_of_mem_succeeded complete member
  refine ⟨inside, fun asked digests taken => ?_⟩
  rw [commitments_told] at taken
  rwa [length_toldCommitments taken]

end

end Retrieve

theorem Storage.backendForUri_eq_ok {registry : Registry} {uri : String} {protocol : Protocol}
    (known : registry.backendForUri uri = .ok protocol) : Protocol.ofUri? uri = some protocol := by
  unfold Registry.backendForUri protocolOfUri at known
  cases named : Protocol.ofUri? uri with
  | none =>
    rw [named] at known
    cases known
  | some other =>
    rw [named] at known
    obtain ⟨rfl, -⟩ := backend_eq_ok known
    rfl

theorem Storage.backendForUri_ne_notFound (registry : Registry) (uri target : String) :
    registry.backendForUri uri ≠ .error (.notFound target) := by
  unfold Registry.backendForUri protocolOfUri Registry.backend
  cases Protocol.ofUri? uri with
  | none => nofun
  | some protocol =>
    simp only [bind, Except.bind]
    split <;> nofun

theorem Store.fetchMetadata_notFound {σ : Type} (env : Environment σ) (store : Store) (uri target : String)
    (state : σ) :
    (Attempt.runIn env (store.fetchMetadata uri) state).1 = .error (.notFound target) ↔
      ∃ protocol, store.registry.backendForUri uri = .ok protocol ∧
        (env.perform state (.retrieve protocol uri store.retrieveTimeout)).1 = .error (.notFound target) := by
  unfold fetchMetadata retrieve
  rw [Attempt.runIn_bind, Attempt.runIn_bind, Attempt.runIn_ofExcept]
  cases known : store.registry.backendForUri uri with
  | error err =>
    have other := Storage.backendForUri_ne_notFound store.registry uri target
    rw [known] at other
    simpa using other
  | ok protocol =>
    have performed :
        Attempt.runIn env (ExceptT.mk (.perform (.retrieve protocol uri store.retrieveTimeout) .done)) state =
          env.perform state (.retrieve protocol uri store.retrieveTimeout) := rfl
    simp only [performed, Except.ok.injEq, exists_eq_left']
    rcases env.perform state (.retrieve protocol uri store.retrieveTimeout) with ⟨err | bytes, after⟩
    · simp
    · cases described : Metadata.ofBytes bytes <;> simp [described, Except.mapError]

namespace Http

theorem Input.status_of_metadataUri {request : Request} {response : Response}
    (refused : Input.metadataUri request = .error response) : response.status = 400 := by
  unfold Input.metadataUri Input.required Input.single? at refused
  rcases listed : (Percent.pairs request.query).filter (·.1 == "metadata_uri") with _ | ⟨first, _ | ⟨second, rest⟩⟩
  all_goals rw [listed] at refused
  · cases refused
    rfl
  · cases refused
  · cases refused
    rfl

theorem Status.ofRetrieve_eq_404 {err : Retrieve.Error} :
    ofRetrieve err = 404 ↔ ∃ target, err = .storage (.notFound target) := by
  rcases err with cause | _ | _ | _ | _
  · cases cause <;> simp [ofRetrieve, ofStorage]
  all_goals simp [ofRetrieve]

variable {σ : Type} (env : Environment σ) (node : Node) {request : Request} (state : σ)

theorem status_blob : ((Handler.blob node request).runIn env state).1.status = 404 ↔
    ∃ uri target protocol, Input.metadataUri request = .ok uri ∧
      node.store.registry.backendForUri uri = .ok protocol ∧
        (env.perform state (.retrieve protocol uri node.store.retrieveTimeout)).1 = .error (.notFound target) := by
  unfold Handler.blob withInput
  cases named : Input.metadataUri request with
  | error response =>
    have refused : response.status = 400 := Input.status_of_metadataUri named
    simp [pure, Program.runIn, refused]
  | ok uri =>
    have storage := (Retrieve.settled_runIn env node.store uri state).storage
    simp only [respond_runIn, Except.ok.injEq, exists_and_left, exists_eq_left']
    simp only [← Store.fetchMetadata_notFound, ← storage]
    cases (Attempt.runIn env (Retrieve.retrieve node.store uri) state).1 with
    | ok blob => simp [Response.json]
    | error err => simp [Response.text, Status.ofRetrieve_eq_404]

theorem status_answer (router : Router) (asked : request.method = "GET") (path : request.path = "/api/get_blob") :
    ((router.answer node request).runIn env state).1.status =
      ((Handler.blob node request).runIn env state).1.status := by
  have route : Route.ofPath? request.path = some .blob := by
    rw [path]
    rfl
  have handled : Route.handle node request .blob = Handler.blob node request := rfl
  rw [status_routed env router node route (by rw [asked]; rfl) (by rw [asked]; decide), handled]

end Http

theorem Storage.Memory.get?_of_lookup {memory : Memory} {uri target : String} {limit : Duration}
    (missed : memory.lookup uri limit = .error (.notFound target)) : memory.objects.get? uri = none := by
  unfold lookup objectId at missed
  cases named : memory.protocol.objectId? uri with
  | none => simp [named, bind, Except.bind] at missed
  | some id =>
    by_cases late : limit.nanoseconds < memory.latency.nanoseconds
    · simp [named, late, bind, Except.bind] at missed
    · cases found : memory.objects.get? uri with
      | none => rfl
      | some object => simp [named, late, found, bind, Except.bind, pure, Except.pure] at missed

/-- Every retrieval comes to what the rule says, whatever the storage networks and the chain answer and in whatever
order the fetches end, and looks nothing up past the end of a list. The blob route answers that there is nothing only
where the network has no metadata at the uri. -/
theorem Retrieve.retrieve_settled {σ : Type} (env : Environment σ) (store : Store) (metadataUri : String) (state : σ) :
    Settled (Attempt.runIn env (store.fetchMetadata metadataUri) state).1 (toldAfter env store metadataUri state).1
        (fetchesAfter env store metadataUri state) (Attempt.runIn env (retrieve store metadataUri) state).1 ∧
      (∀ (metadata : Metadata) (between : σ), ∃ fetched,
        (Attempt.runIn env (store.fetchShards metadata.shardUris (List.range metadata.shardUris.length) .tolerate)
          between).1 = .ok fetched ∧
        ∀ entry ∈ fetched, entry.1 < metadata.shardUris.length ∧
          ∀ asked digests, ((commitments metadataUri metadata.shardUris.length).runIn env asked).1 = some digests →
            entry.1 < digests.length) ∧
      ∀ (router : Http.Router) (node : Node) (request : Http.Request), request.method = "GET" →
        request.path = "/api/get_blob" →
          (((router.answer node request).runIn env state).1.status = 404 ↔
            ∃ uri target protocol, Http.Input.metadataUri request = .ok uri ∧
              node.store.registry.backendForUri uri = .ok protocol ∧
                (env.perform state (.retrieve protocol uri node.store.retrieveTimeout)).1 =
                  .error (.notFound target)) ∧
          ∀ (order : World → (workers : Nat) → Order workers) (world : World),
            ((router.answer node request).runIn (environment order) world).1.status = 404 →
              ∃ uri protocol, Http.Input.metadataUri request = .ok uri ∧ Protocol.ofUri? uri = some protocol ∧
                world.object? protocol uri = none := by
  refine ⟨settled_runIn env store metadataUri state, fetched_inside env store metadataUri,
    fun router node request asked path => ⟨?_, fun order world missed => ?_⟩⟩
  · rw [Http.status_answer env node state router asked path, Http.status_blob]
  · rw [Http.status_answer _ node world router asked path, Http.status_blob] at missed
    obtain ⟨uri, target, protocol, named, known, absent⟩ := missed
    exact ⟨uri, protocol, named, Storage.backendForUri_eq_ok known, Storage.Memory.get?_of_lookup absent⟩

end Availability
