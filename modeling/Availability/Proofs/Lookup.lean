import Availability.Proofs.Audit.Decision
import Availability.Proofs.Retrieve
import Availability.Proofs.World

namespace Availability

open World (environment)

def World.metadataAt (world : World) (store : Store) (uri : String) : Except Storage.Error Metadata :=
  (world.lookup store.retrieveTimeout (store.target uri)).bind fun bytes =>
    (Metadata.ofBytes bytes).mapError .wire

def World.shardsAt (world : World) (store : Store) (metadata : Metadata) : List (Nat × Bytes) :=
  Indexed.succeeded ((List.range metadata.shardCount).map fun index =>
    (index, world.lookup store.retrieveTimeout (store.target (metadata.shardUris.getD index ""))))

def World.commitmentsAt (world : World) (uri : String) (shardCount : Nat) : Option (List Digest) :=
  match world.fault? .publishedData, world.ledger.published.get? uri with
  | none, some record =>
    if record.shardDoubleHashes.length = shardCount then some record.shardDoubleHashes else none
  | _, _ => none

namespace World

theorem shardsAt_ascending (world : World) (store : Store) (metadata : Metadata) :
    (world.shardsAt store metadata).Pairwise (·.1 < ·.1) :=
  Indexed.succeeded_of_ascending (List.pairwise_map.mpr List.pairwise_lt_range)

theorem shardsAt_inside {world : World} {store : Store} {metadata : Metadata} {entry : Nat × Bytes}
    (member : entry ∈ world.shardsAt store metadata) : entry.1 < metadata.shardCount := by
  obtain ⟨index, listed, same⟩ := List.mem_map.mp (Indexed.mem_succeeded.mp member)
  rw [← congrArg Prod.fst same]
  exact List.mem_range.mp listed

variable {world later : World} (alike : Alike world later) (store : Store)
include alike

theorem Alike.metadataAt (uri : String) : later.metadataAt store uri = world.metadataAt store uri := by
  rw [World.metadataAt, alike.lookup]
  rfl

theorem Alike.shardsAt (metadata : Metadata) : later.shardsAt store metadata = world.shardsAt store metadata := by
  simp only [World.shardsAt, alike.lookup]

theorem Alike.commitmentsAt (uri : String) (shardCount : Nat) :
    later.commitmentsAt uri shardCount = world.commitmentsAt uri shardCount := by
  have fault : later.fault? .publishedData = world.fault? .publishedData := by
    unfold World.fault?
    rw [alike.faults]
  rw [World.commitmentsAt, fault, alike.published]
  rfl

end World

section

variable (order : World → (workers : Nat) → Order workers) (store : Store) (world : World)

theorem fetchMetadata_looked_up (uri : String) :
    ∃ later, Attempt.runIn (environment order) (store.fetchMetadata uri) world = (world.metadataAt store uri, later) ∧
      World.Alike world later := by
  have looked : ∃ later, Attempt.runIn (environment order) (store.retrieve uri) world =
      (world.lookup store.retrieveTimeout (store.target uri), later) ∧ World.Alike world later := by
    unfold Store.retrieve Store.target
    cases store.registry.backendForUri uri with
    | error err => exact ⟨world, rfl, .refl world⟩
    | ok protocol => exact ⟨_, rfl, world.alike_retrieve protocol uri store.retrieveTimeout⟩
  obtain ⟨later, ran, alike⟩ := looked
  refine ⟨later, ?_, alike⟩
  unfold Store.fetchMetadata
  rw [Attempt.runIn_bind, ran, World.metadataAt]
  cases world.lookup store.retrieveTimeout (store.target uri) <;> rfl

theorem fetchShards_looked_up_all (metadata : Metadata) :
    ∃ later, Attempt.runIn (environment order)
        (store.fetchShards metadata.shardUris (List.range metadata.shardCount) .tolerate) world =
          (.ok (world.shardsAt store metadata), later) ∧ World.Alike world later := by
  obtain ⟨collected, alike⟩ :=
    World.collect_retrieveAll order store.retrieveTimeout store.target metadata.shardUris world
  refine ⟨_, ?_, alike⟩
  rw [Metadata.shardCount, Store.fetchShards_tolerate, collected]
  rfl

end

def Audit.verdictIn (world : World) (store : Store) (task : Task) : Verdict :=
  match world.metadataAt store task.metadataUri with
  | .error err => .fraud (.metadataUnavailable err) ⟨task.shardCount, []⟩
  | .ok metadata =>
    match requirement task metadata with
    | .error reason => .fraud reason ⟨task.shardCount, []⟩
    | .ok required => judge task required (verified task (world.shardsAt store metadata))

theorem Audit.verdictIn_of_alike {world later : World} (alike : World.Alike world later) (store : Store) (task : Task) :
    verdictIn later store task = verdictIn world store task := by
  unfold verdictIn
  simp only [alike.metadataAt, alike.shardsAt]

theorem Audit.decide_looked_up (order : World → (workers : Nat) → Order workers) (store : Store) (task : Task)
    (world : World) :
    ∃ later, (decide store task).runIn (environment order) world = (verdictIn world store task, later) ∧
      World.Alike world later := by
  obtain ⟨listed, listing, alike⟩ := fetchMetadata_looked_up order store world task.metadataUri
  unfold verdictIn
  rw [decide_runIn, listing]
  cases world.metadataAt store task.metadataUri with
  | error err => exact ⟨listed, rfl, alike⟩
  | ok metadata =>
    simp only
    cases met : requirement task metadata with
    | error reason => exact ⟨listed, rfl, alike⟩
    | ok required =>
      have count : metadata.shardCount = task.shardCount := (requirement_eq_ok met).1.count
      obtain ⟨after, fetching, still⟩ := fetchShards_looked_up_all order store listed metadata
      simp only [← count, fetching, alike.shardsAt]
      exact ⟨after, rfl, alike.trans still⟩

theorem Audit.verdictIn_eq_valid {world : World} {store : Store} {task : Task} {evidence : Evidence}
    (valid : verdictIn world store task = .valid evidence) :
    ∃ metadata, world.metadataAt store task.metadataUri = .ok metadata ∧ task.Described metadata ∧
      evidence = ⟨task.shardCount, verified task (world.shardsAt store metadata)⟩ ∧
        task.shardCount - task.parityShardCount.toNat ≤ evidence.validShards.length := by
  unfold verdictIn at valid
  cases listing : world.metadataAt store task.metadataUri with
  | error err =>
    rw [listing] at valid
    cases valid
  | ok metadata =>
    rw [listing] at valid
    simp only at valid
    cases met : requirement task metadata with
    | error reason =>
      rw [met] at valid
      cases valid
    | ok required =>
      obtain ⟨described, rfl⟩ := requirement_eq_ok met
      rw [met] at valid
      simp only [judge] at valid
      split at valid
      · cases valid
      · rename_i enough
        cases valid
        exact ⟨metadata, rfl, described, rfl, not_lt.mp enough⟩

namespace Retrieve

def blobIn (world : World) (store : Store) (uri : String) : Except Error Bytes :=
  match world.metadataAt store uri with
  | .error err => .error (.storage err)
  | .ok metadata =>
    match metadata.dataShardCount? with
    | none => .error (.invalidMetadata metadata.shardCount metadata.parityShardCount.toNat)
    | some required =>
      rebuild metadata required
        (place (world.commitmentsAt uri metadata.shardCount) metadata.shardCount (world.shardsAt store metadata))

theorem blobIn_of_alike {world later : World} (alike : World.Alike world later) (store : Store) (uri : String) :
    blobIn later store uri = blobIn world store uri := by
  unfold blobIn
  simp only [alike.metadataAt, alike.commitmentsAt, alike.shardsAt]

variable (order : World → (workers : Nat) → Order workers)

theorem commitments_looked_up (uri : String) (shardCount : Nat) (world : World) :
    ∃ later, (commitments uri shardCount).runIn (environment order) world =
      (world.commitmentsAt uri shardCount, later) ∧ World.Alike world later := by
  refine ⟨(world.ask (.publishedData uri)).2, ?_, world.alike_ask_publishedData uri⟩
  have asked : (Program.ask (.publishedData uri)).runIn (environment order) world =
      world.ask (.publishedData uri) := rfl
  rw [commitments_runIn, asked, World.commitmentsAt]
  cases fault : world.fault? .publishedData with
  | some err =>
    have failed : world.ask (.publishedData uri) = (.error err, world) := World.ask_of_fault fault
    rw [failed]
  | none =>
    have served : world.ask (.publishedData uri) = _ := World.ask_of_served fault
    have answer : (world.ledger.answer (.publishedData uri)).1 = world.ledger.published.get? uri := rfl
    rw [served, answer]
    cases world.ledger.published.get? uri <;> rfl

theorem retrieve_looked_up (store : Store) (uri : String) (world : World) :
    ∃ later, Attempt.runIn (environment order) (retrieve store uri) world = (blobIn world store uri, later) ∧
      World.Alike world later := by
  obtain ⟨listed, listing, alike⟩ := fetchMetadata_looked_up order store world uri
  unfold blobIn
  rw [retrieve_runIn, listing]
  cases world.metadataAt store uri with
  | error err => exact ⟨listed, rfl, alike⟩
  | ok metadata =>
    simp only
    cases metadata.dataShardCount? with
    | none => exact ⟨listed, rfl, alike⟩
    | some required =>
      obtain ⟨asked, asking, same⟩ := commitments_looked_up order uri metadata.shardCount listed
      obtain ⟨after, fetching, still⟩ := fetchShards_looked_up_all order store asked metadata
      simp only [asking, fetching, alike.commitmentsAt, (alike.trans same).shardsAt]
      exact ⟨after, rfl, (alike.trans same).trans still⟩

end Retrieve

end Availability
