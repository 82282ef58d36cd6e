import Availability.Proofs.Erasure.Determined
import Availability.Proofs.Loss
import Availability.Proofs.Lookup
import Availability.Proofs.Publish.Filed

namespace Availability

open World (environment inOrder)

namespace Retrieve

structure Rebuilds (metadata : Metadata) (required : Nat) (entries : List (Nat × Bytes)) (blob : Bytes) : Prop where
  held : ∃ dataShards, Erasure.Determines metadata.shardCount required entries dataShards ∧
    metadata.recoveredDataSize.toNat ≤ dataShards.flatten.length ∧
      blob = dataShards.flatten.take metadata.recoveredDataSize.toNat
  hashed : recoveredDataHash blob = metadata.recoveredDataHash

structure Recovers (metadata : Metadata) (required : Nat) (entries : List (Nat × Bytes))
    (outcome : Except Error Bytes) : Prop where
  ok : ∀ blob, outcome = .ok blob ↔ Rebuilds metadata required entries blob
  error : ∀ err, outcome = .error err → err = .recoveredDataMismatch ∨ ∃ cause, err = .codec cause

section

variable {metadata : Metadata} {required : Nat} {shards : List (Option Bytes)}

theorem rebuild_eq_ok_iff (some_data : 0 < required) (enough : required ≤ (Erasure.present shards).length)
    (count : shards.length = metadata.shardCount) {blob : Bytes} :
    rebuild metadata required shards = .ok blob ↔ Rebuilds metadata required (Erasure.present shards) blob := by
  have decoded_iff : Erasure.decode shards required metadata.recoveredDataSize.toNat = .ok blob ↔ _ :=
    Erasure.decode_eq_ok_iff some_data enough
  rw [count] at decoded_iff
  constructor
  · intro rebuilt
    rw [rebuild_of_enough enough] at rebuilt
    cases decoded : Erasure.decode shards required metadata.recoveredDataSize.toNat with
    | error cause =>
      rw [decoded] at rebuilt
      cases rebuilt
    | ok found =>
      rw [decoded] at rebuilt
      simp only [Except.mapError, Except.bind] at rebuilt
      split at rebuilt
      · rename_i hashed
        cases rebuilt
        exact ⟨decoded_iff.mp decoded, hashed⟩
      · cases rebuilt
  · rintro ⟨held, hashed⟩
    exact rebuild_of_decoded enough (decoded_iff.mpr held) hashed

theorem rebuild_error {err : Error} (enough : required ≤ (Erasure.present shards).length)
    (failed : rebuild metadata required shards = .error err) :
    err = .recoveredDataMismatch ∨ ∃ cause, err = .codec cause := by
  rw [rebuild_of_enough enough] at failed
  cases decoded : Erasure.decode shards required metadata.recoveredDataSize.toNat with
  | error cause =>
    rw [decoded] at failed
    cases failed
    exact Or.inr ⟨cause, rfl⟩
  | ok blob =>
    rw [decoded] at failed
    simp only [Except.mapError, Except.bind] at failed
    split at failed
    · cases failed
    · cases failed
      exact Or.inl rfl

theorem recovers_rebuild (some_data : 0 < required) (enough : required ≤ (Erasure.present shards).length)
    (count : shards.length = metadata.shardCount) :
    Recovers metadata required (Erasure.present shards) (rebuild metadata required shards) where
  ok := fun _ => rebuild_eq_ok_iff some_data enough count
  error := fun _ => rebuild_error enough

end

def taskOf (uri : String) (record : Record) : Audit.Task :=
  ⟨uri, record.shardDoubleHashes, record.parityShardCount, record.dataSourceInfo⟩

section

variable {store : Store} {uri : String} {world : World} {record : Record} {evidence : Audit.Evidence}

/-- The shards that retrieval goes by: those that match their commitment, or all of them when the chain does not
tell the commitments. -/
def counted (world : World) (store : Store) (metadata : Metadata) (verified : List (Nat × Bytes)) :
    List (Nat × Bytes) :=
  if world.fault? .publishedData = none then verified else world.shardsAt store metadata

theorem counted_eq_filter (recorded : world.ledger.published.get? uri = some record) {metadata : Metadata}
    (count : metadata.shardCount = record.shardDoubleHashes.length) :
    counted world store metadata (Audit.verified (taskOf uri record) (world.shardsAt store metadata)) =
      (world.shardsAt store metadata).filter fun (index, shard) =>
        matchesCommitment (world.commitmentsAt uri metadata.shardCount) index shard := by
  unfold counted World.commitmentsAt
  cases fault : world.fault? .publishedData with
  | none =>
    rw [recorded]
    simp only [count, if_true]
    rfl
  | some err => simp [matchesCommitment]

theorem length_verified_le_counted (metadata : Metadata) (task : Audit.Task) :
    (Audit.verified task (world.shardsAt store metadata)).length ≤
      (counted world store metadata (Audit.verified task (world.shardsAt store metadata))).length := by
  unfold counted
  split
  · exact Nat.le_refl _
  · exact List.length_filter_le _ _

theorem blobIn_of_valid (recorded : world.ledger.published.get? uri = some record)
    (valid : Audit.verdictIn world store (taskOf uri record) = .valid evidence) :
    ∃ metadata required, world.metadataAt store uri = .ok metadata ∧ metadata.dataShardCount? = some required ∧
      Recovers metadata required (counted world store metadata evidence.validShards) (blobIn world store uri) := by
  obtain ⟨metadata, listing, described, rfl, enough⟩ := Audit.verdictIn_eq_valid valid
  have layout : record.parityShardCount.toNat < record.shardDoubleHashes.length := described.layout
  have count : metadata.shardCount = record.shardDoubleHashes.length := described.count
  have parity : metadata.parityShardCount = record.parityShardCount := described.parity
  have required : metadata.dataShardCount? =
      some (record.shardDoubleHashes.length - record.parityShardCount.toNat) := by
    unfold Metadata.dataShardCount? dataShardCount?
    rw [count, parity, if_pos layout]
  refine ⟨metadata, _, listing, required, ?_⟩
  have usable := present_place (world.commitmentsAt uri metadata.shardCount) (world.shardsAt_ascending store metadata)
    fun entry => World.shardsAt_inside
  have rebuilt : blobIn world store uri = rebuild metadata (record.shardDoubleHashes.length -
      record.parityShardCount.toNat) (place (world.commitmentsAt uri metadata.shardCount) metadata.shardCount
        (world.shardsAt store metadata)) := by
    have listed : world.metadataAt store uri = .ok metadata := listing
    unfold blobIn
    simp only [listed, required]
  rw [rebuilt, counted_eq_filter recorded count, ← usable]
  refine recovers_rebuild (by omega) ?_ (length_place _ _ _)
  rw [usable, ← counted_eq_filter recorded count]
  exact enough.trans (length_verified_le_counted metadata _)

end

/-- After a valid verdict on the commitments of a record, its metadata and enough of its shards are found, and
whether a blob comes back depends on nothing but whether those shards and the metadata fit together. -/
theorem retrieve_of_valid {order : World → (workers : Nat) → Order workers} {store : Store} {uri : String}
    {world : World} {record : Record} {evidence : Audit.Evidence}
    (recorded : world.ledger.published.get? uri = some record)
    (valid : ((Audit.decide store (taskOf uri record)).runIn (environment order) world).1 = .valid evidence) :
    ∃ metadata required, world.metadataAt store uri = .ok metadata ∧ metadata.dataShardCount? = some required ∧
      ∀ order : World → (workers : Nat) → Order workers,
        Recovers metadata required (counted world store metadata evidence.validShards)
          (Attempt.runIn (environment order) (retrieve store uri) world).1 := by
  obtain ⟨_, decided, -⟩ := Audit.decide_looked_up order store (taskOf uri record) world
  rw [decided] at valid
  obtain ⟨metadata, required, listing, count, recovers⟩ := blobIn_of_valid recorded valid
  refine ⟨metadata, required, listing, count, fun order => ?_⟩
  obtain ⟨_, retrieved, -⟩ := retrieve_looked_up order store uri world
  rw [retrieved]
  exact recovers

def sole (size : UInt64) : Metadata := ⟨1, 0, recoveredDataHash [7], size, [Protocol.ipfs.uriFor "shard"]⟩

def soleRecord : Record := ⟨Protocol.ipfs.uriFor "metadata", [doubleHash [7]], 0, "", .voteExtensionPassed⟩

def soleWorld (metadata : Bytes) : World :=
  { World.blank with
    ledger := { params := ⟨1, 8, 1024⟩, published := [(soleRecord.metadataUri, soleRecord)] }
    ipfs :=
      { protocol := .ipfs, objects := [(soleRecord.metadataUri, metadata), (Protocol.ipfs.uriFor "shard", [7])] } }

theorem exists_sole (size : UInt64) : ∃ bytes,
    (soleWorld bytes).metadataAt { registry := [.ipfs] } soleRecord.metadataUri = .ok (sole size) ∧
      (soleWorld bytes).shardsAt { registry := [.ipfs] } (sole size) = [(0, [7])] := by
  have single : (sole size).shardUris.length ≤ Erasure.maxTotalShards := show 1 ≤ 256 by decide
  have short : ∀ uri ∈ (sole size).shardUris, uri.length ≤ 43 := by
    intro uri member
    cases List.mem_singleton.mp member
    decide
  obtain ⟨bytes, written⟩ := Metadata.toBytes_of_short single short
  have proper : (soleWorld bytes).Proper := by
    intro protocol
    cases protocol <;> rfl
  have known : Protocol.ipfs ∈ ({ registry := [.ipfs] } : Store).registry := List.mem_singleton_self _
  have looked (id : String) (filled : id ≠ "") :=
    (lookup_target known proper (Nat.zero_le _) ⟨id, filled, rfl⟩).2
  have described : (soleWorld bytes).object? .ipfs (Protocol.ipfs.uriFor "metadata") = some bytes := rfl
  have held : (soleWorld bytes).object? .ipfs (Protocol.ipfs.uriFor "shard") = some [7] := rfl
  refine ⟨bytes, ?_, ?_⟩
  · rw [World.metadataAt, soleRecord, looked "metadata" (by decide), described]
    simp only [Except.bind, Metadata.ofBytes_of_toBytes written]
    rfl
  · have found := looked "shard" (by decide)
    rw [held] at found
    simp only [World.shardsAt, Metadata.shardCount, sole, List.length_singleton, List.range_one, List.map_cons,
      List.map_nil, List.getD_cons_zero, found]
    rfl

theorem decide_sole (order : World → (workers : Nat) → Order workers) {size : UInt64} {bytes : Bytes}
    (listed : (soleWorld bytes).metadataAt { registry := [.ipfs] } soleRecord.metadataUri = .ok (sole size))
    (found : (soleWorld bytes).shardsAt { registry := [.ipfs] } (sole size) = [(0, [7])]) :
    ((Audit.decide { registry := [.ipfs] } (taskOf soleRecord.metadataUri soleRecord)).runIn (environment order)
      (soleWorld bytes)).1 = .valid ⟨1, [(0, [7])]⟩ := by
  obtain ⟨_, decided, -⟩ := Audit.decide_looked_up order { registry := [.ipfs] }
    (taskOf soleRecord.metadataUri soleRecord) (soleWorld bytes)
  have required : Audit.requirement (taskOf soleRecord.metadataUri soleRecord) (sole size) = .ok 1 := rfl
  have matching : Audit.verified (taskOf soleRecord.metadataUri soleRecord) [(0, [7])] = [(0, [7])] := by
    simp [Audit.verified, taskOf, soleRecord]
  have named : (taskOf soleRecord.metadataUri soleRecord).metadataUri = soleRecord.metadataUri := rfl
  rw [decided]
  unfold Audit.verdictIn
  rw [named, listed]
  simp only [required, found, matching]
  rfl

theorem not_rebuilds_sole {blob : Bytes} : ¬ Rebuilds (sole 5) 1 [(0, [7])] blob := by
  rintro ⟨⟨dataShards, determined, fits, -⟩, -⟩
  cases determined with
  | plain _ => exact absurd fits (by decide)
  | coded redundant => exact absurd redundant (by decide)

theorem rebuilds_sole : Rebuilds (sole 1) 1 [(0, [7])] [7] :=
  ⟨⟨_, .plain rfl, by decide, rfl⟩, rfl⟩

/-- A forged data shard is left out by the verdict and by the retrieval, and the blob is rebuilt from the others. -/
theorem retrieve_of_valid_beside_forged : ∃ published before forged metadata record evidence,
    let world := before.forged (metadata.shardUris.getD 0 "") forged
    Attempt.runIn (environment inOrder) (Publish.publish { store := { registry := [.ipfs] }, sender := "alice" }
        [1, 2, 3] 2 1 "ipfs") .blank = (.ok published, before) ∧
      world.ledger.published.get? published.metadataUri = some record ∧
      record.shardDoubleHashes[0]? ≠ some (doubleHash forged) ∧
      ((Audit.decide { registry := [.ipfs] } (taskOf published.metadataUri record)).runIn (environment inOrder)
        world).1 = .valid evidence ∧ evidence.validShards.map (·.1) = [1, 2] ∧
      Rebuilds metadata 2 evidence.validShards [1, 2, 3] ∧
      (Attempt.runIn (environment inOrder) (retrieve { registry := [.ipfs] } published.metadataUri) world).1 =
        .ok [1, 2, 3] := by
  obtain ⟨published, filing, forged, before, ran, named, codes, filed, loss, held, differs⟩ := Publish.exists_forged
  have proper : before.Proper := Publish.proper_of_publish (World.hinders_environment inOrder) World.proper_blank ran
  have standing := filed.standing proper codes
  obtain ⟨status, recorded⟩ := filed.recorded
  rw [← loss.recorded] at recorded
  let record := filing.publication.record status
  let evidence : Audit.Evidence := ⟨3, [1, 2].map fun index => (index, filing.shards.getD index [])⟩
  let task := taskOf filing.publication.metadataUri record
  have count : task.shardCount = 3 := codes.doubleHashCount
  have parity : task.parityShardCount = 1 := codes.parity.2
  have described : task.Described filing.metadata :=
    ⟨by rw [count, parity]; decide, codes.shardCount.trans count.symm, codes.parity.1.trans parity.symm⟩
  have valid := Loss.decide_after inOrder standing loss task rfl codes.committed described
  rw [held, Audit.judge, List.length_map, count, parity, if_neg (by decide)] at valid
  obtain ⟨metadata, required, listing, two, recovers⟩ := retrieve_of_valid recorded valid
  cases (Loss.metadataAt_after standing loss).symm.trans listing
  have needed : filing.metadata.dataShardCount? = some 2 := by
    rw [Metadata.dataShardCount?, dataShardCount?, codes.shardCount, codes.parity.1]
    rfl
  cases needed.symm.trans two
  obtain ⟨_, looked, -⟩ := retrieve_looked_up inOrder { registry := [.ipfs] } filing.publication.metadataUri
    (before.forged (filing.metadata.shardUris.getD 0 "") forged)
  have whole := filed.retrieved proper codes ⟨loss, held ▸ (by decide : 2 ≤ [1, 2].length)⟩
  have retrieved := (congrArg Prod.fst looked).trans whole
  have rebuilds := ((recovers inOrder).ok _).mp retrieved
  rw [counted, if_pos loss.answered] at rebuilds
  refine ⟨published, before, forged, filing.metadata, record, evidence, ran, ?_⟩
  rw [← named]
  exact ⟨recorded, differs, valid, rfl, rebuilds, retrieved⟩

/-- The metadata may claim a blob that no verified shards hold. -/
theorem not_retrieve_of_valid : ¬ ∀ (order : World → (workers : Nat) → Order workers) (store : Store) (uri : String)
    (world : World) (record : Record) (evidence : Audit.Evidence),
    world.ledger.published.get? uri = some record → world.faults = [] →
      ((Audit.decide store (taskOf uri record)).runIn (environment order) world).1 = .valid evidence →
        ∃ blob, (Attempt.runIn (environment order) (retrieve store uri) world).1 = .ok blob := by
  intro claim
  obtain ⟨bytes, listed, found⟩ := exists_sole 5
  have valid := decide_sole inOrder listed found
  obtain ⟨blob, retrieved⟩ := claim inOrder _ _ (soleWorld bytes) soleRecord _ rfl rfl valid
  obtain ⟨_, decided, -⟩ := Audit.decide_looked_up inOrder { registry := [.ipfs] }
    (taskOf soleRecord.metadataUri soleRecord) (soleWorld bytes)
  rw [decided] at valid
  have recorded : (soleWorld bytes).ledger.published.get? soleRecord.metadataUri = some soleRecord := rfl
  obtain ⟨metadata, required, listing, count, recovers⟩ := blobIn_of_valid recorded valid
  cases listed.symm.trans listing
  have one : required = 1 := (Option.some.inj count).symm
  obtain ⟨_, looked, -⟩ := retrieve_looked_up inOrder { registry := [.ipfs] } soleRecord.metadataUri (soleWorld bytes)
  rw [looked] at retrieved
  have rebuilt := (recovers.ok blob).mp retrieved
  rw [one] at rebuilt
  exact not_rebuilds_sole rebuilt

end Retrieve

end Availability
