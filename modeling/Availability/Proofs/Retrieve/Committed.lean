import Availability.Proofs.Retrieve.Settled

namespace Availability

theorem World.metadataAt_ledger (world : World) (ledger : Chain.Ledger) (store : Store) (uri : String) :
    World.metadataAt { world with ledger } store uri = world.metadataAt store uri := rfl

theorem World.shardsAt_ledger (world : World) (ledger : Chain.Ledger) (store : Store) (metadata : Metadata) :
    World.shardsAt { world with ledger } store metadata = world.shardsAt store metadata := rfl

namespace Retrieve

open World (environment inOrder)
open Audit (Fetches)

/-- What a blob is decoded from when the chain tells a record. Commitments bind it only if they are as many as the
metadata lists shards; else every shard that was fetched is used. -/
structure Bound (record : Record) (metadata : Metadata) (fetches : Fetches) (entries : List (Nat × Bytes))
    (blob : Bytes) : Prop where
  ascending : entries.Pairwise (·.1 < ·.1)
  fetched : ∀ index shard, (index, shard) ∈ entries → (index, .ok shard) ∈ fetches
  committed : record.shardDoubleHashes.length = metadata.shardUris.length → ∀ index shard, (index, shard) ∈ entries →
    record.shardDoubleHashes[index]? = some (doubleHash shard)
  unbound : record.shardDoubleHashes.length ≠ metadata.shardUris.length → ∀ index shard,
    (index, .ok shard) ∈ fetches → (index, shard) ∈ entries
  enough : metadata.shardUris.length - metadata.parityShardCount.toNat ≤ entries.length
  rebuilt : Rebuilds metadata (metadata.shardUris.length - metadata.parityShardCount.toNat) entries blob

theorem Placed.bound {record : Record} {metadata : Metadata} {fetches : Fetches} {shards : List (Option Bytes)}
    {blob : Bytes} (placed : Placed (.ok (some record)) metadata fetches shards)
    (enough : metadata.shardUris.length - metadata.parityShardCount.toNat ≤ (Erasure.present shards).length)
    (rebuilt : Rebuilds metadata (metadata.shardUris.length - metadata.parityShardCount.toNat)
      (Erasure.present shards) blob) :
    Bound record metadata fetches (Erasure.present shards) blob where
  ascending := Erasure.present_ascending shards
  fetched index shard member := (placed.mem_present.mp member).1
  committed count index shard member := (placed.mem_present.mp member).2 record rfl count
  unbound count index shard fetched := by
    refine placed.mem_present.mpr ⟨fetched, fun other told same => ?_⟩
    cases told
    exact absurd same count
  enough := enough
  rebuilt := rebuilt

theorem Settled.rebuilds {listing : Except Storage.Error Metadata} {told : Except Chain.Error (Option Record)}
    {fetches : Metadata → Fetches} {blob : Bytes} (settled : Settled listing told fetches (.ok blob)) :
    ∃ metadata shards, listing = .ok metadata ∧ metadata.parityShardCount.toNat < metadata.shardUris.length ∧
      Placed told metadata (fetches metadata) shards ∧
      metadata.shardUris.length - metadata.parityShardCount.toNat ≤ (Erasure.present shards).length ∧
      Rebuilds metadata (metadata.shardUris.length - metadata.parityShardCount.toNat)
        (Erasure.present shards) blob := by
  cases listing with
  | error err => cases (settled.storage err).mpr rfl
  | ok metadata =>
    have valid : metadata.parityShardCount.toNat < metadata.shardUris.length := by
      by_contra invalid
      cases (settled.invalidMetadata metadata rfl).mp (not_lt.mp invalid)
    have enough : metadata.shardUris.length - metadata.parityShardCount.toNat ≤
        (usable told metadata (fetches metadata)).card := by
      by_contra few
      cases (settled.insufficientShards metadata rfl valid).mp (not_le.mp few)
    obtain ⟨shards, placed, outcome⟩ := settled.decoded metadata rfl valid enough
    rw [← placed.length_present] at enough
    rw [← rebuild_of_enough enough] at outcome
    exact ⟨metadata, shards, rfl, valid, placed, enough,
      (rebuild_eq_ok_iff (Nat.sub_pos_of_lt valid) enough placed.length).mp outcome.symm⟩

/-- A blob that is retrieved while the chain tells a record was decoded from fetched shards, as many as there are
data shards or more, all of which match their commitments if there are as many of those as of uris. -/
theorem retrieve_bound {σ : Type} {env : Environment σ} {store : Store} {uri : String} {state : σ} {record : Record}
    {blob : Bytes} (told : (toldAfter env store uri state).1 = .ok (some record))
    (retrieved : (Attempt.runIn env (retrieve store uri) state).1 = .ok blob) :
    ∃ metadata entries, (Attempt.runIn env (store.fetchMetadata uri) state).1 = .ok metadata ∧
      metadata.parityShardCount.toNat < metadata.shardUris.length ∧
      Bound record metadata (fetchesAfter env store uri state metadata) entries blob := by
  have settled := settled_runIn env store uri state
  rw [told, retrieved] at settled
  obtain ⟨metadata, shards, listed, valid, placed, enough, rebuilt⟩ := settled.rebuilds
  exact ⟨metadata, _, listed, valid, placed.bound enough rebuilt⟩

theorem toldAfter_served (order : World → (workers : Nat) → Order workers) (store : Store) (uri : String)
    {world : World} (served : world.fault? .publishedData = none) :
    (toldAfter (environment order) store uri world).1 = .ok (world.ledger.published.get? uri) := by
  obtain ⟨listed, listing, alike⟩ := fetchMetadata_looked_up order store world uri
  have still : listed.fault? .publishedData = none := by
    rw [← served, World.fault?, alike.faults]
    rfl
  rw [toldAfter, listing]
  change (listed.ask (.publishedData uri)).1 = _
  rw [World.ask_of_served still, ← alike.published]
  rfl

theorem blobIn_of_sole {world : World} {store : Store}
    (listed : world.metadataAt store soleRecord.metadataUri = .ok (sole 1))
    (found : world.shardsAt store (sole 1) = [(0, [7])])
    (placed : place (world.commitmentsAt soleRecord.metadataUri 1) 1 [(0, [7])] = [some [7]]) :
    blobIn world store soleRecord.metadataUri = .ok [7] := by
  have required : (sole 1).dataShardCount? = some 1 := rfl
  have count : (sole 1).shardCount = 1 := rfl
  unfold blobIn
  rw [listed]
  simp only [required, count, found, placed]
  exact (rebuild_eq_ok_iff (by decide) (by decide) rfl).mpr rebuilds_sole

/-- A forged data shard is fetched, and the blob is decoded from two others that match their commitments. -/
theorem retrieve_bound_beside_forged : ∃ published before forged metadata record entries,
    let world := before.forged (metadata.shardUris.getD 0 "") forged
    let fetches := fetchesAfter (environment inOrder) { registry := [.ipfs] } published.metadataUri world metadata
    Attempt.runIn (environment inOrder) (Publish.publish { store := { registry := [.ipfs] }, sender := "alice" }
        [1, 2, 3] 2 1 "ipfs") .blank = (.ok published, before) ∧
      (toldAfter (environment inOrder) { registry := [.ipfs] } published.metadataUri world).1 = .ok (some record) ∧
      world.object? .ipfs (metadata.shardUris.getD 0 "") = some forged ∧
      Bound record metadata fetches entries [1, 2, 3] ∧ (0, forged) ∉ entries ∧ 2 ≤ entries.length := by
  obtain ⟨published, filing, forged, before, ran, named, codes, filed, loss, held, differs⟩ := Publish.exists_forged
  have proper : before.Proper := Publish.proper_of_publish (World.hinders_environment inOrder) World.proper_blank ran
  obtain ⟨status, recorded⟩ := filed.recorded
  let record := filing.publication.record status
  let world := before.forged (filing.metadata.shardUris.getD 0 "") forged
  have told := toldAfter_served inOrder { registry := [.ipfs] } filing.publication.metadataUri loss.answered
  rw [loss.recorded, recorded] at told
  obtain ⟨_, looked, -⟩ := retrieve_looked_up inOrder { registry := [.ipfs] } filing.publication.metadataUri world
  have whole := filed.retrieved proper codes ⟨loss, held ▸ (by decide : 2 ≤ [1, 2].length)⟩
  obtain ⟨metadata, entries, listed, -, bound⟩ := retrieve_bound told ((congrArg Prod.fst looked).trans whole)
  obtain ⟨_, listing, -⟩ :=
    fetchMetadata_looked_up inOrder { registry := [.ipfs] } world filing.publication.metadataUri
  rw [listing, Loss.metadataAt_after (filed.standing proper codes) loss] at listed
  cases listed
  have count : record.shardDoubleHashes.length = filing.metadata.shardUris.length :=
    codes.doubleHashCount.trans codes.shardCount.symm
  have enough := bound.enough
  have shardCount : filing.metadata.shardUris.length = 3 := codes.shardCount
  rw [shardCount, codes.parity.1] at enough
  refine ⟨published, before, forged, filing.metadata, record, entries, ran, ?_⟩
  rw [← named]
  exact ⟨told, Table.get?_put_self _ _ _, bound, fun member => differs (bound.committed count 0 forged member), enough⟩

def exchangedRecord : Record := { soleRecord with shardDoubleHashes := [doubleHash [8], doubleHash [9]] }

def exchangedWorld (metadata : Bytes) : World :=
  { soleWorld metadata with
    ledger := { params := ⟨1, 8, 1024⟩, published := [(soleRecord.metadataUri, exchangedRecord)] } }

theorem not_retrieve_bound : ¬ ∀ (order : World → (workers : Nat) → Order workers) (store : Store) (uri : String)
    (world : World) (record : Record) (blob : Bytes),
    world.ledger.published.get? uri = some record → world.faults = [] →
      (Attempt.runIn (environment order) (retrieve store uri) world).1 = .ok blob →
        ∃ metadata required entries, world.metadataAt store uri = .ok metadata ∧
          metadata.dataShardCount? = some required ∧ required ≤ entries.length ∧
          (∀ entry ∈ entries, entry ∈ world.shardsAt store metadata ∧
            record.shardDoubleHashes[entry.1]? = some (doubleHash entry.2)) ∧
          Rebuilds metadata required entries blob := by
  intro claim
  obtain ⟨bytes, listed, found⟩ := exists_sole 1
  have listedHere : (exchangedWorld bytes).metadataAt { registry := [.ipfs] } soleRecord.metadataUri = .ok (sole 1) :=
    ((soleWorld bytes).metadataAt_ledger _ _ _).trans listed
  have foundHere : (exchangedWorld bytes).shardsAt { registry := [.ipfs] } (sole 1) = [(0, [7])] :=
    ((soleWorld bytes).shardsAt_ledger _ _ _).trans found
  have whole : blobIn (exchangedWorld bytes) { registry := [.ipfs] } soleRecord.metadataUri = .ok [7] :=
    blobIn_of_sole listedHere foundHere rfl
  obtain ⟨_, retrieved, -⟩ :=
    retrieve_looked_up inOrder { registry := [.ipfs] } soleRecord.metadataUri (exchangedWorld bytes)
  obtain ⟨metadata, required, entries, listing, count, enough, matching, -⟩ :=
    claim inOrder _ _ (exchangedWorld bytes) exchangedRecord [7] rfl rfl (by rw [retrieved, whole])
  cases listedHere.symm.trans listing
  have one : required = 1 := (Option.some.inj count).symm
  obtain ⟨entry, rest, rfl⟩ := List.exists_cons_of_length_pos (show 0 < entries.length by omega)
  obtain ⟨member, committed⟩ := matching entry List.mem_cons_self
  rw [foundHere, List.mem_singleton] at member
  subst member
  have same : doubleHash [8] = doubleHash [7] := Option.some.inj committed
  exact absurd same (by decide +kernel)

end Retrieve

end Availability
