import Availability.Proofs.Audit.Pledge
import Availability.Proofs.Loss
import Availability.Proofs.Publish.Anchored

namespace Availability

open World (environment inOrder)

namespace Publish

structure Filing where
  metadata : Metadata
  shards : List Bytes
  publication : Publication

structure Filing.Codes (filing : Filing) (dataShardCount parityShardCount : UInt64) (blob : Bytes) : Prop where
  positive : 0 < dataShardCount.toNat
  few : dataShardCount.toNat + parityShardCount.toNat ≤ Erasure.maxTotalShards
  coded : ∃ shardSize,
    Erasure.encode blob dataShardCount.toNat parityShardCount.toNat = .ok ⟨shardSize, filing.shards⟩
  size : filing.metadata.recoveredDataSize.toNat = blob.length
  hash : filing.metadata.recoveredDataHash = recoveredDataHash blob
  parity : filing.metadata.parityShardCount = parityShardCount ∧ filing.publication.parityShardCount = parityShardCount
  committed : filing.publication.shardDoubleHashes = filing.shards.map doubleHash
  listed : filing.metadata.shardUris.length = filing.shards.length

/-- The network holds metadata and shards under uris of its own, and the chain has the record. -/
structure Filed (world : World) (protocol : Protocol) (filing : Filing) : Prop where
  described : ∃ bytes, (world.memory protocol).Holds filing.publication.metadataUri bytes ∧
    Metadata.ofBytes bytes = .ok filing.metadata
  held : ∀ (index : Nat) (uri : String), filing.metadata.shardUris[index]? = some uri →
    ∃ shard, filing.shards[index]? = some shard ∧ (world.memory protocol).Holds uri shard
  recorded : ∃ status, world.ledger.published.get? filing.publication.metadataUri =
    some (filing.publication.record status)

/-- Readers of a later world find all of a filing but for some shards, which are gone or replaced, and enough shards. -/
structure Filing.Survives (filing : Filing) (reader : Store) (protocol : Protocol) (dataShardCount : Nat)
    (before after : World) : Prop where
  loss : Loss reader protocol filing.publication.metadataUri filing.metadata before after
  enough : dataShardCount ≤ (intact protocol filing.metadata before after).length

def Filing.Fresh (filing : Filing) (world : World) (protocol : Protocol) : Prop :=
  ∀ uri ∈ filing.publication.metadataUri :: filing.metadata.shardUris, ∀ object,
    ¬(world.memory protocol).Holds uri object

structure Taken (before after : Chain.Ledger) (publication : Publication) : Prop where
  broadcasts : after.broadcasts = before.broadcasts.push (.publishData publication)
  published : ∃ status,
    after.published = before.published.put publication.metadataUri (publication.record status)

section

variable {protocol : Protocol} {filing : Filing} {before after later : World} {dataShardCount parityShardCount : UInt64}
  {blob : Bytes}

theorem Filing.Codes.shardCount (codes : filing.Codes dataShardCount parityShardCount blob) :
    filing.metadata.shardCount = dataShardCount.toNat + parityShardCount.toNat := by
  obtain ⟨shardSize, coded⟩ := codes.coded
  exact codes.listed.trans (Erasure.length_shards codes.positive codes.few coded)

theorem Filing.Codes.doubleHashCount (codes : filing.Codes dataShardCount parityShardCount blob) :
    filing.publication.shardDoubleHashes.length = dataShardCount.toNat + parityShardCount.toNat := by
  rw [codes.committed, List.length_map, ← codes.listed]
  exact codes.shardCount

theorem Filed.mono (filed : Filed before protocol filing) (keeps : (before.memory protocol).Keeps (after.memory protocol))
    (recorded : after.ledger.published.get? filing.publication.metadataUri =
      before.ledger.published.get? filing.publication.metadataUri) : Filed after protocol filing where
  described := by
    obtain ⟨bytes, holds, read⟩ := filed.described
    exact ⟨bytes, keeps.held _ _ holds, read⟩
  held index uri listed := by
    obtain ⟨shard, placed, holds⟩ := filed.held index uri listed
    exact ⟨shard, placed, keeps.held _ _ holds⟩
  recorded := recorded ▸ filed.recorded

theorem Filed.standing (filed : Filed before protocol filing) (proper : before.Proper)
    (codes : filing.Codes dataShardCount parityShardCount blob) :
    Standing before protocol filing.metadata filing.shards filing.publication where
  listed := codes.listed
  owned uri member := by
    have owner {object : Bytes} (holds : (before.memory protocol).Holds uri object) :
        ∃ id, id ≠ "" ∧ uri = protocol.uriFor id := proper protocol ▸ holds.uriFor
    rcases List.mem_cons.mp member with rfl | member
    · obtain ⟨bytes, holds, -⟩ := filed.described
      exact owner holds
    · obtain ⟨index, found⟩ := List.mem_iff_getElem?.mp member
      obtain ⟨shard, -, holds⟩ := filed.held index uri found
      exact owner holds
  described := by
    obtain ⟨bytes, holds, read⟩ := filed.described
    exact ⟨bytes, holds.found, read⟩
  stored := by
    intro index uri shard listed placed
    obtain ⟨other, here, holds⟩ := filed.held index uri listed
    rw [World.object?, holds.found, ← here, placed]
  recorded := by
    obtain ⟨status, found⟩ := filed.recorded
    exact ⟨_, found, rfl⟩

theorem Filed.metadata_eq {other : Filing} (filed : Filed before protocol filing) (also : Filed before protocol other)
    (same : filing.publication.metadataUri = other.publication.metadataUri) : filing.metadata = other.metadata := by
  obtain ⟨bytes, holds, read⟩ := filed.described
  obtain ⟨content, held, described⟩ := also.described
  rw [same] at holds
  cases holds.found.symm.trans held.found
  exact Except.ok.inj (read.symm.trans described)

theorem Filed.survives_congr {other : Filing} (filed : Filed before protocol filing) (also : Filed before protocol other)
    (same : filing.publication.metadataUri = other.publication.metadataUri) {reader : Store} {enough : Nat}
    (survives : filing.Survives reader protocol enough before later) :
    other.Survives reader protocol enough before later := by
  obtain ⟨loss, intact⟩ := survives
  rw [filed.metadata_eq also same] at loss intact
  exact ⟨same ▸ loss, intact⟩

theorem Filed.retrieved (filed : Filed before protocol filing) (proper : before.Proper)
    (codes : filing.Codes dataShardCount parityShardCount blob) {reader : Store}
    (survives : filing.Survives reader protocol dataShardCount.toNat before later) :
    Retrieve.blobIn later reader filing.publication.metadataUri = .ok blob := by
  obtain ⟨shardSize, coded⟩ := codes.coded
  have counted := Loss.retrieve_after inOrder (filed.standing proper codes) survives.loss codes.positive codes.few coded
    (congrArg UInt64.toNat codes.parity.1) codes.size codes.hash.symm codes.committed
  obtain ⟨_, looked, -⟩ := Retrieve.retrieve_looked_up inOrder reader filing.publication.metadataUri later
  rwa [if_neg (not_lt.mpr survives.enough), looked] at counted

end

section

variable {σ : Type} {env : Environment σ} {view : σ → World} {publisher : Publisher} {blob : Bytes}
  {dataShardCount parityShardCount : UInt64} {tag : String} {state after : σ}

theorem filed_of_publish (hinders : env.Hinders view) (addressable : blob.length < UInt64.size) {published : Published}
    (ran : Attempt.runIn env (publish publisher blob dataShardCount parityShardCount tag) state =
      (.ok published, after)) :
    ∃ protocol filing, Storage.protocolOfTag tag = .ok protocol ∧
      filing.publication.metadataUri = published.metadataUri ∧ filing.Codes dataShardCount parityShardCount blob ∧
      Filed (view after) protocol filing ∧ filing.Fresh (view state) protocol ∧
      Taken (view state).ledger (view after).ledger filing.publication := by
  obtain ⟨protocol, encoded, shardUris, heard, kept, between, prepared, -, world, quiet, members, announced⟩ :=
    announced_of_ok hinders ran
  obtain ⟨positive, total⟩ := prepared.total
  obtain ⟨described, held⟩ := prepared.holds world members
  obtain ⟨calls, ledger⟩ := World.unmoved_of_plays world quiet
  obtain ⟨-, same⟩ := World.ask_eq_ok announced
  let filing : Filing := {
    metadata := metadataFor blob parityShardCount encoded shardUris
    shards := encoded.shards
    publication := publicationFor publisher parityShardCount encoded published.metadataUri }
  refine ⟨protocol, filing, prepared.tagged, rfl, ?codes, ?filed, ?fresh, ?taken⟩
  case codes =>
    exact ⟨positive, prepared.few, ⟨encoded.shardSize, prepared.coded⟩, UInt64.toNat_ofNat_of_lt addressable, rfl,
      ⟨rfl, rfl⟩, rfl, prepared.listed⟩
  case filed =>
    rw [same]
    refine ⟨?_, ?_, _, Table.get?_put_self _ _ _⟩
    · rwa [World.memory_ledger]
    · rwa [World.memory_ledger]
  case fresh =>
    have stored : ∀ uri ∈ published.metadataUri :: shardUris, ∃ object, ⟨.store protocol object, .ok uri⟩ ∈ heard := by
      refine List.forall_mem_cons.mpr ⟨?_, fun uri member => ?_⟩
      · obtain ⟨bytes, told, -⟩ := prepared.described
        exact ⟨bytes, told⟩
      · obtain ⟨index, listed⟩ := List.mem_iff_getElem?.mp member
        obtain ⟨shard, -, told⟩ := prepared.held index uri listed
        exact ⟨shard, told⟩
    intro uri member object holds
    obtain ⟨other, told⟩ := stored uri member
    exact World.ne_of_plays world holds (members _ told rfl) rfl
  case taken =>
    rw [same]
    constructor
    · change (Chain.Ledger.broadcast _ _).2.broadcasts = _
      rw [Chain.Ledger.broadcasts_broadcast, ledger]
    · refine ⟨between.ledger.statusOnPublish, ?_⟩
      change between.ledger.published.put _ _ = _
      rw [ledger]
      rfl

theorem unmoved_of_publish (hinders : env.Hinders view) {err : Error}
    (ran : Attempt.runIn env (publish publisher blob dataShardCount parityShardCount tag) state = (.error err, after)) :
    (view state).ledger.Unmoved (view after).ledger := by
  obtain ⟨kept, world, quiet⟩ := quiet_of_error hinders ran
  exact World.unmoved_of_plays world quiet

theorem proper_of_publish (hinders : env.Hinders view) (proper : (view state).Proper) {result : Except Error Published}
    (ran : Attempt.runIn env (publish publisher blob dataShardCount parityShardCount tag) state = (result, after)) :
    (view after).Proper := by
  have plays := Plays.runIn env (publish publisher blob dataShardCount parityShardCount tag).run state
  rw [Attempt.run_runIn, ran] at plays
  obtain ⟨kept, world, -, -⟩ := hinders.plays plays
  exact World.proper_of_plays world proper

/-- Whatever was filed on a network stays filed when something else is published there, or fails to be. -/
theorem Filed.publish (hinders : env.Hinders view) {protocol : Protocol} {filing : Filing}
    (filed : Filed (view state) protocol filing) (tagged : Storage.protocolOfTag tag = .ok protocol)
    {result : Except Error Published}
    (ran : Attempt.runIn env (publish publisher blob dataShardCount parityShardCount tag) state = (result, after)) :
    Filed (view after) protocol filing := by
  cases result with
  | error err =>
    obtain ⟨kept, world, quiet⟩ := quiet_of_error hinders ran
    obtain ⟨calls, ledger⟩ := World.unmoved_of_plays world quiet
    exact filed.mono (World.keeps_of_plays world protocol) (by rw [ledger])
  | ok published =>
    obtain ⟨network, encoded, shardUris, heard, kept, between, prepared, -, world, quiet, members, announced⟩ :=
      announced_of_ok hinders ran
    cases prepared.tagged.symm.trans tagged
    obtain ⟨calls, ledger⟩ := World.unmoved_of_plays world quiet
    obtain ⟨-, same⟩ := World.ask_eq_ok announced
    -- The new record is at a uri that the network had not given before.
    obtain ⟨_, here, -⟩ := filed.described
    obtain ⟨_, described, -⟩ := prepared.described
    have apart := World.ne_of_plays world here (members _ described rfl)
    refine filed.mono ?_ ?_
    · rw [same, World.memory_ledger]
      exact World.keeps_of_plays world protocol
    · rw [same]
      refine (Table.get?_put_ne _ _ apart).trans ?_
      rw [ledger]

variable {order : World → (workers : Nat) → Order workers} {world before : World} {published : Published}
  {filing : Filing} {blob : Bytes}

theorem Filing.Fresh.survives (fresh : filing.Fresh world .ipfs) {index : Nat}
    (inside : index < filing.metadata.shardCount) {earlier : Filing} (filed : Filed world .ipfs earlier)
    (codes : earlier.Codes dataShardCount parityShardCount blob) (before : World) :
    earlier.Survives { registry := [.ipfs] } .ipfs dataShardCount.toNat before
      (before.without (filing.metadata.shardUris.getD index "")) := by
  have lost := fresh _ (List.mem_cons_of_mem _ (List.mem_of_getElem? (getElem?_eq_getD "" inside)))
  constructor
  · refine loss_of_without fun same => ?_
    obtain ⟨bytes, holds, -⟩ := filed.described
    exact lost bytes (same ▸ holds)
  · have whole : intact .ipfs earlier.metadata before (before.without (filing.metadata.shardUris.getD index "")) =
        List.range earlier.metadata.shardCount := by
      refine List.filter_eq_self.mpr fun place member => decide_eq_true (Table.get?_erase_ne _ fun same => ?_)
      obtain ⟨shard, -, holds⟩ := filed.held place _ (getElem?_eq_getD "" (List.mem_range.mp member))
      exact lost shard (same ▸ holds)
    rw [whole, List.length_range, codes.shardCount]
    exact Nat.le_add_right _ _

theorem Filed.distinct (proper : world.Proper)
    (ran : Attempt.runIn (environment order) (Publish.publish publisher blob dataShardCount parityShardCount "ipfs")
      world = (.ok published, before))
    (filed : Filed before .ipfs filing) (named : filing.publication.metadataUri = published.metadataUri) :
    (filing.publication.metadataUri :: filing.metadata.shardUris).Nodup := by
  obtain ⟨_, encoded, shardUris, tagged, -, -, -, deposit⟩ := publish_deposits proper ran
  cases tagged
  -- There is one object at the metadata uri, so the deposit and the filing have the same metadata.
  obtain ⟨bytes, holds, read⟩ := filed.described
  obtain ⟨other, found, also⟩ := deposit.described
  rw [named] at holds ⊢
  cases holds.found.symm.trans found
  rw [Except.ok.inj (read.symm.trans also)]
  exact deposit.distinct

theorem Filed.object? (filed : Filed before .ipfs filing) {index : Nat} (inside : index < filing.metadata.shardCount) :
    ∃ shard, filing.shards[index]? = some shard ∧
      before.object? .ipfs (filing.metadata.shardUris.getD index "") = some shard := by
  obtain ⟨shard, placed, here⟩ := filed.held index _ (getElem?_eq_getD "" inside)
  exact ⟨shard, placed, here.found⟩

theorem Filed.survives_without (filed : Filed before .ipfs filing)
    (distinct : (filing.publication.metadataUri :: filing.metadata.shardUris).Nodup)
    (codes : filing.Codes dataShardCount parityShardCount blob) {index : Nat}
    (inside : index < filing.metadata.shardCount) (spare : 0 < parityShardCount.toNat) :
    filing.Survives { registry := [.ipfs] } .ipfs dataShardCount.toNat before
      (before.without (filing.metadata.shardUris.getD index "")) := by
  obtain ⟨shard, -, here⟩ := filed.object? inside
  have count := codes.shardCount
  refine ⟨loss_of_without (ne_getD_of_nodup distinct inside), ?_⟩
  rw [intact_without (List.nodup_cons.mp distinct).2 inside (here ▸ Option.some_ne_none _),
    length_filter_ne_range inside]
  omega

theorem Filed.lost (filed : Filed before .ipfs filing) {index : Nat} (inside : index < filing.metadata.shardCount) :
    before.object? .ipfs (filing.metadata.shardUris.getD index "") ≠ none ∧
      (before.without (filing.metadata.shardUris.getD index "")).object? .ipfs
        (filing.metadata.shardUris.getD index "") = none := by
  obtain ⟨shard, -, here⟩ := filed.object? inside
  exact ⟨here ▸ Option.some_ne_none _, Table.get?_erase_self _ _⟩

end

theorem exists_doubleHash_ne (digest : Digest) : ∃ object : Bytes, doubleHash object ≠ digest := by
  by_cases same : doubleHash [8] = digest
  · exact ⟨[9], fun other => absurd (same.trans other.symm) (by decide +kernel)⟩
  · exact ⟨[8], same⟩

/-- Three bytes on two data shards and one more, of which the first data shard is then forged. -/
theorem exists_forged : ∃ published filing forged before,
    let after := before.forged (filing.metadata.shardUris.getD 0 "") forged
    Attempt.runIn (environment inOrder) (publish { store := { registry := [.ipfs] }, sender := "alice" } [1, 2, 3] 2 1
        "ipfs") .blank = (.ok published, before) ∧
      filing.publication.metadataUri = published.metadataUri ∧ filing.Codes 2 1 [1, 2, 3] ∧
      Filed before .ipfs filing ∧
      Loss { registry := [.ipfs] } .ipfs filing.publication.metadataUri filing.metadata before after ∧
      intact .ipfs filing.metadata before after = [1, 2] ∧
      filing.publication.shardDoubleHashes[0]? ≠ some (doubleHash forged) := by
  obtain ⟨published, before, ran, -⟩ := publish_accepts inOrder { store := { registry := [.ipfs] }, sender := "alice" }
    [1, 2, 3] 2 1 "ipfs" .blank rfl (List.mem_singleton_self _) (by decide) ⟨rfl, rfl, rfl⟩ (by decide) (by decide)
    (by decide)
  obtain ⟨_, filing, tagged, named, codes, (filed : Filed before _ filing), -⟩ :=
    filed_of_publish (World.hinders_environment inOrder) (by decide) ran
  cases tagged
  have distinct := filed.distinct World.proper_blank ran named
  have count : filing.metadata.shardCount = 3 := codes.shardCount
  have inside : 0 < filing.metadata.shardCount := by
    rw [count]
    decide
  obtain ⟨shard, placed, here⟩ := filed.object? inside
  obtain ⟨forged, differs⟩ := exists_doubleHash_ne (doubleHash shard)
  let after := before.forged (filing.metadata.shardUris.getD 0 "") forged
  have put : after.object? .ipfs (filing.metadata.shardUris.getD 0 "") = some forged := Table.get?_put_self _ _ _
  have elsewhere : ∀ uri ≠ filing.metadata.shardUris.getD 0 "", after.object? .ipfs uri = before.object? .ipfs uri :=
    fun uri apart => Table.get?_put_ne _ _ apart
  refine ⟨published, filing, forged, before, ran, named, codes, filed,
    loss_of_forged (ne_getD_of_nodup distinct inside) here differs, ?_, ?_⟩
  · rw [intact_altered (List.nodup_cons.mp distinct).2 inside elsewhere, count]
    · rfl
    · rw [put, here]
      exact fun same => differs (congrArg doubleHash (Option.some.inj same))
  · rw [codes.committed, List.getElem?_map, placed]
    exact fun same => differs (Option.some.inj same).symm

end Publish

end Availability
