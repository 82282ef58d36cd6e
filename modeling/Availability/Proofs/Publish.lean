import Availability.Publish
import Availability.Proofs.Store
import Availability.Proofs.Wire
import Availability.Proofs.World

namespace Availability

namespace Publish

open Storage (Registry)

variable {σ : Type} {env : Environment σ} {publisher : Publisher} {blob : Bytes}
  {dataShardCount parityShardCount : UInt64} {tag : String} {published : Published} {state after : σ}

def metadataFor (blob : Bytes) (parityShardCount : UInt64) (encoded : Erasure.Encoded) (shardUris : List String) :
    Metadata where
  shardSize := UInt64.ofNat encoded.shardSize
  parityShardCount
  recoveredDataHash := recoveredDataHash blob
  recoveredDataSize := UInt64.ofNat blob.length
  shardUris

def publicationFor (publisher : Publisher) (parityShardCount : UInt64) (encoded : Erasure.Encoded)
    (metadataUri : String) : Publication where
  sender := publisher.sender
  metadataUri
  parityShardCount
  shardDoubleHashes := encoded.shards.map doubleHash
  dataSourceInfo := publisher.dataSourceInfo

theorem few_of_checked {params : Chain.Params}
    (checked : checkShardCount params dataShardCount parityShardCount = .ok ()) :
    dataShardCount.toNat + parityShardCount.toNat ≤ Erasure.maxTotalShards := by
  unfold checkShardCount at checked
  simp only [Word.toNat_saturatingAdd, UInt64.size] at checked
  split at checked
  · cases checked
  · rename_i inside
    have most : Nat.min params.maxShardCount.toNat Erasure.maxTotalShards ≤ Erasure.maxTotalShards :=
      Nat.min_le_right _ _
    simp only [Erasure.maxTotalShards] at inside most ⊢
    omega

theorem encode_eq_ok_iff {params : Chain.Params} {encoded : Erasure.Encoded} :
    encode params blob dataShardCount parityShardCount = .ok encoded ↔
      checkShardCount params dataShardCount parityShardCount = .ok () ∧
        Erasure.encode blob dataShardCount.toNat parityShardCount.toNat = .ok encoded ∧
        encoded.shardSize ≤ params.maxShardSize.toNat := by
  unfold encode
  cases checkShardCount params dataShardCount parityShardCount with
  | error err => simp [bind, Except.bind]
  | ok _ =>
    cases Erasure.encode blob dataShardCount.toNat parityShardCount.toNat with
    | error err => simp [bind, Except.bind, Except.mapError]
    | ok coded =>
      by_cases large : params.maxShardSize.toNat < coded.shardSize
      · simp only [bind, Except.bind, Except.mapError, if_pos large]
        constructor
        · intro failed
          cases failed
        · rintro ⟨-, same, small⟩
          cases same
          omega
      · simp only [bind, Except.bind, Except.mapError, if_neg large]
        constructor
        · intro same
          cases same
          exact ⟨trivial, rfl, Nat.not_lt.mp large⟩
        · rintro ⟨-, same, -⟩
          cases same
          rfl

theorem publish_eq_ok
    (ran : Attempt.runIn env (publish publisher blob dataShardCount parityShardCount tag) state =
      (.ok published, after)) :
    ∃ protocol params asked encoded shardUris stored written,
      Storage.protocolOfTag tag = .ok protocol ∧ protocol ∈ publisher.store.registry ∧ dataShardCount ≠ 0 ∧
      (Program.ask .params).runIn env state = (.ok params, asked) ∧
      encode params blob dataShardCount parityShardCount = .ok encoded ∧
      Attempt.runIn env (publisher.store.publishShards protocol encoded.shards) asked = (.ok shardUris, stored) ∧
      Attempt.runIn env (publisher.store.publishMetadata protocol
        (metadataFor blob parityShardCount encoded shardUris)) stored = (.ok published.metadataUri, written) ∧
      (Program.ask (.broadcast (.publishData
        (publicationFor publisher parityShardCount encoded published.metadataUri)))).runIn env written =
          (.ok published.transactionHash, after) := by
  unfold publish at ran
  obtain ⟨protocol, _, tagged, ran⟩ := Attempt.runIn_bind_eq_ok.mp ran
  obtain ⟨_, _, known, ran⟩ := Attempt.runIn_bind_eq_ok.mp ran
  rw [Attempt.runIn_ofExcept, Prod.mk.injEq, Except.mapError_eq_ok] at tagged known
  obtain ⟨tagged, rfl⟩ := tagged
  obtain ⟨known, rfl⟩ := known
  by_cases absent : dataShardCount = 0
  · rw [if_pos absent] at ran
    cases ran
  · rw [if_neg absent] at ran
    obtain ⟨params, asked, params_asked, ran⟩ := Attempt.runIn_bind_eq_ok.mp ran
    obtain ⟨encoded, _, encodes, ran⟩ := Attempt.runIn_bind_eq_ok.mp ran
    obtain ⟨shardUris, stored, uploaded, ran⟩ := Attempt.runIn_bind_eq_ok.mp ran
    obtain ⟨metadataUri, written, described, ran⟩ := Attempt.runIn_bind_eq_ok.mp ran
    obtain ⟨transactionHash, _, committed, ran⟩ := Attempt.runIn_bind_eq_ok.mp ran
    cases ran
    simp only [Attempt.runIn_orFail, Attempt.runIn_ofExcept, Attempt.runIn_adapt, Prod.mk.injEq,
      Except.mapError_eq_ok] at params_asked encodes uploaded described committed
    obtain ⟨encodes, rfl⟩ := encodes
    exact ⟨protocol, params, asked, encoded, shardUris, stored, written, tagged,
      (Storage.backend_eq_ok known).2, absent, Prod.ext params_asked.1 params_asked.2, encodes,
      Prod.ext uploaded.1 uploaded.2, Prod.ext described.1 described.2, Prod.ext committed.1 committed.2⟩

theorem publish_unanswered {protocol : Protocol} {err : Chain.Error} (tagged : Storage.protocolOfTag tag = .ok protocol)
    (known : protocol ∈ publisher.store.registry) (some_data : dataShardCount ≠ 0)
    (unanswered : env.perform state (.chain .params) = (.error err, after)) :
    Attempt.runIn env (publish publisher blob dataShardCount parityShardCount tag) state =
      (.error (.chain err), after) := by
  have backend : publisher.store.registry.backend protocol = .ok protocol := if_pos known
  have asked : (Program.ask .params).runIn env state = (.error err, after) := unanswered
  unfold publish
  simp only [Attempt.runIn_bind, Attempt.runIn_ofExcept, tagged, backend, Except.mapError, if_neg some_data,
    Attempt.runIn_orFail, asked]

/-- What a publish leaves behind: its shards and metadata, and the record and the message that commit to them. -/
structure Deposit (world : World) (protocol : Protocol) (metadata : Metadata) (shards : List Bytes)
    (publication : Publication) : Prop where
  listed : metadata.shardUris.length = shards.length
  distinct : (publication.metadataUri :: metadata.shardUris).Nodup
  owned : ∀ uri ∈ publication.metadataUri :: metadata.shardUris, ∃ id, id ≠ "" ∧ uri = protocol.uriFor id
  described : ∃ bytes, world.object? protocol publication.metadataUri = some bytes ∧
    Metadata.ofBytes bytes = .ok metadata
  stored : ∀ {index : Nat} {uri shard}, metadata.shardUris[index]? = some uri → shards[index]? = some shard →
    world.object? protocol uri = some shard
  recorded : ∃ record, world.ledger.published.get? publication.metadataUri = some record ∧
    record.shardDoubleHashes = publication.shardDoubleHashes
  announced : world.ledger.broadcasts.back? = some (.publishData publication)

/-- What a retrieval goes by of what a publish leaves behind. -/
structure Standing (world : World) (protocol : Protocol) (metadata : Metadata) (shards : List Bytes)
    (publication : Publication) : Prop where
  listed : metadata.shardUris.length = shards.length
  owned : ∀ uri ∈ publication.metadataUri :: metadata.shardUris, ∃ id, id ≠ "" ∧ uri = protocol.uriFor id
  described : ∃ bytes, world.object? protocol publication.metadataUri = some bytes ∧
    Metadata.ofBytes bytes = .ok metadata
  stored : ∀ {index : Nat} {uri shard}, metadata.shardUris[index]? = some uri → shards[index]? = some shard →
    world.object? protocol uri = some shard
  recorded : ∃ record, world.ledger.published.get? publication.metadataUri = some record ∧
    record.shardDoubleHashes = publication.shardDoubleHashes

theorem Deposit.standing {world : World} {protocol : Protocol} {metadata : Metadata} {shards : List Bytes}
    {publication : Publication} (deposit : Deposit world protocol metadata shards publication) :
    Standing world protocol metadata shards publication :=
  ⟨deposit.listed, deposit.owned, deposit.described, deposit.stored, deposit.recorded⟩

section

variable {order : World → (workers : Nat) → Order workers} {protocol : Protocol} {world : World}

theorem ask_eq_ok {call : Chain.Call} {answer : call.Answer} {later : World}
    (answered : (Program.ask call).runIn (World.environment order) world = (.ok answer, later)) :
    answer = (world.ledger.answer call).1 ∧ later = { world with ledger := (world.ledger.answer call).2 } :=
  World.ask_eq_ok answered

theorem uris_nodup {uris : List String} {finished : List (Nat × Except Storage.Error String)}
    {entries : List (Nat × Bytes)} {later : World} (stored : World.Stored protocol entries world finished later)
    (each : ∀ position uri, uris[position]? = some uri → (position, .ok uri) ∈ finished) : uris.Nodup := by
  rw [List.nodup_iff_getElem?_ne_getElem?]
  intro first second before inside same
  have here := List.getElem?_eq_getElem inside
  have equal := stored.distinct (each first _ (same.trans here)) (each second _ here)
  omega

theorem publish_ledger {later : World}
    (ran : Attempt.runIn (World.environment order) (publish publisher blob dataShardCount parityShardCount tag) world =
      (.ok published, later)) :
    ∃ publication : Publication, publication.metadataUri = published.metadataUri ∧
      later.ledger = ((world.ledger.answer .params).2.answer (.broadcast (.publishData publication))).2 := by
  obtain ⟨protocol, params, asked, encoded, shardUris, stored, written, -, -, -, params_asked, -, uploaded, described,
    committed⟩ := publish_eq_ok ran
  obtain ⟨-, asked_eq⟩ := ask_eq_ok params_asked
  obtain ⟨stored_eq, -, -⟩ := Store.publishShards_eq_ok uploaded
  obtain ⟨bytes, -, performed⟩ := Store.publishMetadata_eq_ok described
  obtain ⟨-, later_eq⟩ := ask_eq_ok committed
  have uploads := World.stored_finish (World.environment order) rfl protocol
    ((World.environment order).queue encoded.shards asked) asked
  have kept : World.Kept protocol asked stored := stored_eq ▸ uploads.kept
  have written_eq : written = (stored.store protocol bytes).2 := (congrArg Prod.snd performed).symm
  refine ⟨publicationFor publisher parityShardCount encoded published.metadataUri, rfl, ?_⟩
  rw [later_eq, written_eq]
  simp only [(stored.kept_store protocol bytes).ledger, kept.ledger, asked_eq]

theorem publish_deposits (proper : world.Proper) {later : World}
    (ran : Attempt.runIn (World.environment order) (publish publisher blob dataShardCount parityShardCount tag) world =
      (.ok published, later)) :
    ∃ protocol encoded shardUris, Storage.protocolOfTag tag = .ok protocol ∧ dataShardCount ≠ 0 ∧
      dataShardCount.toNat + parityShardCount.toNat ≤ Erasure.maxTotalShards ∧
      Erasure.encode blob dataShardCount.toNat parityShardCount.toNat = .ok encoded ∧
      Deposit later protocol (metadataFor blob parityShardCount encoded shardUris) encoded.shards
        (publicationFor publisher parityShardCount encoded published.metadataUri) := by
  obtain ⟨protocol, params, asked, encoded, shardUris, stored, written, tagged, -, some_data, params_asked, encodes,
    uploaded, described, committed⟩ := publish_eq_ok ran
  obtain ⟨checked, coded, -⟩ := encode_eq_ok_iff.mp encodes
  have few := few_of_checked checked
  obtain ⟨-, answered⟩ := ask_eq_ok params_asked
  have asked_proper : asked.Proper := by
    rw [answered]
    exact proper.ledger _
  obtain ⟨rfl, listed, each⟩ := Store.publishShards_eq_ok uploaded
  obtain ⟨bytes, serialized, performed⟩ := Store.publishMetadata_eq_ok described
  obtain ⟨-, rfl⟩ := ask_eq_ok committed
  have uploads := World.stored_finish (World.environment order) rfl protocol
    ((World.environment order).queue encoded.shards asked) asked
  obtain ⟨stored, stored_eq⟩ :
      ∃ stored, ((World.environment order).storeAll protocol encoded.shards asked).2 = stored := ⟨_, rfl⟩
  rw [stored_eq] at performed
  have answer : (stored.store protocol bytes).1 = .ok published.metadataUri := congrArg Prod.fst performed
  have result : (stored.store protocol bytes).2 = written := congrArg Prod.snd performed
  have kept : World.Kept protocol stored written := result ▸ stored.kept_store protocol bytes
  have uploaded_kept : World.Kept protocol asked stored := stored_eq ▸ uploads.kept
  have written_proper : written.Proper := kept.proper (uploaded_kept.proper asked_proper)
  have metadata_held : (written.memory protocol).Holds published.metadataUri bytes := by
    rw [← result, World.memory_store]
    exact Storage.Memory.holds_of_store answer
  have shard_held {index : Nat} {uri : String} (found : shardUris[index]? = some uri) :
      ∃ shard, encoded.shards[index]? = some shard ∧ (stored.memory protocol).Holds uri shard := by
    obtain ⟨shard, queued, held⟩ := uploads.held (each index uri found)
    refine ⟨shard, Environment.mem_queue.mp queued, ?_⟩
    rw [← stored_eq]
    exact held
  refine ⟨protocol, encoded, shardUris, tagged, some_data, few, coded, ?_⟩
  refine ⟨listed, ?_, ?_, ?_, ?_, ?_, ?_⟩
  · refine List.nodup_cons.mpr ⟨?_, uris_nodup uploads each⟩
    intro member
    obtain ⟨index, found⟩ := List.mem_iff_getElem?.mp member
    obtain ⟨shard, -, held⟩ := shard_held found
    exact held.ne_of_unused (Storage.Memory.unused_of_store answer) rfl
  · intro uri member
    rcases List.mem_cons.mp member with rfl | member
    · obtain ⟨id, filled, named⟩ := metadata_held.uriFor
      exact ⟨id, filled, named.trans (by rw [written_proper protocol])⟩
    · obtain ⟨index, found⟩ := List.mem_iff_getElem?.mp member
      obtain ⟨shard, -, held⟩ := shard_held found
      obtain ⟨id, filled, named⟩ := (kept.held held).uriFor
      exact ⟨id, filled, named.trans (by rw [written_proper protocol])⟩
  · refine ⟨bytes, ?_, Metadata.ofBytes_of_toBytes serialized⟩
    rw [World.object?, World.memory_ledger]
    exact metadata_held.found
  · intro index uri shard found placed
    obtain ⟨other, here, held⟩ := shard_held found
    obtain rfl := Option.some.inj (here.symm.trans placed)
    rw [World.object?, World.memory_ledger]
    exact (kept.held held).found
  · exact ⟨_, Table.get?_put_self _ _ _, rfl⟩
  · change ((written.ledger.answer (.broadcast _)).2.broadcasts).back? = _
    change (Chain.Ledger.broadcast _ _).2.broadcasts.back? = _
    rw [Chain.Ledger.broadcasts_broadcast, Array.back?_push]

end

end Publish

end Availability
