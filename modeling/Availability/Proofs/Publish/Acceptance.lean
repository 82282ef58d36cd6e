import Availability.Proofs.Erasure.Recovery
import Availability.Proofs.Publish

namespace Availability

theorem utf8ByteSize_le (text : String) : text.utf8ByteSize ≤ 4 * text.length := by
  have chars (list : List Char) : (String.ofList list).utf8ByteSize ≤ 4 * list.length := by
    induction list with
    | nil => decide
    | cons char rest ih =>
      have width := char.utf8Size_le_four
      rw [← List.singleton_append, String.ofList_append, String.utf8ByteSize_append, ← String.singleton_eq_ofList,
        String.utf8ByteSize_singleton, List.length_append, List.length_singleton]
      omega
  have whole := chars text.toList
  rwa [String.ofList_toList, String.length_toList] at whole

namespace Metadata

theorem toBytes_of_short {metadata : Metadata} (few : metadata.shardUris.length ≤ Erasure.maxTotalShards)
    (short : ∀ uri ∈ metadata.shardUris, uri.length ≤ 43) : ∃ bytes, metadata.toBytes = .ok bytes := by
  have each : ∀ size ∈ metadata.shardUris.map fun uri => 8 + uri.utf8ByteSize, size ≤ 180 := by
    intro size member
    obtain ⟨uri, listed, rfl⟩ := List.mem_map.mp member
    have letters := short uri listed
    have bytes := utf8ByteSize_le uri
    omega
  have total := List.sum_le_card_nsmul _ 180 each
  rw [List.length_map, smul_eq_mul] at total
  refine ⟨format.encode metadata, ?_⟩
  have size := metadata.length_encode
  have within : ¬ Wire.Format.sizeLimit < (format.encode metadata).length := by
    simp only [Wire.Format.sizeLimit, Erasure.maxTotalShards] at few ⊢
    omega
  exact if_neg within

end Metadata

theorem Chain.Ledger.params_answer (ledger : Ledger) (call : Call) :
    (ledger.answer call).2.params = ledger.params := by
  cases call with
  | broadcast message => cases message <;> rfl
  | _ => rfl

namespace World

variable {protocol : Protocol}

theorem finish_store_willing (env : Environment World) (performs : env.perform = perform) (protocol : Protocol)
    (entries : List (Nat × Bytes)) {world : World} (willing : (world.memory protocol).Willing) :
    (∀ entry ∈ (Environment.finish (env.store protocol) entries world).1, ∃ object nonce,
        entry.2 = .ok (Storage.Memory.uriOf (world.memory protocol).protocol object nonce) ∧
          nonce < (world.memory protocol).stores + entries.length) ∧
      ((Environment.finish (env.store protocol) entries world).2.memory protocol).Willing ∧
      ((Environment.finish (env.store protocol) entries world).2.memory protocol).stores =
        (world.memory protocol).stores + entries.length := by
  induction entries generalizing world with
  | nil => exact ⟨fun entry member => (List.not_mem_nil member).elim, willing, rfl⟩
  | cons entry rest ih =>
    obtain ⟨position, object⟩ := entry
    have store : env.store protocol object world = world.store protocol object := by
      rw [Environment.store, performs]
      rfl
    obtain ⟨stored, still⟩ := willing.store object
    rw [← memory_store] at still
    obtain ⟨each, after, count⟩ := ih still
    rw [memory_store, Storage.Memory.protocol_store, Storage.Memory.stores_store] at each
    rw [memory_store, Storage.Memory.stores_store] at count
    simp only [Environment.finish, store, List.length_cons]
    refine ⟨?_, after, by omega⟩
    intro result member
    rcases List.mem_cons.mp member with rfl | member
    · exact ⟨object, _, stored, by omega⟩
    · obtain ⟨other, nonce, named, past⟩ := each result member
      exact ⟨other, nonce, named, by omega⟩

structure Ready (world : World) (protocol : Protocol) : Prop where
  faults : world.faults = []
  willing : (world.memory protocol).Willing

/-- So many objects more are stored, and another publish finds what this one has found. -/
structure Leaves (protocol : Protocol) (count : Nat) (before after : World) : Prop where
  ready : after.Ready protocol
  stores : (after.memory protocol).stores = (before.memory protocol).stores + count
  params : after.ledger.params = before.ledger.params

theorem Leaves.trans {first second : Nat} {before between after : World} (one : Leaves protocol first before between)
    (other : Leaves protocol second between after) : Leaves protocol (first + second) before after where
  ready := other.ready
  stores := by rw [other.stores, one.stores, Nat.add_assoc]
  params := other.params.trans one.params

end World

open World (Leaves)

section

variable (order : World → (workers : Nat) → Order workers) {store : Store} {protocol : Protocol} {world : World}

theorem ask_willing (call : Chain.Call) (sound : world.faults = []) :
    (Program.ask call).runIn (World.environment order) world =
      (.ok (world.ledger.answer call).1, { world with ledger := (world.ledger.answer call).2 }) := by
  have served : world.fault? call.method = none := by
    rw [World.fault?, sound]
    rfl
  exact World.ask_of_served served

theorem ask_ready (call : Chain.Call) (ready : world.Ready protocol) :
    ∃ after, (Program.ask call).runIn (World.environment order) world = (.ok (world.ledger.answer call).1, after) ∧
      Leaves protocol 0 world after := by
  refine ⟨_, ask_willing order call ready.faults, ⟨ready.faults, ?_⟩, ?_, ?_⟩
  · rw [World.memory_ledger]
    exact ready.willing
  · rw [World.memory_ledger, Nat.add_zero]
  · exact world.ledger.params_answer call

theorem publishShards_ready (known : protocol ∈ store.registry) (ready : world.Ready protocol) (shards : List Bytes) :
    ∃ uris after, Attempt.runIn (World.environment order) (store.publishShards protocol shards) world =
        (.ok uris, after) ∧ Leaves protocol shards.length world after ∧ uris.length = shards.length ∧
      ∀ uri ∈ uris, ∃ object nonce, uri = Storage.Memory.uriOf (world.memory protocol).protocol object nonce ∧
        nonce < (world.memory protocol).stores + shards.length := by
  obtain ⟨each, still, stores⟩ := World.finish_store_willing (World.environment order) rfl protocol
    ((World.environment order).queue shards world) ready.willing
  have count : ((World.environment order).queue shards world).length = shards.length := by
    rw [← List.length_map, ((World.environment order).queue_positions shards world).length_eq, List.length_range]
  rw [count] at each stores
  obtain ⟨values, joined⟩ := Indexed.join_of_ok .abort
    (Indexed.collect ((World.environment order).storeAll protocol shards world).1) fun entry member => by
      obtain ⟨object, nonce, stored, -⟩ := each entry ((Indexed.collect_perm _).mem_iff.mp member)
      exact ⟨_, stored⟩
  have ran := Store.runIn_publishShards (World.environment order) known shards world
  rw [joined] at ran
  obtain ⟨-, length, listed⟩ := Store.publishShards_eq_ok ran
  have kept := (World.stored_finish (World.environment order) rfl protocol
    ((World.environment order).queue shards world) world).kept
  refine ⟨_, _, ran, ⟨⟨kept.faults.trans ready.faults, still⟩, stores, congrArg _ kept.ledger⟩, length, ?_⟩
  intro uri member
  obtain ⟨position, found⟩ := List.mem_iff_getElem?.mp member
  obtain ⟨object, nonce, stored, past⟩ := each _ (listed position uri found)
  cases stored
  exact ⟨object, nonce, rfl, past⟩

theorem publishMetadata_ready (known : protocol ∈ store.registry) (ready : world.Ready protocol) {metadata : Metadata}
    {bytes : Bytes} (written : metadata.toBytes = .ok bytes) :
    ∃ uri after, Attempt.runIn (World.environment order) (store.publishMetadata protocol metadata) world =
      (.ok uri, after) ∧ Leaves protocol 1 world after := by
  have backend : store.registry.backend protocol = .ok protocol := if_pos known
  obtain ⟨answer, still⟩ := ready.willing.store bytes
  have kept := world.kept_store protocol bytes
  rw [← World.memory_store] at still
  refine ⟨Storage.Memory.uriOf (world.memory protocol).protocol bytes (world.memory protocol).stores,
    (world.store protocol bytes).2, ?_, ⟨kept.faults.trans ready.faults, still⟩, ?_, congrArg _ kept.ledger⟩
  · unfold Store.publishMetadata
    simp only [Attempt.runIn_bind, Attempt.runIn_ofExcept, backend, written, Except.mapError]
    exact Prod.ext answer rfl
  · rw [World.memory_store, Storage.Memory.stores_store]

end

namespace Publish

def upload (publisher : Publisher) (blob : Bytes) (dataShardCount parityShardCount : UInt64) (tag : String) :
    Attempt Error (Protocol × Erasure.Encoded × List String) := do
  let protocol ← Attempt.ofExcept ((Storage.protocolOfTag tag).mapError .storage)
  let _ ← Attempt.ofExcept ((publisher.store.registry.backend protocol).mapError .storage)
  if dataShardCount = 0 then throw .noDataShards
  let params ← Attempt.orFail (Program.ask .params) .chain
  let encoded ← Attempt.ofExcept (encode params blob dataShardCount parityShardCount)
  let shardUris ← (publisher.store.publishShards protocol encoded.shards).adapt .storage
  return (protocol, encoded, shardUris)

def announce (publisher : Publisher) (blob : Bytes) (parityShardCount : UInt64) (protocol : Protocol)
    (encoded : Erasure.Encoded) (shardUris : List String) : Attempt Error Published := do
  let metadataUri ← (publisher.store.publishMetadata protocol
    (metadataFor blob parityShardCount encoded shardUris)).adapt .storage
  let transactionHash ← Attempt.orFail (Program.ask (.broadcast (.publishData
    (publicationFor publisher parityShardCount encoded metadataUri)))) .chain
  return ⟨transactionHash, metadataUri⟩

section

variable (order : World → (workers : Nat) → Order workers) (publisher : Publisher) (blob : Bytes)
  (dataShardCount parityShardCount : UInt64) (tag : String) (world : World) {protocol : Protocol}

theorem publish_eq_bind : publish publisher blob dataShardCount parityShardCount tag =
    upload publisher blob dataShardCount parityShardCount tag >>= fun uploaded =>
      announce publisher blob parityShardCount uploaded.1 uploaded.2.1 uploaded.2.2 := by
  unfold publish upload announce
  split <;> simp only [bind_assoc, pure_bind] <;> rfl

theorem upload_accepts (tagged : Storage.protocolOfTag tag = .ok protocol)
    (known : protocol ∈ publisher.store.registry) (some_data : dataShardCount ≠ 0) (ready : world.Ready protocol)
    (room : (world.memory protocol).stores + Erasure.maxTotalShards ≤ 10 ^ 20)
    (inside : checkShardCount world.ledger.params dataShardCount parityShardCount = .ok ())
    (small : Erasure.shardSize blob.length dataShardCount.toNat ≤ world.ledger.params.maxShardSize.toNat) :
    ∃ encoded shardUris after, Attempt.runIn (World.environment order)
        (upload publisher blob dataShardCount parityShardCount tag) world =
          (.ok (protocol, encoded, shardUris), after) ∧
      Leaves protocol (dataShardCount.toNat + parityShardCount.toNat) world after ∧
      shardUris.length ≤ Erasure.maxTotalShards ∧ ∀ uri ∈ shardUris, uri.length ≤ 43 := by
  have positive : 0 < dataShardCount.toNat := UInt64.lt_iff_toNat_lt.mp (UInt64.pos_iff_ne_zero.mpr some_data)
  have few := few_of_checked inside
  obtain ⟨encoded, coded, size⟩ : ∃ encoded,
      Erasure.encode blob dataShardCount.toNat parityShardCount.toNat = .ok encoded ∧
        encoded.shardSize = Erasure.shardSize blob.length dataShardCount.toNat :=
    ⟨_, Erasure.encode_eq_codeword blob positive few, rfl⟩
  rw [← size] at small
  have total := Erasure.length_shards positive few coded
  obtain ⟨asked, params_asked, found⟩ := ask_ready order .params ready
  obtain ⟨uris, stored, uploaded, leaves, length, each⟩ :=
    publishShards_ready order known found.ready encoded.shards
  rw [total] at leaves length each
  have backend : publisher.store.registry.backend protocol = .ok protocol := if_pos known
  have both := found.trans leaves
  rw [Nat.zero_add] at both
  refine ⟨encoded, uris, stored, ?_, both, length.trans_le few, ?_⟩
  · unfold upload
    refine Attempt.runIn_bind_eq_ok.mpr ⟨protocol, world, by rw [tagged]; rfl, ?_⟩
    refine Attempt.runIn_bind_eq_ok.mpr ⟨protocol, world, by rw [backend]; rfl, ?_⟩
    rw [if_neg some_data]
    refine Attempt.runIn_bind_eq_ok.mpr ⟨_, asked, by rw [Attempt.runIn_orFail, params_asked]; rfl, ?_⟩
    refine Attempt.runIn_bind_eq_ok.mpr ⟨encoded, asked, ?_, ?_⟩
    · exact congrArg (·, asked) (encode_eq_ok_iff.mpr ⟨inside, coded, small⟩)
    · exact Attempt.runIn_bind_eq_ok.mpr ⟨uris, stored, Attempt.runIn_adapt_eq_ok.mpr uploaded, rfl⟩
  · intro uri member
    obtain ⟨object, nonce, rfl, past⟩ := each uri member
    rw [found.stores] at past
    exact Storage.Memory.length_uriOf_le _ object (by omega)

/-- Once its shards are stored, a publish succeeds wherever others have taken the world since. -/
theorem announce_accepts (known : protocol ∈ publisher.store.registry) (ready : world.Ready protocol)
    (encoded : Erasure.Encoded) {shardUris : List String} (few : shardUris.length ≤ Erasure.maxTotalShards)
    (short : ∀ uri ∈ shardUris, uri.length ≤ 43) :
    ∃ published after, Attempt.runIn (World.environment order)
        (announce publisher blob parityShardCount protocol encoded shardUris) world = (.ok published, after) ∧
      Leaves protocol 1 world after := by
  obtain ⟨bytes, written⟩ : ∃ bytes, (metadataFor blob parityShardCount encoded shardUris).toBytes = .ok bytes :=
    Metadata.toBytes_of_short few short
  obtain ⟨uri, done, described, first⟩ := publishMetadata_ready order known ready written
  let publication := publicationFor publisher parityShardCount encoded uri
  obtain ⟨after, committed, second⟩ := ask_ready order (.broadcast (.publishData publication)) first.ready
  refine ⟨⟨(done.ledger.broadcast (.publishData publication)).1, uri⟩, after, ?_, first.trans second⟩
  refine Attempt.runIn_bind_eq_ok.mpr ⟨uri, done, ?_, ?_⟩
  · exact Attempt.runIn_adapt_eq_ok.mpr described
  · exact Attempt.runIn_bind_eq_ok.mpr ⟨_, after, by rw [Attempt.runIn_orFail, committed]; rfl, rfl⟩

theorem publish_accepts (tagged : Storage.protocolOfTag tag = .ok protocol)
    (known : protocol ∈ publisher.store.registry) (some_data : dataShardCount ≠ 0) (ready : world.Ready protocol)
    (room : (world.memory protocol).stores + Erasure.maxTotalShards ≤ 10 ^ 20)
    (inside : checkShardCount world.ledger.params dataShardCount parityShardCount = .ok ())
    (small : Erasure.shardSize blob.length dataShardCount.toNat ≤ world.ledger.params.maxShardSize.toNat) :
    ∃ published after, Attempt.runIn (World.environment order)
        (publish publisher blob dataShardCount parityShardCount tag) world = (.ok published, after) ∧
      Leaves protocol (dataShardCount.toNat + parityShardCount.toNat + 1) world after := by
  obtain ⟨encoded, shardUris, between, uploaded, first, few, short⟩ :=
    upload_accepts order publisher blob dataShardCount parityShardCount tag world tagged known some_data ready room
      inside small
  obtain ⟨published, after, announced, second⟩ :=
    announce_accepts order publisher blob parityShardCount between known first.ready encoded few short
  rw [publish_eq_bind]
  exact ⟨published, after, Attempt.runIn_bind_eq_ok.mpr ⟨_, between, uploaded, announced⟩, first.trans second⟩

end

end Publish

end Availability
