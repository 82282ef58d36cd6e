import Mathlib.Algebra.Order.Floor.Div
import Availability.Proofs.Http
import Availability.Proofs.Publish.Acceptance
import Availability.Proofs.Transcript

namespace Availability

/-- No call to the chain and no store fails, and every network still has numbers for what is stored. -/
structure World.Serves (world : World) : Prop where
  faults : world.faults = []
  willing : ∀ protocol, (world.memory protocol).Willing
  counted : ∀ protocol, (world.memory protocol).stores < UInt64.size

theorem World.serves_blank : World.blank.Serves where
  faults := rfl
  willing protocol := by cases protocol <;> exact ⟨rfl, rfl⟩
  counted protocol := by cases protocol <;> decide

theorem Attempt.ofExcept_bind_of_ok {ε α β : Type} {result : Except ε α} {value : α} (returned : result = .ok value)
    (rest : α → Attempt ε β) : ofExcept result >>= rest = rest value := by
  rw [returned]
  rfl

namespace Publish

def beyond? (params : Chain.Params) (length dataShardCount parityShardCount : Nat) : Option Error :=
  if dataShardCount + parityShardCount < params.minShardCount.toNat ∨
      Nat.min params.maxShardCount.toNat Erasure.maxTotalShards < dataShardCount + parityShardCount then
    some (.shardCountOutOfBounds (Nat.min (dataShardCount + parityShardCount) (UInt64.size - 1))
      params.minShardCount.toNat (Nat.min params.maxShardCount.toNat Erasure.maxTotalShards))
  else if params.maxShardSize.toNat < max 1 (length ⌈/⌉ dataShardCount) then
    some (.shardSizeExceeded (max 1 (length ⌈/⌉ dataShardCount)) params.maxShardSize.toNat)
  else none

def refusal? (registry : Storage.Registry) (params : Chain.Params) (length dataShardCount parityShardCount : Nat)
    (tag : String) : Option Error :=
  match Protocol.ofTag? tag with
  | none => some (.storage (.unsupportedProtocol tag))
  | some protocol =>
    if protocol ∉ registry then some (.storage (.backendUnavailable protocol))
    else if dataShardCount = 0 then some .noDataShards
    else beyond? params length dataShardCount parityShardCount

/-- What a refused publish has heard: the bounds of the chain, unless it was refused before them. -/
def heardBefore (params : Chain.Params) : Error → Transcript
  | .storage _ | .noDataShards => []
  | _ => [⟨.chain .params, .ok params⟩]

variable {registry : Storage.Registry} {params : Chain.Params} {blob : Bytes} {length data parity : Nat}
  {dataShardCount parityShardCount : UInt64} {tag : String} {err : Error}

theorem beyond?_eq_none_iff : beyond? params length data parity = none ↔
    params.minShardCount.toNat ≤ data + parity ∧
      data + parity ≤ Nat.min params.maxShardCount.toNat Erasure.maxTotalShards ∧
      max 1 (length ⌈/⌉ data) ≤ params.maxShardSize.toNat := by
  unfold beyond?
  split
  · rename_i outside
    simp only [reduceCtorEq, false_iff]
    omega
  · rename_i inside
    rw [not_or, not_lt, not_lt] at inside
    simp only [inside, true_and, ite_eq_right_iff, reduceCtorEq, imp_false, not_lt]

theorem refusal?_eq_none_iff : refusal? registry params length data parity tag = none ↔
    ∃ protocol, Protocol.ofTag? tag = some protocol ∧ protocol ∈ registry ∧ 1 ≤ data ∧
      params.minShardCount.toNat ≤ data + parity ∧
      data + parity ≤ Nat.min params.maxShardCount.toNat Erasure.maxTotalShards ∧
      max 1 (length ⌈/⌉ data) ≤ params.maxShardSize.toNat := by
  unfold refusal?
  cases Protocol.ofTag? tag with
  | none => simp
  | some protocol =>
    by_cases registered : protocol ∈ registry
    · by_cases absent : data = 0
      · simp [registered, absent]
      · have positive : 1 ≤ data := Nat.one_le_iff_ne_zero.mpr absent
        simp [registered, absent, positive, beyond?_eq_none_iff]
    · simp [registered]

theorem shardSize_eq_ceilDiv (length data : Nat) : Erasure.shardSize length data = max 1 (length ⌈/⌉ data) := by
  rw [Erasure.shardSize, Nat.ceilDiv_eq_add_pred_div]

/-- The sum that stops at the largest word is as good as the exact one. -/
theorem checkShardCount_exact (params : Chain.Params) (dataShardCount parityShardCount : UInt64) :
    checkShardCount params dataShardCount parityShardCount =
      if dataShardCount.toNat + parityShardCount.toNat < params.minShardCount.toNat ∨
          Nat.min params.maxShardCount.toNat Erasure.maxTotalShards < dataShardCount.toNat + parityShardCount.toNat then
        .error (.shardCountOutOfBounds (Nat.min (dataShardCount.toNat + parityShardCount.toNat) (UInt64.size - 1))
          params.minShardCount.toNat (Nat.min params.maxShardCount.toNat Erasure.maxTotalShards))
      else .ok () := by
  have least := params.minShardCount.toNat_lt
  have coded : Nat.min params.maxShardCount.toNat Erasure.maxTotalShards ≤ Erasure.maxTotalShards :=
    Nat.min_le_right _ _
  have same (total : Nat) :
      (min total (UInt64.size - 1) < params.minShardCount.toNat ∨
        Nat.min params.maxShardCount.toNat Erasure.maxTotalShards < min total (UInt64.size - 1)) ↔
      (total < params.minShardCount.toNat ∨ Nat.min params.maxShardCount.toNat Erasure.maxTotalShards < total) := by
    simp only [Erasure.maxTotalShards, UInt64.size] at coded ⊢
    omega
  unfold checkShardCount
  simp only [Word.toNat_saturatingAdd, same]

theorem encode_of_beyond (some_data : dataShardCount ≠ 0)
    (beyond : beyond? params blob.length dataShardCount.toNat parityShardCount.toNat = some err) :
    encode params blob dataShardCount parityShardCount = .error err := by
  have positive : 0 < dataShardCount.toNat := UInt64.lt_iff_toNat_lt.mp (UInt64.pos_iff_ne_zero.mpr some_data)
  unfold beyond? at beyond
  unfold encode
  split at beyond
  · rename_i outside
    cases beyond
    rw [checkShardCount_exact, if_pos outside]
    rfl
  · rename_i inside
    have checked : checkShardCount params dataShardCount parityShardCount = .ok () := by
      rw [checkShardCount_exact]
      exact if_neg inside
    split at beyond
    · rename_i large
      rw [← shardSize_eq_ceilDiv] at large beyond
      cases beyond
      rw [checked, Erasure.encode_eq_codeword blob positive (few_of_checked checked)]
      simp only [bind, Except.bind, Except.mapError, if_pos large]
    · cases beyond

theorem heardBefore_of_beyond (beyond : beyond? params length data parity = some err) :
    heardBefore params err = [⟨.chain .params, .ok params⟩] := by
  unfold beyond? at beyond
  split at beyond
  · cases beyond
    rfl
  · split at beyond
    · cases beyond
      rfl
    · cases beyond

section

variable {σ : Type} {env : Environment σ} {publisher : Publisher} {state after : σ}

theorem publish_refused (asks : env.perform state (.chain .params) = (.ok params, after))
    (refused : refusal? publisher.store.registry params blob.length dataShardCount.toNat parityShardCount.toNat tag =
      some err) :
    (Attempt.runIn env (publish publisher blob dataShardCount parityShardCount tag) state).1 = .error err ∧
      Attempt.transcript env (publish publisher blob dataShardCount parityShardCount tag) state =
        heardBefore params err := by
  unfold refusal? at refused
  unfold publish
  cases named : Protocol.ofTag? tag with
  | none =>
    rw [named] at refused
    cases refused
    have tagged : Storage.protocolOfTag tag = .error (.unsupportedProtocol tag) := by
      unfold Storage.protocolOfTag
      rw [named]
    rw [tagged]
    exact ⟨rfl, rfl⟩
  | some protocol =>
    simp only [named] at refused
    have tagged : Storage.protocolOfTag tag = .ok protocol := by
      unfold Storage.protocolOfTag
      rw [named]
    rw [Attempt.ofExcept_bind_of_ok (Except.mapError_eq_ok.mpr tagged)]
    split at refused
    · rename_i unregistered
      cases refused
      have backend : publisher.store.registry.backend protocol = .error (.backendUnavailable protocol) :=
        if_neg unregistered
      rw [backend]
      exact ⟨rfl, rfl⟩
    rename_i registered
    have backend : publisher.store.registry.backend protocol = .ok protocol := if_pos (not_not.mp registered)
    rw [Attempt.ofExcept_bind_of_ok (Except.mapError_eq_ok.mpr backend)]
    split at refused
    · rename_i absent
      cases refused
      have zero : dataShardCount = 0 := UInt64.toNat_inj.mp absent
      rw [if_pos zero]
      exact ⟨rfl, rfl⟩
    · rename_i present
      have some_data : dataShardCount ≠ 0 := fun zero => present (congrArg UInt64.toNat zero)
      have encodes := encode_of_beyond some_data refused
      rw [if_neg some_data, Attempt.runIn_ask_bind, Attempt.transcript_ask_bind, asks]
      simp only [encodes]
      exact ⟨rfl, (heardBefore_of_beyond refused).symm⟩

end

theorem refusal?_cases (refused : refusal? registry params length data parity tag = some err) :
    err = .storage (.unsupportedProtocol tag) ∨ (∃ protocol, err = .storage (.backendUnavailable protocol)) ∨
      err = .noDataShards ∨ (∃ total min max, err = .shardCountOutOfBounds total min max) ∨
        ∃ size max, err = .shardSizeExceeded size max := by
  unfold refusal? beyond? at refused
  cases named : Protocol.ofTag? tag with
  | none =>
    rw [named] at refused
    cases refused
    exact .inl rfl
  | some protocol =>
    simp only [named] at refused
    split at refused
    · cases refused
      exact .inr (.inl ⟨_, rfl⟩)
    split at refused
    · cases refused
      exact .inr (.inr (.inl rfl))
    split at refused
    · cases refused
      exact .inr (.inr (.inr (.inl ⟨_, _, _, rfl⟩)))
    split at refused
    · cases refused
      exact .inr (.inr (.inr (.inr ⟨_, _, rfl⟩)))
    · cases refused

theorem ne_of_refused (refused : refusal? registry params length data parity tag = some err) :
    (∀ cause, err ≠ .codec cause) ∧ ∀ cause, err ≠ .storage (.wire cause) := by
  rcases refusal?_cases refused with rfl | ⟨_, rfl⟩ | rfl | ⟨_, _, _, rfl⟩ | ⟨_, _, rfl⟩ <;> exact ⟨nofun, nofun⟩

section

variable (order : World → (workers : Nat) → Order workers) {world : World} (serves : world.Serves)
include serves

theorem publish_accepted (publisher : Publisher)
    (accepted : refusal? publisher.store.registry world.ledger.params blob.length dataShardCount.toNat
      parityShardCount.toNat tag = none) :
    ∃ published, (Attempt.runIn (World.environment order)
      (publish publisher blob dataShardCount parityShardCount tag) world).1 = .ok published := by
  obtain ⟨protocol, named, known, positive, least, most, small⟩ := refusal?_eq_none_iff.mp accepted
  have tagged : Storage.protocolOfTag tag = .ok protocol := by
    unfold Storage.protocolOfTag
    rw [named]
  have some_data : dataShardCount ≠ 0 := by
    rintro rfl
    exact absurd positive (by decide)
  have room : (world.memory protocol).stores + Erasure.maxTotalShards ≤ 10 ^ 20 := by
    have counted := serves.counted protocol
    simp only [UInt64.size, Erasure.maxTotalShards] at counted ⊢
    omega
  have inside : checkShardCount world.ledger.params dataShardCount parityShardCount = .ok () := by
    rw [checkShardCount_exact, if_neg]
    rw [not_or, not_lt, not_lt]
    exact ⟨least, most⟩
  rw [← shardSize_eq_ceilDiv] at small
  obtain ⟨published, after, ran, -⟩ := publish_accepts order publisher blob dataShardCount parityShardCount tag world
    tagged known some_data ⟨serves.faults, serves.willing protocol⟩ room inside small
  exact ⟨published, congrArg Prod.fst ran⟩

theorem publish_refused_served (publisher : Publisher)
    (refused : refusal? publisher.store.registry world.ledger.params blob.length dataShardCount.toNat
      parityShardCount.toNat tag = some err) :
    (Attempt.runIn (World.environment order) (publish publisher blob dataShardCount parityShardCount tag) world).1 =
        .error err ∧
      Attempt.transcript (World.environment order) (publish publisher blob dataShardCount parityShardCount tag) world =
        heardBefore world.ledger.params err :=
  publish_refused (ask_willing order .params serves.faults) refused

end

end Publish

namespace Http

theorem Status.ofPublish_of_refused {registry : Storage.Registry} {params : Chain.Params} {length data parity : Nat}
    {tag : String} {err : Publish.Error}
    (refused : Publish.refusal? registry params length data parity tag = some err) : ofPublish err = 400 := by
  rcases Publish.refusal?_cases refused with rfl | ⟨_, rfl⟩ | rfl | ⟨_, _, _, rfl⟩ | ⟨_, _, rfl⟩ <;> rfl

theorem status_publishBlob (order : World → (workers : Nat) → Order workers) {world : World} (serves : world.Serves)
    (node : Node) (blob : Bytes) (dataShardCount parityShardCount : UInt64) (protocol : String) :
    ((Handler.publishBlob node blob dataShardCount parityShardCount protocol).runIn (World.environment order)
        world).1.status =
      if (Publish.refusal? node.publisher.store.registry world.ledger.params blob.length dataShardCount.toNat
        parityShardCount.toNat protocol).isNone
      then 200 else 400 := by
  rw [Handler.publishBlob, respond_runIn]
  cases refusal : Publish.refusal? node.publisher.store.registry world.ledger.params blob.length
      dataShardCount.toNat parityShardCount.toNat protocol with
  | none =>
    obtain ⟨published, ran⟩ := Publish.publish_accepted order serves node.publisher refusal
    rw [ran]
    rfl
  | some err =>
    rw [(Publish.publish_refused_served order serves node.publisher refusal).1]
    exact Status.ofPublish_of_refused refusal

theorem status_publish (order : World → (workers : Nat) → Order workers) {world : World} (serves : world.Serves)
    (router : Router) (node : Node) {request : Request} {publication : Input.Publication} {blob : Bytes}
    (method : request.method = "POST") (path : request.path = "/api/publish")
    (read : Input.publication request = .ok publication)
    (decoded : Base64.decode (Bytes.ofText publication.blob) = .ok blob) :
    ((router.answer node request).runIn (World.environment order) world).1.status =
      if (Publish.refusal? node.publisher.store.registry world.ledger.params blob.length
        publication.dataShardCount.toNat publication.parityShardCount.toNat publication.protocol).isNone
      then 200 else 400 := by
  have route : Route.ofPath? request.path = some .publish := by
    rw [path]
    rfl
  have bytes : decodeBase64 "Blob" publication.blob = .ok blob := by
    unfold decodeBase64
    rw [decoded]
    rfl
  have handled : Route.handle node request .publish = Handler.publishBlob node blob publication.dataShardCount
      publication.parityShardCount publication.protocol := by
    unfold Route.handle Handler.publish
    rw [read]
    unfold withInput
    simp only [bytes]
  rw [status_routed _ router node route (by rw [method]; rfl) (by rw [method]; decide), handled]
  exact status_publishBlob order serves node blob _ _ _

end Http

/-- A publish is accepted exactly when its network, its shard counts and its shard size are, and otherwise refused for
the first of them that is not, before anything is stored or broadcast. So neither the code nor the size of the metadata
can fail it, and the route answers with 200 or 400. -/
theorem Publish.publish_accepts_exactly (order : World → (workers : Nat) → Order workers) {world : World}
    (serves : world.Serves) (publisher : Publisher) (blob : Bytes) (dataShardCount parityShardCount : UInt64)
    (tag : String) :
    ((∃ published, (Attempt.runIn (World.environment order)
        (publish publisher blob dataShardCount parityShardCount tag) world).1 = .ok published) ↔
      ∃ protocol, Protocol.ofTag? tag = some protocol ∧ protocol ∈ publisher.store.registry ∧
        1 ≤ dataShardCount.toNat ∧
        world.ledger.params.minShardCount.toNat ≤ dataShardCount.toNat + parityShardCount.toNat ∧
        dataShardCount.toNat + parityShardCount.toNat ≤ Nat.min world.ledger.params.maxShardCount.toNat 256 ∧
        max 1 (blob.length ⌈/⌉ dataShardCount.toNat) ≤ world.ledger.params.maxShardSize.toNat) ∧
    (∀ err, (Attempt.runIn (World.environment order)
        (publish publisher blob dataShardCount parityShardCount tag) world).1 = .error err ↔
      refusal? publisher.store.registry world.ledger.params blob.length dataShardCount.toNat parityShardCount.toNat
        tag = some err) ∧
    (∀ err, (Attempt.runIn (World.environment order)
        (publish publisher blob dataShardCount parityShardCount tag) world).1 = .error err →
      Attempt.transcript (World.environment order) (publish publisher blob dataShardCount parityShardCount tag) world =
          heardBefore world.ledger.params err ∧
        (∀ cause, err ≠ .codec cause) ∧ ∀ cause, err ≠ .storage (.wire cause)) ∧
    ∀ (router : Http.Router) (node : Node) (request : Http.Request) (publication : Http.Input.Publication)
      (content : Bytes), request.method = "POST" → request.path = "/api/publish" →
      Http.Input.publication request = .ok publication →
      Base64.decode (Bytes.ofText publication.blob) = .ok content →
        ((router.answer node request).runIn (World.environment order) world).1.status =
          if (refusal? node.publisher.store.registry world.ledger.params content.length
            publication.dataShardCount.toNat publication.parityShardCount.toNat publication.protocol).isNone
          then 200 else 400 := by
  have accepts : (∃ published, (Attempt.runIn (World.environment order)
        (publish publisher blob dataShardCount parityShardCount tag) world).1 = .ok published) ↔
      refusal? publisher.store.registry world.ledger.params blob.length dataShardCount.toNat parityShardCount.toNat
        tag = none := by
    refine ⟨?_, publish_accepted order serves publisher⟩
    rintro ⟨published, ran⟩
    refine Option.eq_none_iff_forall_ne_some.mpr fun err refused => ?_
    rw [(publish_refused_served order serves publisher refused).1] at ran
    cases ran
  have refuses (err : Error) : (Attempt.runIn (World.environment order)
        (publish publisher blob dataShardCount parityShardCount tag) world).1 = .error err ↔
      refusal? publisher.store.registry world.ledger.params blob.length dataShardCount.toNat parityShardCount.toNat
        tag = some err := by
    refine ⟨fun failed => ?_, fun refused => (publish_refused_served order serves publisher refused).1⟩
    cases refusal : refusal? publisher.store.registry world.ledger.params blob.length dataShardCount.toNat
        parityShardCount.toNat tag with
    | none =>
      obtain ⟨published, ran⟩ := accepts.mpr refusal
      rw [ran] at failed
      cases failed
    | some other =>
      rw [(publish_refused_served order serves publisher refusal).1] at failed
      exact congrArg some (Except.error.inj failed)
  refine ⟨accepts.trans refusal?_eq_none_iff, refuses, fun err failed => ?_, ?_⟩
  · have refused := (refuses err).mp failed
    exact ⟨(publish_refused_served order serves publisher refused).2, ne_of_refused refused⟩
  · intro router node request publication content method path read decoded
    exact Http.status_publish order serves router node method path read decoded

/-- Three bytes on two data shards and one more are accepted, on eight and one more they are not. -/
theorem Publish.publish_accepts_exactly_up_to_eight :
    let publisher : Publisher := { store := { registry := [.ipfs] }, sender := "publisher" }
    World.blank.Serves ∧
      (∃ published, (Attempt.runIn (World.environment World.inOrder) (publish publisher [1, 2, 3] 2 1 "ipfs")
        .blank).1 = .ok published) ∧
      (Attempt.runIn (World.environment World.inOrder) (publish publisher [1, 2, 3] 8 1 "ipfs") .blank).1 =
        .error (.shardCountOutOfBounds 9 1 8) := by
  intro publisher
  refine ⟨World.serves_blank, ?_, ?_⟩
  · have accepts := publish_accepts_exactly World.inOrder World.serves_blank publisher [1, 2, 3] 2 1 "ipfs"
    refine accepts.1.mpr ⟨.ipfs, by decide, by decide, by decide, by decide, by decide, ?_⟩
    rw [Nat.ceilDiv_eq_add_pred_div]
    decide
  · have accepts := publish_accepts_exactly World.inOrder World.serves_blank publisher [1, 2, 3] 8 1 "ipfs"
    exact (accepts.2.1 _).mpr rfl

end Availability
