import Availability.Proofs.Retrieve.Settled
import Availability.Proofs.Storage.Placed

namespace Availability

open Storage (Error)

def Event.retrieval? (limit : Duration) : Except Error (Protocol × String) → Except Error Bytes → Option Event
  | .ok (protocol, uri), answer => some ⟨.retrieve protocol uri limit, answer⟩
  | .error _, _ => none

namespace Environment

variable {σ α β : Type} {env : Environment σ} {limit : Duration} {state : σ}

theorem mem_finish {work : α → σ → β × σ} {entries : List (Nat × α)} {position : Nat} {result : β}
    (member : (position, result) ∈ (finish work entries state).1) :
    ∃ item before, (position, item) ∈ entries ∧ result = (work item before).1 := by
  induction entries generalizing state with
  | nil => cases member
  | cons entry rest ih =>
    rcases List.mem_cons.mp member with same | later
    · cases same
      exact ⟨entry.2, state, List.mem_cons_self, rfl⟩
    · obtain ⟨item, before, queued, answered⟩ := ih later
      exact ⟨item, before, List.mem_cons_of_mem _ queued, answered⟩

theorem storeEvents_eq_map {protocol : Protocol} {entries : List (Nat × Bytes)} (object : Nat → Bytes)
    (each : ∀ entry ∈ entries, entry.2 = object entry.1) :
    env.storeEvents protocol entries state =
      (finish (env.store protocol) entries state).1.map fun entry => ⟨.store protocol (object entry.1), entry.2⟩ := by
  induction entries generalizing state with
  | nil => rfl
  | cons entry rest ih =>
    obtain ⟨first, later⟩ := List.forall_mem_cons.mp each
    obtain ⟨position, item⟩ := entry
    obtain rfl : item = object position := first
    simp only [storeEvents, finish, List.map_cons, ih later]
    rfl

theorem retrieveEvents_eq_filterMap {entries : List (Nat × Except Error (Protocol × String))}
    (target : Nat → Except Error (Protocol × String)) (each : ∀ entry ∈ entries, entry.2 = target entry.1) :
    env.retrieveEvents limit entries state =
      (finish (env.retrieve limit) entries state).1.filterMap fun entry =>
        Event.retrieval? limit (target entry.1) entry.2 := by
  induction entries generalizing state with
  | nil => rfl
  | cons entry rest ih =>
    obtain ⟨first, later⟩ := List.forall_mem_cons.mp each
    obtain ⟨position, err | ⟨protocol, uri⟩⟩ := entry
    · simp only [retrieveEvents, finish, List.filterMap_cons, ← first, Event.retrieval?, ih later]
      rfl
    · simp only [retrieveEvents, finish, List.filterMap_cons, ← first, Event.retrieval?, ih later]
      rfl

/-- Every object is handed over once, and its answer is at its position. -/
theorem storeEvents_perm (env : Environment σ) (protocol : Protocol) (objects : List Bytes) (state : σ) :
    (env.storeEvents protocol (env.queue objects state) state).Perm
      ((objects.zip ((Indexed.collect (env.storeAll protocol objects state).1).map (·.2))).map
        fun (object, answer) => ⟨.store protocol object, answer⟩) := by
  have each : ∀ entry ∈ env.queue objects state, entry.2 = objects.getD entry.1 [] := by
    rintro ⟨position, object⟩ queued
    simp [mem_queue.mp queued]
  rw [storeEvents_eq_map (objects.getD · []) each,
    ← Indexed.collect_map_item (env.storeAll_complete protocol objects state) [], List.map_map]
  exact (Indexed.collect_perm _).symm.map _

theorem retrieveEvents_perm {ι : Type} (env : Environment σ) (limit : Duration) (items : List ι) (fallback : ι)
    (target : ι → Except Error (Protocol × String)) (state : σ) :
    (env.retrieveEvents limit (env.queue (items.map target) state) state).Perm
      ((items.zip ((Indexed.collect (env.retrieveAll limit (items.map target) state).1).map (·.2))).filterMap
        fun (item, answer) => Event.retrieval? limit (target item) answer) := by
  have each : ∀ entry ∈ env.queue (items.map target) state, entry.2 = target (items.getD entry.1 fallback) := by
    rintro ⟨position, found⟩ queued
    have listed := mem_queue.mp queued
    rw [List.getElem?_map, Option.map_eq_some_iff] at listed
    obtain ⟨item, here, rfl⟩ := listed
    simp [here]
  have complete := env.retrieveAll_complete limit (items.map target) state
  rw [List.length_map] at complete
  rw [retrieveEvents_eq_filterMap (fun position => target (items.getD position fallback)) each,
    ← Indexed.collect_map_item complete fallback, List.filterMap_map]
  exact (Indexed.collect_perm _).symm.filterMap _

/-- A target without a network is not asked for, and its worker comes back with the reason. -/
theorem failed_of_retrieveAll {targets : List (Except Error (Protocol × String))} {position : Nat} {err : Error}
    (unknown : targets[position]? = some (.error err)) :
    ((Indexed.collect (env.retrieveAll limit targets state).1).map (·.2))[position]? = some (.error err) := by
  have complete := env.retrieveAll_complete limit targets state
  have inside : position < targets.length := (List.getElem?_eq_some_iff.mp unknown).1
  obtain ⟨⟨_, answer⟩, ended, rfl⟩ := List.mem_map.mp (complete.mem_iff.mpr (List.mem_range.mpr inside))
  rw [Indexed.getElem?_collect complete]
  obtain ⟨target, before, queued, rfl⟩ := mem_finish ended
  rw [mem_queue.mp queued] at unknown
  cases unknown
  exact ended

end Environment

theorem World.answers_retrieveAll (order : World → (workers : Nat) → Order workers) (limit : Duration)
    (targets : List (Except Error (Protocol × String))) (world : World) :
    (Indexed.collect ((environment order).retrieveAll limit targets world).1).map (·.2) =
      targets.map (world.lookup limit) := by
  have complete := (environment order).retrieveAll_complete limit targets world
  apply List.ext_getElem?
  intro position
  ext result
  rw [Indexed.getElem?_collect complete, mem_retrieveAll, List.getElem?_map, Option.map_eq_some_iff]

namespace Store

/-- What an upload of shards comes to when its workers are answered so: the uris in the order of the shards, or the
failure of the first shard that failed. -/
structure Uploaded (protocol : Protocol) (shards : List Bytes) (answers : List (Except Error String))
    (heard : Transcript) (result : Except Error (List String)) : Prop where
  complete : answers.length = shards.length
  heard : heard.Perm ((shards.zip answers).map fun (shard, answer) => ⟨.store protocol shard, answer⟩)
  ok : ∀ uris, result = .ok uris ↔ answers = uris.map .ok
  error : ∀ err, result = .error err ↔ Indexed.FirstFailure answers err

structure Fetched (store : Store) (shardUris : List String) (indices : List Nat) (policy : Indexed.Policy)
    (answers : List (Except Error Bytes)) (heard : Transcript) (result : Except Error (List (Nat × Bytes))) : Prop where
  complete : answers.length = indices.length
  heard : heard.Perm ((indices.zip answers).filterMap fun (index, answer) =>
    Event.retrieval? store.retrieveTimeout (store.targetAt shardUris index) answer)
  unowned : ∀ (position index : Nat) (err : Error), indices[position]? = some index →
    store.targetAt shardUris index = .error err → answers[position]? = some (.error err)
  tolerated : policy = .tolerate → result = .ok (Indexed.succeeded (indices.zip answers))
  aborted : policy = .abort →
    (∀ shards, result = .ok shards ↔ indices.zip answers = shards.map fun (index, bytes) => (index, .ok bytes)) ∧
      ∀ err, result = .error err ↔ Indexed.FirstFailure answers err

section

variable {σ : Type} (env : Environment σ) (store : Store) {protocol : Protocol} (state : σ)

theorem publishShards_unregistered (unregistered : protocol ∉ store.registry) (shards : List Bytes) :
    Attempt.runIn env (store.publishShards protocol shards) state = (.error (.backendUnavailable protocol), state) ∧
      Attempt.transcript env (store.publishShards protocol shards) state = [] := by
  have backend : store.registry.backend protocol = .error (.backendUnavailable protocol) := if_neg unregistered
  unfold publishShards
  rw [backend]
  exact ⟨rfl, rfl⟩

theorem publishShards_uploaded (registered : protocol ∈ store.registry) (shards : List Bytes) :
    ∃ answers, Uploaded protocol shards answers (Attempt.transcript env (store.publishShards protocol shards) state)
      (Attempt.runIn env (store.publishShards protocol shards) state).1 := by
  have complete := env.storeAll_complete protocol shards state
  have told : Attempt.transcript env (store.publishShards protocol shards) state =
      env.storeEvents protocol (env.queue shards state) state := by
    have backend : store.registry.backend protocol = .ok protocol := if_pos registered
    unfold publishShards
    rw [backend]
    refine (Attempt.transcript_bind_of_ok env (Attempt.runIn_ofExcept env _ state) _).trans ?_
    rw [Attempt.transcript_bind_of_ok env (Attempt.runIn_lift env _ state), Attempt.transcript_bind_pure,
      Attempt.transcript_lift]
    exact (List.append_nil _).trans (List.append_nil _)
  refine ⟨(Indexed.collect (env.storeAll protocol shards state).1).map (·.2), ?_, ?_, fun uris => ?_, fun err => ?_⟩
  · rw [List.length_map, Indexed.length_collect complete]
  · exact told ▸ env.storeEvents_perm protocol shards state
  · rw [runIn_publishShards env registered, Indexed.join_abort_values_iff]
  · rw [runIn_publishShards env registered, Except.map_eq_error, Indexed.join_abort_eq_error_iff]

section

variable {shardUris : List String} {indices : List Nat}

theorem fetchShards_outside {index : Nat} (first : indices.find? (shardUris.length ≤ ·) = some index)
    (policy : Indexed.Policy) :
    Attempt.runIn env (store.fetchShards shardUris indices policy) state =
        (.error (.notFound s!"shard {index}"), state) ∧
      Attempt.transcript env (store.fetchShards shardUris indices policy) state = [] := by
  unfold fetchShards
  rw [locate_eq_error first]
  exact ⟨rfl, rfl⟩

variable (inside : ∀ index ∈ indices, index < shardUris.length) (policy : Indexed.Policy)
include inside

theorem runIn_fetchShards :
    (Attempt.runIn env (store.fetchShards shardUris indices policy) state).1 =
      Indexed.join policy (indices.zip ((Indexed.collect (env.retrieveAll store.retrieveTimeout
        (indices.map (store.targetAt shardUris)) state).1).map (·.2))) := by
  rw [store.fetchShards_of_inside inside, Attempt.runIn_bind, Attempt.runIn_lift]
  rfl

theorem transcript_fetchShards :
    Attempt.transcript env (store.fetchShards shardUris indices policy) state =
      env.retrieveEvents store.retrieveTimeout
        (env.queue (indices.map (store.targetAt shardUris)) state) state := by
  rw [store.fetchShards_of_inside inside, Attempt.transcript_bind_of_ok env (Attempt.runIn_lift env _ state),
    Attempt.transcript_lift]
  exact (List.append_nil _).trans (List.append_nil _)

theorem fetchShards_fetched :
    Fetched store shardUris indices policy
      ((Indexed.collect (env.retrieveAll store.retrieveTimeout
        (indices.map (store.targetAt shardUris)) state).1).map (·.2))
      (Attempt.transcript env (store.fetchShards shardUris indices policy) state)
      (Attempt.runIn env (store.fetchShards shardUris indices policy) state).1 := by
  have complete := env.retrieveAll_complete store.retrieveTimeout
    (indices.map (store.targetAt shardUris)) state
  rw [List.length_map] at complete
  have length := Indexed.length_collect complete
  constructor
  case complete => rw [List.length_map, length]
  case heard =>
    rw [transcript_fetchShards env store state inside]
    exact env.retrieveEvents_perm store.retrieveTimeout indices 0 (store.targetAt shardUris) state
  case unowned =>
    intro position index err listed unowned
    apply env.failed_of_retrieveAll
    rw [List.getElem?_map, listed, Option.map_some, unowned]
  case tolerated =>
    rintro rfl
    rw [runIn_fetchShards env store state inside, Indexed.join_tolerate]
  case aborted =>
    rintro rfl
    rw [runIn_fetchShards env store state inside]
    refine ⟨fun shards => Indexed.join_abort_eq_ok_iff, fun err => ?_⟩
    rw [Indexed.join_abort_eq_error_iff, List.map_snd_zip (by rw [List.length_map, length])]

end

end

theorem Uploaded.stored {protocol : Protocol} {shards : List Bytes} {answers : List (Except Error String)}
    {heard : Transcript} {uris : List String} (uploaded : Uploaded protocol shards answers heard (.ok uris)) :
    uris.length = shards.length ∧ ∀ (index : Nat) (shard : Bytes) (uri : String), shards[index]? = some shard →
      uris[index]? = some uri → ⟨.store protocol shard, .ok uri⟩ ∈ heard := by
  have every := (uploaded.ok uris).mp rfl
  refine ⟨by rw [← uploaded.complete, every, List.length_map], fun index shard uri kept listed => ?_⟩
  have answered : answers[index]? = some (.ok uri) := by rw [every, List.getElem?_map, listed, Option.map_some]
  have entry : (shards.zip answers)[index]? = some (shard, .ok uri) := List.getElem?_zip_eq_some.mpr ⟨kept, answered⟩
  exact uploaded.heard.mem_iff.mpr (List.mem_map_of_mem (List.mem_of_getElem? entry))

theorem Fetched.silent {store : Store} {shardUris : List String} {indices : List Nat} {policy : Indexed.Policy}
    {answers : List (Except Error Bytes)} {result : Except Error (List (Nat × Bytes))}
    (fetched : Fetched store shardUris indices policy answers [] result) (missing : String) :
    result ≠ .error (.notFound missing) := by
  rintro rfl
  cases policy with
  | tolerate => cases fetched.tolerated rfl
  | abort =>
    obtain ⟨position, failed, -⟩ := ((fetched.aborted rfl).2 _).mp rfl
    have within : position < indices.length := fetched.complete ▸ (List.getElem?_eq_some_iff.mp failed).1
    obtain ⟨index, listed⟩ : ∃ index, indices[position]? = some index := ⟨_, List.getElem?_eq_getElem within⟩
    cases located : store.targetAt shardUris index with
    | error err =>
      have answered := fetched.unowned position index err listed located
      rw [failed] at answered
      cases answered
      exact Storage.backendForUri_ne_notFound _ _ _ (Except.map_eq_error.mp located)
    | ok owned =>
      have entry : (indices.zip answers)[position]? = some (index, .error (.notFound missing)) :=
        List.getElem?_zip_eq_some.mpr ⟨listed, failed⟩
      have asked := List.filterMap_eq_nil_iff.mp fetched.heard.nil_eq.symm _ (List.mem_of_getElem? entry)
      simp only [located] at asked
      cases asked

theorem fetchShards_notFound_iff {σ : Type} (env : Environment σ) (store : Store) (shardUris : List String)
    (indices : List Nat) (policy : Indexed.Policy) (state : σ) :
    (Attempt.transcript env (store.fetchShards shardUris indices policy) state = [] ∧ ∃ missing,
        (Attempt.runIn env (store.fetchShards shardUris indices policy) state).1 = .error (.notFound missing)) ↔
      ∃ index ∈ indices, shardUris.length ≤ index := by
  constructor
  · rintro ⟨silent, missing, failed⟩
    by_contra! inside
    have fetched := fetchShards_fetched env store state inside policy
    rw [silent] at fetched
    exact fetched.silent missing failed
  · rintro ⟨outside, member, beyond⟩
    obtain ⟨index, first⟩ : ∃ index, indices.find? (shardUris.length ≤ ·) = some index :=
      Option.isSome_iff_exists.mp (List.find?_isSome.mpr ⟨outside, member, by simpa using beyond⟩)
    obtain ⟨ran, silent⟩ := fetchShards_outside env store state first policy
    exact ⟨silent, _, congrArg Prod.fst ran⟩

/-- Uris are in the order of their shards and objects at the uris of their shards, whatever order the uploads end in;
shards are fetched in the order of their indices. A call that fails has the failure of its first shard, unless the
network is not there or an index is out of range, when nothing is asked of any network. -/
theorem shards_keep_their_indices {σ : Type} (env : Environment σ) (store : Store) (state : σ) :
    (∀ (protocol : Protocol) (shards : List Bytes),
      (protocol ∉ store.registry →
        Attempt.runIn env (store.publishShards protocol shards) state = (.error (.backendUnavailable protocol), state) ∧
          Attempt.transcript env (store.publishShards protocol shards) state = []) ∧
      (protocol ∈ store.registry →
        ∃ answers, Uploaded protocol shards answers (Attempt.transcript env (store.publishShards protocol shards) state)
          (Attempt.runIn env (store.publishShards protocol shards) state).1) ∧
      ∀ (uris : List String) (world : World) (told : Transcript) (after : Busy),
        (Attempt.runIn env (store.publishShards protocol shards) state).1 = .ok uris →
        Attempt.transcript env (store.publishShards protocol shards) state ⊆ told → Busy.Run { world } told after →
          uris.length = shards.length ∧ ∀ (index : Nat) (shard : Bytes) (uri : String),
            shards[index]? = some shard → uris[index]? = some uri → after.world.object? protocol uri = some shard) ∧
    ∀ (shardUris : List String) (indices : List Nat) (policy : Indexed.Policy),
      ((Attempt.transcript env (store.fetchShards shardUris indices policy) state = [] ∧
          ∃ missing, (Attempt.runIn env (store.fetchShards shardUris indices policy) state).1 =
            .error (.notFound missing)) ↔
        ∃ index ∈ indices, shardUris.length ≤ index) ∧
      ((∀ index ∈ indices, index < shardUris.length) →
        (∃ answers, Fetched store shardUris indices policy answers
          (Attempt.transcript env (store.fetchShards shardUris indices policy) state)
          (Attempt.runIn env (store.fetchShards shardUris indices policy) state).1) ∧
        ∀ (order : World → (workers : Nat) → Order workers) (world : World),
          Fetched store shardUris indices policy
            (indices.map fun index => world.lookup store.retrieveTimeout (store.targetAt shardUris index))
            (Attempt.transcript (World.environment order) (store.fetchShards shardUris indices policy) world)
            (Attempt.runIn (World.environment order) (store.fetchShards shardUris indices policy) world).1) := by
  constructor
  · intro protocol shards
    refine ⟨fun unregistered => publishShards_unregistered env store state unregistered shards,
      fun registered => publishShards_uploaded env store state registered shards, ?_⟩
    intro uris world told after ran within run
    have registered : protocol ∈ store.registry := by
      by_contra unregistered
      rw [(publishShards_unregistered env store state unregistered shards).1] at ran
      cases ran
    obtain ⟨answers, uploaded⟩ := publishShards_uploaded env store state registered shards
    rw [ran] at uploaded
    obtain ⟨length, stored⟩ := uploaded.stored
    refine ⟨length, fun index shard uri kept listed => ?_⟩
    exact (run.placed (Busy.numbered_of_idle world) (within (stored index shard uri kept listed))).found
  · intro shardUris indices policy
    refine ⟨fetchShards_notFound_iff env store shardUris indices policy state, fun inside => ⟨?_, ?_⟩⟩
    · exact ⟨_, fetchShards_fetched env store state inside policy⟩
    intro order world
    have fetched := fetchShards_fetched (World.environment order) store world inside policy
    rwa [World.answers_retrieveAll, List.map_map] at fetched

/-- Two uploads that take their numbers before either ends, the second of which ends first. -/
theorem shards_keep_their_indices_overlapping :
    let store : Store := { registry := [.ipfs] }
    let first := Storage.Memory.uriOf .ipfs [1] 0
    let second := Storage.Memory.uriOf .ipfs [2] 1
    let told : Transcript := [⟨.store .ipfs [2], .ok second⟩, ⟨.store .ipfs [1], .ok first⟩]
    (Attempt.runIn (World.environment World.inOrder) (store.publishShards .ipfs [[1], [2]]) .blank).1 =
        .ok [first, second] ∧
      ∃ after, Busy.Run { world := .blank } told after ∧ after.world.object? .ipfs first = some [1] ∧
        after.world.object? .ipfs second = some [2] := by
  intro store first second told
  have ran : (Attempt.runIn (World.environment World.inOrder) (store.publishShards .ipfs [[1], [2]]) .blank).1 =
      .ok [first, second] := rfl
  have heard : Attempt.transcript (World.environment World.inOrder) (store.publishShards .ipfs [[1], [2]]) .blank =
      [⟨.store .ipfs [1], .ok first⟩, ⟨.store .ipfs [2], .ok second⟩] := rfl
  obtain ⟨after, run⟩ : ∃ after, Busy.Run { world := .blank } told after :=
    ⟨_, .calls .ipfs (.calls .ipfs (.performs (.completes List.mem_cons_self rfl)
      (.performs (.completes List.mem_cons_self rfl) (.done _))))⟩
  have within :
      Attempt.transcript (World.environment World.inOrder) (store.publishShards .ipfs [[1], [2]]) .blank ⊆ told := by
    rw [heard]
    exact (List.Perm.swap _ _ _).subset
  obtain ⟨-, placed⟩ :=
    ((shards_keep_their_indices (World.environment World.inOrder) store .blank).1 .ipfs [[1], [2]]).2.2
      [first, second] .blank told after ran within run
  exact ⟨ran, after, run, placed 0 [1] first rfl rfl, placed 1 [2] second rfl rfl⟩

/-- A network that has no backend fails the upload of no shards at all. -/
theorem publishShards_fails_without_an_upload :
    ¬ ∀ (store : Store) (protocol : Protocol) (shards : List Bytes) (world : World),
      (∃ err, (Attempt.runIn (World.environment World.inOrder) (store.publishShards protocol shards) world).1 =
          .error err) ↔
        ∃ shard err, ⟨.store protocol shard, .error err⟩ ∈
          Attempt.transcript (World.environment World.inOrder) (store.publishShards protocol shards) world := by
  intro fails
  obtain ⟨ran, silent⟩ := publishShards_unregistered (World.environment World.inOrder) { registry := [.ipfs] } .blank
    (show Protocol.arweave ∉ [Protocol.ipfs] by decide) []
  obtain ⟨shard, err, rejected⟩ := (fails { registry := [.ipfs] } .arweave [] .blank).mp ⟨_, congrArg Prod.fst ran⟩
  rw [silent] at rejected
  exact List.not_mem_nil rejected

end Store

end Availability
