import Availability.Proofs.Environment
import Availability.Proofs.Except
import Availability.Store

namespace Availability

theorem Storage.backend_eq_ok {registry : Registry} {protocol found : Protocol}
    (known : registry.backend protocol = .ok found) : found = protocol ∧ protocol ∈ registry := by
  unfold Registry.backend at known
  split at known
  · rename_i member
    cases known
    exact ⟨rfl, member⟩
  · cases known

namespace Store

open Storage (Error)

variable {σ : Type}

def target (store : Store) (uri : String) : Except Error (Protocol × String) :=
  (store.registry.backendForUri uri).map (·, uri)

def targetAt (store : Store) (shardUris : List String) (index : Nat) : Except Error (Protocol × String) :=
  store.target (shardUris.getD index "")

theorem locate_eq_ok (shardUris : List String) {indices : List Nat}
    (inside : ∀ index ∈ indices, index < shardUris.length) :
    locate shardUris indices = .ok (indices.map fun index => (index, shardUris.getD index "")) := by
  induction indices with
  | nil => rfl
  | cons index rest ih =>
    have first : index < shardUris.length := inside index (by simp)
    rw [locate, List.getElem?_eq_getElem first]
    simp only
    rw [ih fun other member => inside other (List.mem_cons_of_mem _ member)]
    simp [Except.map, first]

theorem map_getD_range (shardUris : List String) :
    (List.range shardUris.length).map (fun index => shardUris.getD index "") = shardUris := by
  apply List.ext_getElem (by simp)
  intro index _ inside
  simp [inside]

theorem locate_eq_error {shardUris : List String} {indices : List Nat} {index : Nat}
    (first : indices.find? (shardUris.length ≤ ·) = some index) :
    locate shardUris indices = .error (.notFound s!"shard {index}") := by
  induction indices with
  | nil => cases first
  | cons head rest ih =>
    by_cases outside : shardUris.length ≤ head
    · rw [List.find?_cons_of_pos (by simpa using outside)] at first
      cases first
      rw [locate, List.getElem?_eq_none outside]
    · rw [List.find?_cons_of_neg (by simpa using outside)] at first
      rw [locate, List.getElem?_eq_getElem (Nat.lt_of_not_le outside), ih first]
      rfl

theorem fetchShards_of_inside (store : Store) {shardUris : List String} {indices : List Nat}
    (inside : ∀ index ∈ indices, index < shardUris.length) (policy : Indexed.Policy) :
    store.fetchShards shardUris indices policy =
      ExceptT.lift (Program.retrieveAll (indices.map (store.targetAt shardUris)) store.retrieveTimeout .done) >>=
        fun answers => Attempt.ofExcept (Indexed.join policy (indices.zip answers)) := by
  unfold fetchShards
  rw [locate_eq_ok shardUris inside]
  have targets : (indices.map fun index => (index, shardUris.getD index "")).map
      (fun entry => (store.registry.backendForUri entry.2).map (·, entry.2)) =
        indices.map (store.targetAt shardUris) := by
    rw [List.map_map]
    rfl
  exact congrArg (fun targets => ExceptT.lift (Program.retrieveAll targets store.retrieveTimeout .done) >>= _) targets

theorem map_targetAt_range (store : Store) (shardUris : List String) :
    (List.range shardUris.length).map (store.targetAt shardUris) = shardUris.map store.target := by
  conv_rhs => rw [← map_getD_range shardUris, List.map_map]
  rfl

theorem fetchShards_eq (store : Store) (shardUris : List String) (policy : Indexed.Policy) :
    store.fetchShards shardUris (List.range shardUris.length) policy =
      ExceptT.lift (Program.retrieveAll (shardUris.map store.target) store.retrieveTimeout .done) >>= fun answers =>
        Attempt.ofExcept (Indexed.join policy ((List.range shardUris.length).zip answers)) := by
  rw [store.fetchShards_of_inside (fun index member => List.mem_range.mp member), map_targetAt_range]

/-- Shards that are all fetched come with their positions, whatever order their workers end in. -/
theorem fetchShards_range (env : Environment σ) (store : Store) (shardUris : List String)
    (policy : Indexed.Policy) (state : σ) :
    Attempt.runIn env (store.fetchShards shardUris (List.range shardUris.length) policy) state =
      (Indexed.join policy
          (Indexed.collect (env.retrieveAll store.retrieveTimeout (shardUris.map store.target) state).1),
        (env.retrieveAll store.retrieveTimeout (shardUris.map store.target) state).2) := by
  have complete := env.retrieveAll_complete store.retrieveTimeout (shardUris.map store.target) state
  rw [List.length_map] at complete
  rw [fetchShards_eq]
  simp only [Attempt.runIn_bind, Attempt.runIn_lift, Attempt.runIn_ofExcept, Program.runIn]
  rw [← Indexed.collect_positions complete, ← List.unzip_fst, ← List.unzip_snd, List.zip_unzip]

theorem fetchShards_tolerate (env : Environment σ) (store : Store) (shardUris : List String) (state : σ) :
    Attempt.runIn env (store.fetchShards shardUris (List.range shardUris.length) .tolerate) state =
      (.ok (Indexed.succeeded
          (Indexed.collect (env.retrieveAll store.retrieveTimeout (shardUris.map store.target) state).1)),
        (env.retrieveAll store.retrieveTimeout (shardUris.map store.target) state).2) := by
  rw [fetchShards_range, Indexed.join_tolerate]

theorem registered_of_runIn {env : Environment σ} {store : Store} {protocol : Protocol} {α : Type} {value : α}
    {rest : Protocol → Attempt Error α} {state after : σ}
    (ran : Attempt.runIn env (Attempt.ofExcept (store.registry.backend protocol) >>= rest) state = (.ok value, after)) :
    protocol ∈ store.registry := by
  obtain ⟨found, _, known, -⟩ := Attempt.runIn_bind_eq_ok.mp ran
  exact (Storage.backend_eq_ok (congrArg Prod.fst known)).2

theorem runIn_publishShards (env : Environment σ) {store : Store} {protocol : Protocol}
    (registered : protocol ∈ store.registry) (shards : List Bytes) (state : σ) :
    Attempt.runIn env (store.publishShards protocol shards) state =
      ((Indexed.join .abort (Indexed.collect (env.storeAll protocol shards state).1)).map (·.map (·.2)),
        (env.storeAll protocol shards state).2) := by
  have backend : store.registry.backend protocol = .ok protocol := if_pos registered
  unfold publishShards
  rw [Attempt.runIn_bind, Attempt.runIn_ofExcept, backend]
  simp only
  rw [Attempt.runIn_bind, Attempt.runIn_lift]
  simp only [Program.runIn, Attempt.runIn_bind_pure, Attempt.runIn_ofExcept,
    Indexed.zipIdx_collect (env.storeAll_complete protocol shards state)]

theorem publishShards_eq_ok {env : Environment σ} {store : Store} {protocol : Protocol} {shards : List Bytes}
    {uris : List String} {state after : σ}
    (ran : Attempt.runIn env (store.publishShards protocol shards) state = (.ok uris, after)) :
    after = (env.storeAll protocol shards state).2 ∧ uris.length = shards.length ∧
      ∀ position uri, uris[position]? = some uri → (position, .ok uri) ∈ (env.storeAll protocol shards state).1 := by
  have registered := registered_of_runIn ran
  rw [runIn_publishShards env registered, Prod.mk.injEq] at ran
  obtain ⟨uploaded, rfl⟩ := ran
  exact ⟨rfl, Indexed.values_of_collect (env.storeAll_complete protocol shards state) uploaded⟩

theorem publishMetadata_eq_ok {env : Environment σ} {store : Store} {protocol : Protocol} {metadata : Metadata}
    {uri : String} {state after : σ}
    (ran : Attempt.runIn env (store.publishMetadata protocol metadata) state = (.ok uri, after)) :
    ∃ bytes, metadata.toBytes = .ok bytes ∧ env.perform state (.store protocol bytes) = (.ok uri, after) := by
  unfold publishMetadata at ran
  obtain ⟨found, _, known, ran⟩ := Attempt.runIn_bind_eq_ok.mp ran
  obtain ⟨bytes, _, written, ran⟩ := Attempt.runIn_bind_eq_ok.mp ran
  rw [Attempt.runIn_ofExcept, Prod.mk.injEq] at known written
  obtain ⟨known, rfl⟩ := known
  obtain ⟨rfl, -⟩ := Storage.backend_eq_ok known
  rw [Except.mapError_eq_ok] at written
  obtain ⟨written, rfl⟩ := written
  exact ⟨bytes, written, ran⟩

end Store

end Availability
