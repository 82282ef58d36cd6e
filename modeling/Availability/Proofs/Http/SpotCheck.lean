import Availability.Proofs.Http
import Availability.Proofs.Retrieve.SpotCheck
import Availability.Proofs.Text

namespace Availability

open World (environment)

theorem forall₂_filter_of_filterMap {α β γ : Type} {read? : α → Option β} {wanted : β → Bool} {related : β → γ → Prop}
    {entries : List α} {results : List γ}
    (paired : List.Forall₂ related ((entries.filterMap read?).filter wanted) results) :
    List.Forall₂ (fun entry result => ∃ named, read? entry = some named ∧ related named result)
      (entries.filter fun entry => (read? entry).any wanted) results := by
  induction entries generalizing results with
  | nil => simpa using paired
  | cons entry rest ih =>
    cases read : read? entry with
    | none =>
      rw [List.filterMap_cons_none read] at paired
      rw [List.filter_cons_of_neg (by simp [read])]
      exact ih paired
    | some named =>
      rw [List.filterMap_cons_some read] at paired
      by_cases kept : wanted named = true
      · rw [List.filter_cons_of_pos kept] at paired
        rw [List.filter_cons_of_pos (by simpa [read] using kept)]
        cases paired with
        | cons first others => exact .cons ⟨named, read, first⟩ (ih others)
      · rw [List.filter_cons_of_neg kept] at paired
        rw [List.filter_cons_of_neg (by simpa [read] using kept)]
        exact ih paired

namespace Http

def Input.index? (entry : List Char) : Option Nat :=
  (Decimal.readWord (Text.trim (String.ofList entry))).toOption.map (·.toNat)

theorem Input.indices_eq (list : String) : indices list = (list.toList.splitOn ',').filterMap index? := by
  rw [← Text.split_eq_splitOn]
  rfl

theorem Status.ofRetrieve_ne_ok (err : Retrieve.Error) : ofRetrieve err ≠ 200 := by
  unfold ofRetrieve ofStorage
  split
  · split <;> decide
  · decide

namespace Input

def Refuses {α : Type} (input : Except Response α) : Prop := ∀ response, input = .error response → response.status = 400

theorem Refuses.bind {α β : Type} {input : Except Response α} {next : α → Except Response β}
    (first : Refuses input) (rest : ∀ value, Refuses (next value)) : Refuses (input >>= next) := by
  intro response refused
  cases input with
  | error other => exact first response (congrArg Except.error (Except.error.inj refused))
  | ok value => exact rest value response refused

theorem refuses_single? (pairs : List (String × String)) (name : String) : Refuses (single? pairs name) := by
  intro response refused
  unfold single? at refused
  split at refused
  · cases refused
  · cases refused
  · cases refused
    rfl

theorem refuses_required (pairs : List (String × String)) (name : String) : Refuses (required pairs name) := by
  refine (refuses_single? pairs name).bind fun value => ?_
  rintro response refused
  cases value with
  | none =>
    cases refused
    rfl
  | some value => cases refused

theorem refuses_spotCheck (request : Request) : Refuses (spotCheck request) := by
  refine (refuses_required _ _).bind fun metadataUri => (refuses_single? _ _).bind fun list =>
    (refuses_single? _ _).bind fun name => ?_
  rintro response refused
  cases name with
  | none => cases refused
  | some name =>
    simp only at refused
    split at refused
    · cases refused
    · cases refused
      rfl

theorem spotCheck_eq_ok {request : Request} {check : SpotCheck} (read : spotCheck request = .ok check) :
    ∃ list, single? (Percent.pairs request.query) "indices" = .ok list ∧ check.indices = indices (list.getD "") := by
  obtain ⟨metadataUri, _, read⟩ := Except.bind_eq_ok.mp read
  obtain ⟨list, listed, read⟩ := Except.bind_eq_ok.mp read
  obtain ⟨name, _, read⟩ := Except.bind_eq_ok.mp read
  refine ⟨list, listed, ?_⟩
  cases name with
  | none =>
    cases read
    rfl
  | some name =>
    simp only at read
    split at read
    · cases read
      rfl
    · cases read

end Input

def textsAt? (name : String) (value : Json) : Option (List String) :=
  (value.member? name).bind (Json.toList? Json.toText?)

theorem toList?_texts (items : List String) : Json.toList? Json.toText? (Json.texts items) = some items := by
  induction items with
  | nil => rfl
  | cons item rest ih =>
    change (rest.map Json.text).mapM Json.toText? = some rest at ih
    change (Json.text item :: rest.map Json.text).mapM Json.toText? = _
    rw [List.mapM_cons, ih]
    rfl

theorem textsAt?_shardUris (answer : Retrieve.ShardHashes) :
    textsAt? "shard_uris" (Handler.shardHashesJson answer) = some answer.shardUris :=
  toList?_texts answer.shardUris

theorem textsAt?_shardHashes (answer : Retrieve.ShardHashes) :
    textsAt? "shard_hashes" (Handler.shardHashesJson answer) =
      some (answer.hashes.map fun digest => Base64.encode digest.toBytes) :=
  toList?_texts _

def naming (shardCount : Nat) (list : String) : List (List Char) :=
  (list.toList.splitOn ',').filter fun entry => (Input.index? entry).any (· < shardCount)

section

variable {σ : Type} (env : Environment σ) (router : Router) (node : Node) {request : Request} (state : σ)

theorem shardHashes_answered (gets : request.method = "GET") (path : request.path = "/api/shard_hashes")
    (answered : ((router.answer node request).runIn env state).1.status = 200) :
    ∃ check list value uris hashes,
      Input.spotCheck request = .ok check ∧
      Input.single? (Percent.pairs request.query) "indices" = .ok list ∧
      ((router.answer node request).runIn env state).1.content = .json value ∧
      textsAt? "shard_uris" value = some uris ∧ textsAt? "shard_hashes" value = some hashes ∧
      List.Forall₂ (fun entry text => ∃ index uri shard, Input.index? entry = some index ∧ uris[index]? = some uri ∧
          node.store.Answered ((router.answer node request).transcript env state) uri (.ok shard) ∧
          text = Base64.encode (check.kind.apply shard).toBytes)
        (naming uris.length (list.getD "")) hashes := by
  have route : Route.ofPath? request.path = some .shardHashes := by
    rw [path]
    rfl
  obtain ⟨same, heard⟩ := answer_routed env router node route (by rw [gets]; rfl) gets state
  have handled : Route.handle node request .shardHashes = Handler.shardHashes node request := rfl
  rw [handled, Handler.shardHashes] at same heard
  rw [same] at answered
  cases read : Input.spotCheck request with
  | error response =>
    rw [read] at answered
    have bad : response.status = 400 := Input.refuses_spotCheck request response read
    exact absurd (bad.symm.trans answered) (by decide)
  | ok check =>
    rw [read] at same heard answered
    simp only [withInput] at same heard answered
    rw [transcript_respond] at heard
    rw [respond_runIn] at same answered
    cases ran : (Attempt.runIn env
        (Retrieve.shardHashes node.store check.metadataUri check.indices check.kind) state).1 with
    | error err =>
      rw [ran] at answered
      exact absurd answered (Status.ofRetrieve_ne_ok err)
    | ok answer =>
      rw [ran] at same
      obtain ⟨list, listed, indices⟩ := Input.spotCheck_eq_ok read
      obtain ⟨wanted, follows⟩ := Retrieve.shardHashes_eq_ok env _ _ _ state ran
      rw [indices, Input.indices_eq] at wanted
      rw [wanted] at follows
      refine ⟨check, list, Handler.shardHashesJson answer, answer.shardUris, _, rfl, listed, ?_,
        textsAt?_shardUris answer, textsAt?_shardHashes answer, ?_⟩
      · rw [same]
        rfl
      · rw [heard, List.forall₂_map_right_iff]
        refine (forall₂_filter_of_filterMap follows).imp ?_
        rintro entry digest ⟨index, named, uri, shard, here, told, rfl⟩
        exact ⟨index, uri, shard, named, here, told, rfl⟩

end

end Http

/-- A spot check answers for the request without what is past the last shard, in its order, and each hash is that of the
shard at its own index, whatever order the retrievals end in. Or it fails for the first shard that is not fetched. Over
the network the hashes belong to those entries of the list that name a shard. -/
theorem spotChecks_follow_request {σ : Type} (env : Environment σ) (node : Node) (state : σ) :
    (∀ (metadataUri : String) (indices : List Nat),
      let result (kind : Retrieve.HashKind) :=
        (Attempt.runIn env (Retrieve.shardHashes node.store metadataUri indices kind) state).1
      let heard (kind : Retrieve.HashKind) :=
        Attempt.transcript env (Retrieve.shardHashes node.store metadataUri indices kind) state
      (∀ kind answer, result kind = .ok answer → Retrieve.Follows node.store indices kind (heard kind) answer) ∧
      (∀ metadata, (Attempt.runIn env (node.store.fetchMetadata metadataUri) state).1 = .ok metadata →
        ∃ answers, ∀ kind, Retrieve.Checked node.store metadata (Retrieve.requested metadata indices) kind answers
          (heard kind) (result kind)) ∧
      (∀ err, (Attempt.runIn env (node.store.fetchMetadata metadataUri) state).1 = .error err →
        ∀ kind, result kind = .error (.storage err)) ∧
      result .double = (result .single).map Retrieve.ShardHashes.rehashed) ∧
    (∀ (order : World → (workers : Nat) → Order workers) (world : World) (metadataUri : String) (indices : List Nat),
      let result (order : World → (workers : Nat) → Order workers) (kind : Retrieve.HashKind) (world : World) :=
        (Attempt.runIn (environment order) (Retrieve.shardHashes node.store metadataUri indices kind) world).1
      (∀ metadata, world.metadataAt node.store metadataUri = .ok metadata → ∀ kind,
        Retrieve.Checked node.store metadata (Retrieve.requested metadata indices) kind
          ((Retrieve.requested metadata indices).map fun index =>
            world.lookup node.store.retrieveTimeout (node.store.targetAt metadata.shardUris index))
          (Attempt.transcript (environment order) (Retrieve.shardHashes node.store metadataUri indices kind) world)
          (result order kind world)) ∧
      ∀ (other : World → (workers : Nat) → Order workers) (later : World), World.Alike world later →
        result other .double later = (result order .single world).map Retrieve.ShardHashes.rehashed) ∧
    (∀ (order : World → (workers : Nat) → Order workers) (publisher : Publish.Publisher) (blob : Bytes)
      (dataShardCount parityShardCount : UInt64) (tag : String) (published : Publish.Published) (world before : World),
      world.Proper → Attempt.runIn (environment order)
        (Publish.publish publisher blob dataShardCount parityShardCount tag) world = (.ok published, before) →
      ∃ protocol metadata record, Storage.protocolOfTag tag = .ok protocol ∧
        metadata.shardCount = dataShardCount.toNat + parityShardCount.toNat ∧
        (∃ shards publication, publication.metadataUri = published.metadataUri ∧
          Publish.Deposit before protocol metadata shards publication) ∧
        ∀ (reader : Store) (after : World) (order : World → (workers : Nat) → Order workers) (indices : List Nat),
          Loss reader protocol published.metadataUri metadata before after →
          (∀ index ∈ indices, index < metadata.shardCount → index ∈ intact protocol metadata before after) →
          after.ledger.published.get? published.metadataUri = some record ∧
            ∃ answer, (Attempt.runIn (environment order)
                (Retrieve.shardHashes reader published.metadataUri indices .double) after).1 = .ok answer ∧
              answer.indices = Retrieve.requested metadata indices ∧
              answer.hashes.map some = answer.indices.map fun index => record.shardDoubleHashes[index]?) ∧
    ∀ (router : Http.Router) (request : Http.Request), request.method = "GET" → request.path = "/api/shard_hashes" →
      ((router.answer node request).runIn env state).1.status = 200 →
      ∃ check list value uris hashes,
        Http.Input.spotCheck request = .ok check ∧
        Http.Input.single? (Percent.pairs request.query) "indices" = .ok list ∧
        ((router.answer node request).runIn env state).1.content = .json value ∧
        Http.textsAt? "shard_uris" value = some uris ∧ Http.textsAt? "shard_hashes" value = some hashes ∧
        List.Forall₂ (fun entry text => ∃ index uri shard, Http.Input.index? entry = some index ∧
            uris[index]? = some uri ∧
            node.store.Answered ((router.answer node request).transcript env state) uri (.ok shard) ∧
            text = Base64.encode (check.kind.apply shard).toBytes)
          (Http.naming uris.length (list.getD "")) hashes := by
  refine ⟨fun metadataUri indices => ⟨?_, ?_, ?_, ?_⟩, fun order world metadataUri indices => ⟨?_, ?_⟩, ?_, ?_⟩
  · intro kind answer ran
    exact Retrieve.shardHashes_eq_ok env _ _ _ state ran
  · intro metadata listing
    exact ⟨_, Retrieve.shardHashes_checked env node.store metadataUri indices state (Prod.ext listing rfl)⟩
  · intro err listing kind
    exact Retrieve.shardHashes_unlisted env node.store metadataUri indices state listing kind
  · exact Retrieve.shardHashes_rehashed env node.store metadataUri indices state
  · intro metadata listed kind
    exact Retrieve.shardHashes_looked_up order node.store metadataUri indices listed kind
  · intro other later alike
    exact Retrieve.shardHashes_rehashed_later order node.store metadataUri indices alike other
  · intro order publisher blob dataShardCount parityShardCount tag published world before proper ran
    exact Retrieve.shardHashes_published proper ran
  · intro router request gets path answered
    exact Http.shardHashes_answered env router node state gets path answered

def World.sampled : World :=
  let metadata : Metadata := {
    shardSize := 1
    parityShardCount := 1
    recoveredDataHash := .replicate 32 0
    recoveredDataSize := 1
    shardUris := ["ipfs://a", "ipfs://b"] }
  let described := metadata.toBytes.toOption.getD []
  { World.blank with
    ipfs := { protocol := .ipfs, objects := [("ipfs://m", described), ("ipfs://a", [1]), ("ipfs://b", [2])] } }

theorem spotChecks_follow_request_out_of_order :
    let node : Node := { publisher := { store := { registry := [.ipfs] }, sender := "alice" } }
    let request : Http.Request :=
      { method := "GET", target := "/api/shard_hashes?metadata_uri=ipfs://m&indices=%2B1,x,7,+0" }
    let response := (((Http.Router.mk "*").answer node request).runIn (environment World.inOrder) World.sampled).1
    (∃ value hashes, response.content = .json value ∧ Http.textsAt? "shard_hashes" value = some hashes ∧
      hashes.length = 2) ∧
    ∃ published before after record answer,
      Attempt.runIn (environment World.inOrder) (Publish.publish node.publisher [1, 2, 3] 2 1 "ipfs") .blank =
        (.ok published, before) ∧
      after.ledger.published.get? published.metadataUri = some record ∧
      (Attempt.runIn (environment World.inOrder)
        (Retrieve.shardHashes node.store published.metadataUri [2, 9, 0, 2] .double) after).1 = .ok answer ∧
      answer.indices = [2, 0, 2] ∧
      answer.hashes.map some = [2, 0, 2].map fun index => record.shardDoubleHashes[index]? := by
  intro node request response
  have follow := spotChecks_follow_request (environment World.inOrder) node World.sampled
  constructor
  · obtain ⟨check, list, value, uris, hashes, -, asked, answered, listed, told, paired⟩ :=
      follow.2.2.2 (.mk "*") request rfl (by decide +kernel) (by decide +kernel)
    have query : (Http.Input.single? (Percent.pairs request.query) "indices").toOption = some (some "+1,x,7, 0") := by
      decide +kernel
    have found : (match response.content with
        | .json value => Http.textsAt? "shard_uris" value
        | _ => none) = some ["ipfs://a", "ipfs://b"] := by decide +kernel
    rw [asked] at query
    rw [answered] at found
    obtain rfl : list = some "+1,x,7, 0" := Option.some.inj query
    obtain rfl : uris = ["ipfs://a", "ipfs://b"] := Option.some.inj (listed.symm.trans found)
    refine ⟨value, hashes, answered, told, paired.length_eq.symm.trans ?_⟩
    decide +kernel
  · obtain ⟨published, before, ran, -⟩ := Publish.publish_accepts World.inOrder node.publisher [1, 2, 3] 2 1 "ipfs" .blank
      rfl (List.mem_singleton_self _) (by decide) ⟨rfl, rfl, rfl⟩ (by decide) (by decide) (by decide)
    obtain ⟨protocol, metadata, record, tagged, count, ⟨shards, publication, named, deposit⟩, later⟩ :=
      follow.2.2.1 _ _ _ _ _ _ _ _ _ World.proper_blank ran
    obtain rfl : Protocol.ipfs = protocol := Except.ok.inj tagged
    have count : metadata.shardCount = 3 := count
    have inside : 1 < metadata.shardCount := by omega
    have other := named ▸ ne_getD_of_nodup deposit.distinct inside
    have kept (index : Nat) (asked : index ∈ [2, 9, 0, 2]) (within : index < metadata.shardCount) :
        index ∈ intact .ipfs metadata before (before.without (metadata.shardUris.getD 1 "")) := by
      have apart : index ≠ 1 := by
        rintro rfl
        simp at asked
      rw [deposit.intact_without inside, List.mem_filter, List.mem_range]
      exact ⟨within, by simpa using apart⟩
    obtain ⟨recorded, answer, hashed, indices, hashes⟩ :=
      later { registry := [.ipfs] } _ World.inOrder [2, 9, 0, 2] (loss_of_without other) kept
    have wanted : Retrieve.requested metadata [2, 9, 0, 2] = [2, 0, 2] := by
      rw [Retrieve.requested, count]
      rfl
    rw [wanted] at indices
    rw [indices] at hashes
    exact ⟨published, before, _, record, answer, ran, recorded, hashed, indices, hashes⟩

end Availability
