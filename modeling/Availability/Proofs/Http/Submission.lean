import Availability.Proofs.Base64
import Availability.Proofs.Http
import Availability.Proofs.Json.ReadBack
import Availability.Proofs.Publish.Acceptance
import Availability.Proofs.Rollup.Rollkit

namespace Availability.Http

open World (environment)

def submission (blob : Bytes) : Request where
  method := "POST"
  target := "/rollkit/submit"
  headers := [("content-type", "application/json")]
  body := .bytes (Bytes.ofText (Json.listing "blobs" (Base64.encode blob)))

def submittable : Nat := (Input.bodyLimit - 14) / 4 * 3

theorem length_submission (blob : Bytes) : (submission blob).content.length = 14 + 4 * ((blob.length + 2) / 3) := by
  have name : (Bytes.ofText "blobs").length = 5 := by decide +kernel
  change (Bytes.ofText (Json.listing _ _)).length = _
  rw [Json.ofText_listing, Base64.ofText_encode]
  simp only [List.length_cons, List.length_append, List.length_nil, name, Base64.length_symbols]
  omega

theorem body_submission (blob : Bytes) :
    Input.body (submission blob) =
      if submittable < blob.length then .error (.refusal 413) else .ok (submission blob).content := by
  have within : Input.bodyLimit < (submission blob).content.length ↔ submittable < blob.length := by
    rw [length_submission, submittable, Input.bodyLimit]
    omega
  simp only [Input.body, within]

theorem texts_submission (blob : Bytes) :
    Input.texts (submission blob) "blobs" =
      if submittable < blob.length then .error (.refusal 413) else .ok [Base64.encode blob] := by
  have typed : ((submission blob).header? "content-type").any Input.isJsonType = true := typed_of_headers rfl
  have named : ∀ byte ∈ Bytes.ofText "blobs", Json.Plain byte := by decide +kernel
  have plain : ∀ byte ∈ Bytes.ofText (Base64.encode blob), Json.Plain byte := by
    rw [Base64.ofText_encode]
    exact Base64.plain_symbols blob
  unfold Input.texts Input.structured
  rw [typed, body_submission]
  split
  · rfl
  · have content : (submission blob).content = Bytes.ofText (Json.listing "blobs" (Base64.encode blob)) := rfl
    simp only [content, Json.ofBytes_listing named plain, bind, Except.bind]
    rfl

section

variable {σ : Type} (env : Environment σ) (router : Router) (node : Node) (blob : Bytes) (state : σ)

theorem submission_routed :
    (router.answer node (submission blob)).runIn env state =
        ({ ((Handler.submitBatch node (submission blob)).runIn env state).1 with
            allowOrigin := some router.allowOrigin },
          ((Handler.submitBatch node (submission blob)).runIn env state).2) ∧
      (router.answer node (submission blob)).transcript env state =
        (Handler.submitBatch node (submission blob)).transcript env state := by
  have path : (submission blob).path = "/rollkit/submit" := by
    have target : (submission blob).target = "/rollkit/submit" := rfl
    simp only [Request.path, Request.visibleTarget, target]
    decide +kernel
  have route : Route.ofPath? (submission blob).path = some .submitBatch := by
    rw [path]
    rfl
  have posts : (submission blob).method = "POST" := rfl
  exact answer_handled env router node route rfl (by rw [posts]; decide) (by rw [posts]; decide) state

theorem submitBatch_of_within (within : blob.length ≤ submittable) :
    Handler.submitBatch node (submission blob) =
      respond (Rollkit.submit node.publisher node.rollkit [blob]) Status.ofRollkit Rollkit.Error.message fun ids =>
        .json (Handler.encodedJson "ids" ids) := by
  have decoded : [Base64.encode blob].mapM (decodeBase64 "Blob") = .ok [blob] := by
    rw [List.mapM_cons, decodeBase64, Base64.decode_encode]
    rfl
  rw [Handler.submitBatch, texts_submission, if_neg (not_lt.mpr within)]
  simp only [withInput, decoded]

theorem submitBatch_of_beyond (beyond : submittable < blob.length) :
    Handler.submitBatch node (submission blob) = .done (.refusal 413) := by
  rw [Handler.submitBatch, texts_submission, if_pos beyond]
  rfl

/-- What is submitted over the network is answered as the batch is, unless its body is beyond the limit of bodies. That
limit is not the one that is advertised. -/
theorem submission_answered :
    ((router.answer node { method := "GET", target := "/rollkit/max_blob_size" }).runIn env state).1 =
        { Response.json (.object [("max_blob_size", Json.ofWord node.rollkit.maxBlobSize)]) with
          allowOrigin := some router.allowOrigin } ∧
      (blob.length ≤ submittable → ∀ after,
        (∀ ids, Attempt.runIn env (Rollkit.submit node.publisher node.rollkit [blob]) state = (.ok ids, after) →
          (router.answer node (submission blob)).runIn env state =
            ({ Response.json (Handler.encodedJson "ids" ids) with allowOrigin := some router.allowOrigin }, after)) ∧
        ∀ err, Attempt.runIn env (Rollkit.submit node.publisher node.rollkit [blob]) state = (.error err, after) →
          (router.answer node (submission blob)).runIn env state =
            ({ Response.text (Status.ofRollkit err) err.message with allowOrigin := some router.allowOrigin },
              after)) ∧
      (submittable < blob.length →
        (router.answer node (submission blob)).runIn env state =
            ({ Response.refusal 413 with allowOrigin := some router.allowOrigin }, state) ∧
          (router.answer node (submission blob)).transcript env state = []) := by
  obtain ⟨answered, heard⟩ := submission_routed env router node blob state
  refine ⟨?advertised, fun within after => ?_, fun beyond => ?_⟩
  case advertised =>
    have route : Route.ofPath? (Request.path { method := "GET", target := "/rollkit/max_blob_size" }) =
        some .maxBlobSize := by decide +kernel
    exact congrArg Prod.fst (answer_handled env router node route rfl (by decide) (by decide) state).1
  · rw [answered, submitBatch_of_within node blob within, respond_runIn, state_respond]
    refine ⟨fun ids ran => ?_, fun err ran => ?_⟩ <;> rw [ran]
  · rw [answered, heard, submitBatch_of_beyond node blob beyond]
    exact ⟨rfl, rfl⟩

end

/-- A blob below the advertised size that can be submitted is refused for the length of its body. -/
theorem not_submission_honoured :
    let node : Node := { publisher := { store := { registry := [.ipfs] }, sender := "alice" } }
    let world : World := { World.blank with ledger := { params := ⟨1, 8, 1048576⟩ } }
    let blob : Bytes := List.replicate 1572853 0
    blob.length ≤ node.rollkit.maxBlobSize.toNat ∧
      (∃ ids after, Attempt.runIn (environment World.inOrder)
        (Rollkit.submit node.publisher node.rollkit [blob]) world = (.ok ids, after)) ∧
      (((⟨"*"⟩ : Router).answer node (submission blob)).runIn (environment World.inOrder) world).1.status = 413 := by
  intro node world blob
  have length : blob.length = 1572853 := List.length_replicate
  have below : blob.length ≤ node.rollkit.maxBlobSize.toNat := by
    rw [length]
    decide
  have beyond : submittable < blob.length := by
    rw [length]
    decide
  have small : Erasure.shardSize blob.length 4 ≤ 1048576 := by
    rw [length]
    decide
  obtain ⟨published, after, ran, -⟩ := Publish.publish_accepts World.inOrder node.publisher blob 4 2 "ipfs" world rfl
    (List.mem_singleton_self _) (by decide) ⟨rfl, rfl, rfl⟩ (by decide) (by decide) small
  refine ⟨below, ⟨_, after, (Rollkit.submit_eq_ok_iff ?_).mpr ⟨[published], .next ran (.done _ _), rfl⟩⟩, ?_⟩
  · intro other member
    rw [List.mem_singleton.mp member]
    exact below
  · rw [(submission_routed _ _ node blob world).1, submitBatch_of_beyond node blob beyond]
    rfl

end Availability.Http
