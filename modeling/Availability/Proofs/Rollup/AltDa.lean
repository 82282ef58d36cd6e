import Availability.Proofs.Commitment
import Availability.Proofs.Publish.Filed
import Availability.Rollup

namespace Availability.AltDa

open Publish (Filed Filing)
open World (environment)

variable {σ : Type} {env : Environment σ} {view : σ → World} {publisher : Publish.Publisher} {settings : Settings}
  {blob commitment : Bytes} {state after : σ}

theorem put_eq_ok_iff :
    Attempt.runIn env (put publisher settings blob) state = (.ok commitment, after) ↔
      ∃ published, Attempt.runIn env (Publish.publish publisher blob settings.dataShardCount settings.parityShardCount
          Protocol.ipfs.tag) state = (.ok published, after) ∧ commitment = Commitment.encode published.metadataUri := by
  rw [put, Attempt.runIn_bind_eq_ok]
  simp only [Attempt.runIn_adapt_eq_ok]
  constructor
  · rintro ⟨published, between, ran, done⟩
    cases done
    exact ⟨published, ran, rfl⟩
  · rintro ⟨published, ran, rfl⟩
    exact ⟨published, after, ran, rfl⟩

theorem runIn_get {store : Store} {uri : String} (decoded : Commitment.decode commitment = .ok uri)
    (order : World → (workers : Nat) → Order workers) (world : World) :
    (Attempt.runIn (environment order) (get store commitment) world).1 =
      (Retrieve.blobIn world store uri).mapError .retrieve := by
  obtain ⟨later, looked, -⟩ := Retrieve.retrieve_looked_up order store uri world
  rw [get, Attempt.runIn_bind, Attempt.runIn_ofExcept, decoded]
  simp only [Except.mapError, Attempt.runIn_adapt, looked]

/-- A commitment is read back as the uri it was made of, and a blob is got by what its put has given. -/
theorem put_and_get (hinders : env.Hinders view) (publisher : Publish.Publisher) (settings : Settings) (blob : Bytes)
    (state : σ) (proper : (view state).Proper) (addressable : blob.length < UInt64.size) :
    (∀ bytes, (∃ uri, Commitment.decode bytes = .ok uri) ↔
      ∃ text, text ≠ "" ∧ bytes = 0x01 :: 0x0c :: Bytes.ofText text) ∧
    (∀ bytes err, Commitment.decode bytes = .error err ↔ Commitment.Refused bytes err) ∧
    (∀ uri, uri ≠ "" → Commitment.decode (Commitment.encode uri) = .ok uri) ∧
    (∀ bytes uri, Commitment.decode bytes = .ok uri → Commitment.encode uri = bytes) ∧
    (∀ first second uri, Commitment.decode first = .ok uri → Commitment.decode second = .ok uri → first = second) ∧
    ∀ commitment after, Attempt.runIn env (put publisher settings blob) state = (.ok commitment, after) →
      ∃ filing : Filing, filing.Codes settings.dataShardCount settings.parityShardCount blob ∧
        Filed (view after) .ipfs filing ∧ Commitment.decode commitment = .ok filing.publication.metadataUri ∧
        ∀ (reader : Store) (later : World) (order : World → (workers : Nat) → Order workers),
          filing.Survives reader .ipfs settings.dataShardCount.toNat (view after) later →
            (Attempt.runIn (environment order) (get reader commitment) later).1 = .ok blob := by
  refine ⟨fun bytes => ?accepted, fun bytes err => Commitment.decode_eq_error_iff, fun uri => Commitment.decode_encode,
    fun bytes uri decoded => (Commitment.decode_eq_ok_iff.mp decoded).2.symm, fun first second uri one other => ?_, ?put⟩
  case accepted => simp only [Commitment.decode_eq_ok_iff, Commitment.encode, Commitment.genericType, Commitment.version]
  case put =>
    intro commitment after ran
    obtain ⟨published, publishing, rfl⟩ := put_eq_ok_iff.mp ran
    obtain ⟨_, filing, tagged, named, codes, filed, -⟩ := Publish.filed_of_publish hinders addressable publishing
    cases tagged
    have still := Publish.proper_of_publish hinders proper publishing
    have text : published.metadataUri ≠ "" := by
      obtain ⟨id, -, owned⟩ := (filed.standing still codes).owned _ List.mem_cons_self
      rw [← named, owned]
      exact Protocol.uriFor_ne_empty .ipfs id
    have decoded := Commitment.decode_encode text
    refine ⟨filing, codes, filed, named ▸ decoded, fun reader later order survives => ?_⟩
    rw [runIn_get decoded, ← named, filed.retrieved still codes survives]
    rfl
  · rw [(Commitment.decode_eq_ok_iff.mp one).2, (Commitment.decode_eq_ok_iff.mp other).2]

theorem put_and_get_without_a_shard : ∃ commitment before after,
    Attempt.runIn (environment World.inOrder) (put { store := { registry := [.ipfs] }, sender := "alice" } {} [1, 2, 3])
      .blank = (.ok commitment, before) ∧
      (Attempt.runIn (environment World.inOrder) (get { registry := [.ipfs] } commitment) after).1 = .ok [1, 2, 3] ∧
        ∃ uri, before.object? .ipfs uri ≠ none ∧ after.object? .ipfs uri = none := by
  let publisher : Publish.Publisher := { store := { registry := [.ipfs] }, sender := "alice" }
  obtain ⟨published, before, ran, -⟩ := Publish.publish_accepts World.inOrder publisher [1, 2, 3] 4 2 "ipfs" .blank rfl
    (List.mem_singleton_self _) (by decide) ⟨rfl, rfl, rfl⟩ (by decide) (by decide) (by decide)
  have stored : Attempt.runIn (environment World.inOrder) (put publisher {} [1, 2, 3]) .blank =
      (.ok (Commitment.encode published.metadataUri), before) := put_eq_ok_iff.mpr ⟨published, ran, rfl⟩
  obtain ⟨-, -, -, -, -, committed⟩ := put_and_get (World.hinders_environment World.inOrder) publisher {} [1, 2, 3]
    .blank World.proper_blank (by decide)
  obtain ⟨filing, codes, filed, decoded, restored⟩ := committed _ before stored
  have uri : filing.publication.metadataUri = published.metadataUri :=
    (Utf8.ofText_injective (List.cons.inj (List.cons.inj (Commitment.decode_eq_ok_iff.mp decoded).2).2).2).symm
  have inside : 0 < filing.metadata.shardCount := codes.shardCount ▸ by decide
  have survives := filed.survives_without (filed.distinct World.proper_blank ran uri) codes inside (by decide)
  exact ⟨_, before, _, stored, restored _ _ World.inOrder survives, _, filed.lost inside⟩

end Availability.AltDa
