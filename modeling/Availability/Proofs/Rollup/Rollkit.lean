import Availability.Proofs.InTurn
import Availability.Proofs.Publish.Filed
import Availability.Proofs.Utf8
import Availability.Rollup

namespace Availability

open Publish (Filed Filing)
open World (environment)

namespace Rollkit

def publishing (publisher : Publish.Publisher) (settings : Settings) (blob : Bytes) :
    Attempt Publish.Error Publish.Published :=
  Publish.publish publisher blob settings.dataShardCount settings.parityShardCount Protocol.ipfs.tag

def fetch (store : Store) (index : Nat) (id : Bytes) : Attempt Error Bytes :=
  match Utf8.decode? id with
  | some uri => (Retrieve.retrieve store uri).adapt .retrieve
  | none => throw (.invalidId index)

structure Oversized (max : Nat) (blobs : List Bytes) (index : Nat) (blob : Bytes) : Prop where
  here : blobs[index]? = some blob
  above : max < blob.length
  first : ∀ earlier < index, ∀ other, blobs[earlier]? = some other → other.length ≤ max

section

variable {σ : Type} {env : Environment σ} {publisher : Publish.Publisher} {settings : Settings} {store : Store}
  {state after : σ}

theorem checkSizes_eq_ok_iff {max index : Nat} {blobs : List Bytes} :
    checkSizes max index blobs = .ok () ↔ ∀ blob ∈ blobs, blob.length ≤ max := by
  induction blobs generalizing index with
  | nil => simp [checkSizes]
  | cons blob rest ih =>
    rw [checkSizes, List.forall_mem_cons]
    split
    · rename_i above
      simp [not_le.mpr above]
    · rename_i below
      rw [ih, and_iff_right (not_lt.mp below)]

theorem Oversized.checkSizes {max index : Nat} {blobs : List Bytes} {blob : Bytes}
    (oversized : Oversized max blobs index blob) (start : Nat) :
    checkSizes max start blobs = .error (.blobTooLarge (start + index) blob.length max) := by
  induction blobs generalizing index start with
  | nil => cases oversized.here
  | cons head rest ih =>
    rw [Rollkit.checkSizes]
    cases index with
    | zero =>
      cases oversized.here
      rw [if_pos oversized.above]
      rfl
    | succ index =>
      have below := oversized.first 0 index.succ_pos head rfl
      have later : Oversized max rest index blob :=
        ⟨oversized.here, oversized.above, fun earlier before => oversized.first (earlier + 1) (Nat.succ_lt_succ before)⟩
      rw [if_neg (not_lt.mpr below), ih later, Nat.add_assoc, Nat.add_comm 1]

theorem runIn_publishInOrder (blobs : List Bytes) (index : Nat) (state : σ) :
    Attempt.runIn env (publishInOrder publisher settings blobs) state =
      ((Attempt.runIn env (Attempt.inTurn (fun _ => publishing publisher settings) index blobs) state).1.map
          (·.map fun published => Bytes.ofText published.metadataUri) |>.mapError .publish,
        (Attempt.runIn env (Attempt.inTurn (fun _ => publishing publisher settings) index blobs) state).2) := by
  induction blobs generalizing index state with
  | nil => rfl
  | cons blob rest ih =>
    rw [publishInOrder, Attempt.inTurn, Attempt.runIn_bind, Attempt.runIn_bind]
    simp only [Attempt.runIn_adapt, publishing]
    rcases Attempt.runIn env (Publish.publish publisher blob settings.dataShardCount settings.parityShardCount
      Protocol.ipfs.tag) state with ⟨err | published, between⟩
    · rfl
    · simp only [Except.mapError, Attempt.runIn_bind_pure]
      rw [ih (index + 1)]
      rcases Attempt.runIn env (Attempt.inTurn (fun _ => publishing publisher settings) (index + 1) rest) between with
        ⟨err | others, last⟩ <;> rfl

theorem runIn_submit_of_small {blobs : List Bytes} (small : ∀ blob ∈ blobs, blob.length ≤ settings.maxBlobSize.toNat)
    (state : σ) :
    Attempt.runIn env (submit publisher settings blobs) state =
      Attempt.runIn env (publishInOrder publisher settings blobs) state := by
  rw [submit, Attempt.runIn_bind, Attempt.runIn_ofExcept, checkSizes_eq_ok_iff.mpr small]

theorem submit_eq_ok_iff {blobs ids : List Bytes} (small : ∀ blob ∈ blobs, blob.length ≤ settings.maxBlobSize.toNat) :
    Attempt.runIn env (submit publisher settings blobs) state = (.ok ids, after) ↔
      ∃ published, InTurn env (fun _ => publishing publisher settings) 0 blobs state published after ∧
        ids = published.map fun published => Bytes.ofText published.metadataUri := by
  rw [runIn_submit_of_small small, runIn_publishInOrder blobs 0, Prod.mk.injEq, Except.mapError_eq_ok, Except.map_eq_ok]
  constructor
  · rintro ⟨⟨published, ran, rfl⟩, last⟩
    exact ⟨published, runIn_inTurn_eq_ok_iff.mp (Prod.ext ran last), rfl⟩
  · rintro ⟨published, turn, rfl⟩
    rw [runIn_inTurn_eq_ok_iff.mpr turn]
    exact ⟨⟨published, rfl, rfl⟩, rfl⟩

theorem submit_eq_error_iff {blobs : List Bytes} (small : ∀ blob ∈ blobs, blob.length ≤ settings.maxBlobSize.toNat)
    {err : Error} :
    Attempt.runIn env (submit publisher settings blobs) state = (.error err, after) ↔
      ∃ done cause, FailsAfter env (fun _ => publishing publisher settings) 0 blobs done state cause after ∧
        err = .publish cause := by
  rw [runIn_submit_of_small small, runIn_publishInOrder blobs 0, Prod.mk.injEq, Except.mapError_eq_error]
  simp only [Except.map_eq_error]
  constructor
  · rintro ⟨⟨cause, ran, rfl⟩, last⟩
    obtain ⟨done, fails⟩ := runIn_inTurn_eq_error_iff.mp (Prod.ext ran last)
    exact ⟨done, cause, fails, rfl⟩
  · rintro ⟨done, cause, fails, rfl⟩
    rw [runIn_inTurn_eq_error_iff.mpr ⟨done, fails⟩]
    exact ⟨⟨cause, rfl, rfl⟩, rfl⟩

theorem runIn_get (ids : List Bytes) (state : σ) :
    Attempt.runIn env (get store ids) state = Attempt.runIn env (Attempt.inTurn (fetch store) 0 ids) state := by
  have from_index (index : Nat) : Attempt.runIn env (getFrom store index ids) state =
      Attempt.runIn env (Attempt.inTurn (fetch store) index ids) state := by
    induction ids generalizing index state with
    | nil => rfl
    | cons id rest ih =>
      rw [getFrom, Attempt.inTurn, Attempt.runIn_bind, fetch]
      cases Utf8.decode? id with
      | none => rfl
      | some uri =>
        simp only [Attempt.runIn_bind]
        rcases Attempt.runIn env ((Retrieve.retrieve store uri).adapt Error.retrieve) state with ⟨err | blob, between⟩
        · rfl
        · simp only [ih]
  exact from_index 0

theorem get_eq_error_iff {ids : List Bytes} {err : Error} :
    Attempt.runIn env (get store ids) state = (.error err, after) ↔
      ∃ good, FailsAfter env (fetch store) 0 ids good state err after := by
  rw [runIn_get, runIn_inTurn_eq_error_iff]

end

/-- Filings of blobs in their order, as the chain took them on its way from one world to another. -/
structure Batch (settings : Settings) (before after : World) (blobs : List Bytes) (filings : List Filing) : Prop where
  filed : List.Forall₂ (fun filing blob =>
    filing.Codes settings.dataShardCount settings.parityShardCount blob ∧ Filed after .ipfs filing) filings blobs
  broadcasts : after.ledger.broadcasts.toList =
    before.ledger.broadcasts.toList ++ filings.map fun filing => .publishData filing.publication
  others : ∀ uri, (∀ filing ∈ filings, filing.publication.metadataUri ≠ uri) →
    after.ledger.published.get? uri = before.ledger.published.get? uri

theorem Batch.stands {settings : Settings} {before after : World} {blobs : List Bytes} {filings : List Filing}
    (batch : Batch settings before after blobs filings) : ∀ filing ∈ filings, Filed after .ipfs filing :=
  ((List.forall₂_and_left filings blobs).mp (batch.filed.imp fun _ _ both => both.symm)).1

section

variable {σ : Type} {env : Environment σ} {view : σ → World} {publisher : Publish.Publisher} {settings : Settings}
  {state between after : σ} {blobs : List Bytes}

theorem batch_of_inTurn (hinders : env.Hinders view) {index : Nat} {published : List Publish.Published}
    (turn : InTurn env (fun _ => publishing publisher settings) index blobs state published after)
    (small : ∀ blob ∈ blobs, blob.length ≤ settings.maxBlobSize.toNat) :
    ∃ filings, Batch settings (view state) (view after) blobs filings ∧
      filings.map (·.publication.metadataUri) = published.map (·.metadataUri) := by
  induction turn with
  | done index state => exact ⟨[], ⟨.nil, by simp, fun _ _ => rfl⟩, rfl⟩
  | @next index blob rest receipt published state between after ran others ih =>
    obtain ⟨below, small⟩ := List.forall_mem_cons.mp small
    obtain ⟨filings, batch, named⟩ := ih small
    have addressable : blob.length < UInt64.size := below.trans_lt settings.maxBlobSize.toNat_lt
    obtain ⟨protocol, filing, tagged, uri, codes, filed, -, taken⟩ :=
      Publish.filed_of_publish hinders addressable ran
    cases tagged
    have still : Filed (view after) .ipfs filing :=
      others.preserves (fun state => Filed (view state) .ipfs filing)
        (fun _ _ _ _ _ _ ran filed => filed.publish hinders rfl ran) filed
    refine ⟨filing :: filings, ⟨.cons ⟨codes, still⟩ batch.filed, ?_, ?_⟩, ?_⟩
    · rw [batch.broadcasts, taken.broadcasts, Array.toList_push, List.append_assoc]
      rfl
    · intro other apart
      obtain ⟨first, later⟩ := List.forall_mem_cons.mp apart
      obtain ⟨status, record⟩ := taken.published
      rw [batch.others other later, record, Table.get?_put_ne _ _ first.symm]
    · rw [List.map_cons, List.map_cons, uri, named]

/-- A publish that fails after a batch leaves what the batch has filed, and adds nothing. -/
theorem Batch.of_error (hinders : env.Hinders view) {before : World} {filings : List Filing}
    (batch : Batch settings before (view between) blobs filings) {blob : Bytes} {cause : Publish.Error}
    (failed : Attempt.runIn env (publishing publisher settings blob) between = (.error cause, after)) :
    Batch settings before (view after) blobs filings := by
  obtain ⟨calls, ledger⟩ := Publish.unmoved_of_publish hinders failed
  refine ⟨batch.filed.imp fun filing blob filed => ⟨filed.1, filed.2.publish hinders rfl failed⟩, ?_, ?_⟩
  · rw [ledger]
    exact batch.broadcasts
  · rw [ledger]
    exact batch.others

theorem proper_of_inTurn (hinders : env.Hinders view) {index : Nat} {published : List Publish.Published}
    (turn : InTurn env (fun _ => publishing publisher settings) index blobs state published after)
    (proper : (view state).Proper) : (view after).Proper :=
  turn.preserves (fun state => (view state).Proper)
    (fun _ _ _ _ _ _ ran proper => Publish.proper_of_publish hinders proper ran) proper

end

def idOf (filing : Filing) : Bytes := Bytes.ofText filing.publication.metadataUri

section

variable {reader : Store} {world later : World} (order : World → (workers : Nat) → Order workers)

theorem get_of_each {picks : List (Bytes × Bytes)}
    (each : ∀ pick ∈ picks, ∃ uri, pick.1 = Bytes.ofText uri ∧ Retrieve.blobIn world reader uri = .ok pick.2) :
    (Attempt.runIn (environment order) (get reader (picks.map (·.1))) world).1 = .ok (picks.map (·.2)) := by
  have turns (index : Nat) (later : World) (alike : World.Alike world later) : ∃ last,
      InTurn (environment order) (fetch reader) index (picks.map (·.1)) later (picks.map (·.2)) last := by
    induction picks generalizing index later with
    | nil => exact ⟨later, .done index later⟩
    | cons pick rest ih =>
      obtain ⟨⟨uri, named, found⟩, others⟩ := List.forall_mem_cons.mp each
      obtain ⟨between, looked, still⟩ := Retrieve.retrieve_looked_up order reader uri later
      obtain ⟨last, turn⟩ := ih others (index + 1) between (alike.trans still)
      have got : Attempt.runIn (environment order) (fetch reader index pick.1) later = (.ok pick.2, between) := by
        rw [fetch, named, Utf8.decode?_ofText, Attempt.runIn_adapt, looked, Retrieve.blobIn_of_alike alike, found]
        rfl
      exact ⟨last, .next got turn⟩
  obtain ⟨last, turn⟩ := turns 0 world (.refl world)
  rw [runIn_get, runIn_inTurn_eq_ok_iff.mpr turn]

/-- Whatever is picked from a batch, as often and in whatever order, is got as it was submitted. -/
theorem Batch.restored {settings : Settings} {before : World} {blobs : List Bytes} {filings : List Filing}
    (batch : Batch settings before world blobs filings) (proper : world.Proper)
    (survive : ∀ filing ∈ filings, filing.Survives reader .ipfs settings.dataShardCount.toNat world later)
    (picks : List (Bytes × Bytes)) (among : ∀ pick ∈ picks, pick ∈ (filings.map idOf).zip blobs) :
    (Attempt.runIn (environment order) (get reader (picks.map (·.1))) later).1 = .ok (picks.map (·.2)) := by
  refine get_of_each order fun pick member => ?_
  have picked := among pick member
  rw [List.zip_map_left] at picked
  obtain ⟨⟨filing, blob⟩, paired, rfl⟩ := List.mem_map.mp picked
  obtain ⟨codes, filed⟩ := List.forall₂_zip batch.filed paired
  exact ⟨_, rfl, filed.retrieved proper codes (survive filing (List.of_mem_zip paired).1)⟩

end

/-- A batch is refused as a whole, or published in order up to the first failure; what is published is got by its ids,
and what fails to be got fails as the first of its ids does. -/
theorem submit_in_order {σ : Type} {env : Environment σ} {view : σ → World} (hinders : env.Hinders view)
    (publisher : Publish.Publisher) (settings : Settings) (blobs : List Bytes) (state : σ)
    (proper : (view state).Proper) :
    (∀ index blob, Oversized settings.maxBlobSize.toNat blobs index blob →
      Attempt.runIn env (submit publisher settings blobs) state =
          (.error (.blobTooLarge index blob.length settings.maxBlobSize.toNat), state) ∧
        Attempt.transcript env (submit publisher settings blobs) state = []) ∧
    ((∀ blob ∈ blobs, blob.length ≤ settings.maxBlobSize.toNat) →
      (∀ err after, Attempt.runIn env (submit publisher settings blobs) state = (.error err, after) ↔
        ∃ done cause, FailsAfter env (fun _ => publishing publisher settings) 0 blobs done state cause after ∧
          err = .publish cause) ∧
      (∀ done cause after, FailsAfter env (fun _ => publishing publisher settings) 0 blobs done state cause after →
        ∃ filings, Batch settings (view state) (view after) done filings) ∧
      ∀ ids after, Attempt.runIn env (submit publisher settings blobs) state = (.ok ids, after) →
        ids.length = blobs.length ∧ ∃ filings, Batch settings (view state) (view after) blobs filings ∧
          ids = filings.map idOf ∧
          ∀ (reader : Store) (later : World) (order : World → (workers : Nat) → Order workers),
            (∀ filing ∈ filings,
              filing.Survives reader .ipfs settings.dataShardCount.toNat (view after) later) →
            (Attempt.runIn (environment order) (get reader ids) later).1 = .ok blobs ∧
            ∀ picks : List (Bytes × Bytes), (∀ pick ∈ picks, pick ∈ ids.zip blobs) →
              (Attempt.runIn (environment order) (get reader (picks.map (·.1))) later).1 =
                .ok (picks.map (·.2))) ∧
    ∀ {τ : Type} (other : Environment τ) (reader : Store) (ids : List Bytes) (start finish : τ) (err : Error),
      Attempt.runIn other (get reader ids) start = (.error err, finish) ↔
        ∃ good, FailsAfter other (fetch reader) 0 ids good start err finish := by
  refine ⟨fun index blob oversized => ?_, fun small => ⟨fun err after => submit_eq_error_iff small, ?failed, ?submitted⟩,
    fun other reader ids start finish err => get_eq_error_iff⟩
  · have refused := oversized.checkSizes 0
    rw [Nat.zero_add] at refused
    constructor
    · rw [submit, Attempt.runIn_bind, Attempt.runIn_ofExcept, refused]
    · rw [submit, Attempt.transcript_bind_of_error env (congrArg (·, state) refused)]
      rfl
  case failed =>
    rintro _ cause after ⟨turn, failed⟩
    obtain ⟨filings, batch, -⟩ := batch_of_inTurn hinders turn fun blob member =>
      small blob (List.mem_append_left _ member)
    exact ⟨filings, batch.of_error hinders failed⟩
  case submitted =>
    intro ids after ran
    obtain ⟨published, turn, rfl⟩ := (submit_eq_ok_iff small).mp ran
    obtain ⟨filings, batch, named⟩ := batch_of_inTurn hinders turn small
    have same : (published.map fun published => Bytes.ofText published.metadataUri) = filings.map idOf := by
      have texts := congrArg (·.map Bytes.ofText) named
      rw [List.map_map, List.map_map] at texts
      exact texts.symm
    have length : (published.map fun published => Bytes.ofText published.metadataUri).length = blobs.length :=
      (List.length_map _).trans turn.length
    refine ⟨length, filings, batch, same, fun reader later order survive => ?_⟩
    have restored := batch.restored order (proper_of_inTurn hinders turn proper) survive
    rw [← same] at restored
    refine ⟨?_, restored⟩
    have whole := restored (List.zip _ blobs) fun pick member => member
    rwa [← List.unzip_fst, ← List.unzip_snd, List.unzip_zip length] at whole

section

variable {publisher : Publish.Publisher} {world before : World} {settings : Settings} {blob other : Bytes}
  {first second : Publish.Published} {order : World → (workers : Nat) → Order workers}

theorem survive_second {start : World} (proper : start.Proper) (addressable : blob.length < UInt64.size)
    (fits : other.length < UInt64.size)
    (ran : Attempt.runIn (environment order) (publishing publisher settings blob) start = (.ok first, world))
    (again : Attempt.runIn (environment order) (publishing publisher settings other) world = (.ok second, before))
    (spare : 0 < settings.parityShardCount.toNat) :
    ∃ uri, before.object? .ipfs uri ≠ none ∧ (before.without uri).object? .ipfs uri = none ∧
      ∀ filing, Filed before .ipfs filing →
        filing.publication.metadataUri = first.metadataUri ∨ filing.publication.metadataUri = second.metadataUri →
        filing.Survives { registry := [.ipfs] } .ipfs settings.dataShardCount.toNat before (before.without uri) := by
  have hinders := World.hinders_environment order
  obtain ⟨_, earlier, tagged, named, codes, filed, -⟩ := Publish.filed_of_publish hinders addressable ran
  cases tagged
  obtain ⟨_, later, tagged, called, coding, filing, fresh, -⟩ := Publish.filed_of_publish hinders fits again
  cases tagged
  have inside : 0 < later.metadata.shardCount := by
    rw [coding.shardCount]
    exact Nat.add_pos_left coding.positive _
  have still : Filed before .ipfs earlier := filed.publish hinders rfl again
  obtain ⟨here, gone⟩ := filing.lost inside
  refine ⟨later.metadata.shardUris.getD 0 "", here, gone, fun one stands either => ?_⟩
  rcases either with same | same
  · exact still.survives_congr stands (named.trans same.symm) (fresh.survives inside filed codes before)
  · have proper := Publish.proper_of_publish hinders proper ran
    exact filing.survives_congr stands (called.trans same.symm)
      (filing.survives_without (filing.distinct proper again called) coding inside spare)

end

/-- Two blobs on a chain that then stops answering, so that a third is refused; they are got in another order, and one
of them twice, without one of their shards. -/
theorem submit_in_order_of_two :
    let publisher : Publish.Publisher := { store := { registry := [.ipfs] }, sender := "alice" }
    let settings : Settings := { dataShardCount := 2, parityShardCount := 1 }
    ∃ calls first second before count after later cause,
      let env := World.hindered (fun state => World.inOrder state.1) (fun _ => none) calls
      Attempt.runIn env (submit publisher settings [[1, 2, 3], [4, 5]]) (.blank, 0) =
          (.ok [first, second], (before, count)) ∧
        (∃ uri, before.object? .ipfs uri ≠ none ∧ after.object? .ipfs uri = none) ∧
        (Attempt.runIn (environment World.inOrder) (get { registry := [.ipfs] } [second, first, second]) after).1 =
          .ok [[4, 5], [1, 2, 3], [4, 5]] ∧
        Attempt.runIn env (submit publisher settings [[1, 2, 3], [4, 5], [6]]) (.blank, 0) =
          (.error (.publish (.chain cause)), later) ∧
        ∃ filings, Batch settings .blank later.1 [[1, 2, 3], [4, 5]] filings := by
  intro publisher settings
  have ready : World.blank.Ready .ipfs := ⟨rfl, rfl, rfl⟩
  obtain ⟨one, between, ran, leaves⟩ := Publish.publish_accepts World.inOrder publisher [1, 2, 3] 2 1 "ipfs" .blank rfl
    (List.mem_singleton_self _) (by decide) ready (by decide) (by decide) (by decide)
  obtain ⟨other, before, again, -⟩ := Publish.publish_accepts World.inOrder publisher [4, 5] 2 1 "ipfs" between rfl
    (List.mem_singleton_self _) (by decide) leaves.ready (leaves.stores ▸ by decide) (leaves.params ▸ by decide)
    (leaves.params ▸ by decide)
  have small : ∀ blob ∈ ([[1, 2, 3], [4, 5]] : List Bytes), blob.length ≤ settings.maxBlobSize.toNat := by decide
  have less : ∀ blob ∈ ([[1, 2, 3], [4, 5], [6]] : List Bytes), blob.length ≤ settings.maxBlobSize.toNat := by decide
  obtain ⟨calls, count, submitted, stopped⟩ := World.exists_stopped
    ((submit_eq_ok_iff small).mpr ⟨[one, other], .next ran (.next again (.done _ _)), rfl⟩) (.transport "refused")
  obtain ⟨published, turn, -⟩ := (submit_eq_ok_iff small).mp submitted
  have fails : FailsAfter _ (fun _ => publishing publisher settings) 0 [[1, 2, 3], [4, 5], [6]] [[1, 2, 3], [4, 5]]
      _ _ _ :=
    .intro turn (Publish.publish_unanswered rfl (List.mem_singleton_self _) (by decide) (stopped .params))
  have hinders := World.hinders_hindered (fun state => World.inOrder state.1) (fun _ => none) calls
  have proper := World.proper_blank
  obtain ⟨-, -, settled⟩ := (submit_in_order hinders publisher settings [[1, 2, 3], [4, 5]] (.blank, 0) proper).2.1 small
  obtain ⟨failed, kept, -⟩ :=
    (submit_in_order hinders publisher settings [[1, 2, 3], [4, 5], [6]] (.blank, 0) proper).2.1 less
  obtain ⟨-, filings, batch, named, restored⟩ := settled _ _ submitted
  have first : Attempt.runIn (environment World.inOrder) (publishing publisher settings [1, 2, 3]) .blank =
      (.ok one, between) := ran
  obtain ⟨uri, here, gone, survive⟩ := survive_second proper (by decide) (by decide) first again (by decide)
  obtain ⟨-, picked⟩ := restored { registry := [.ipfs] } (before.without uri) World.inOrder fun filing member => by
    refine survive filing (batch.stands filing member) ?_
    have listed : idOf filing ∈ [one, other].map fun published => Bytes.ofText published.metadataUri :=
      named ▸ List.mem_map_of_mem member
    rw [List.map_cons, List.map_singleton, List.mem_pair] at listed
    exact listed.imp (fun same => Utf8.ofText_injective same) fun same => Utf8.ofText_injective same
  refine ⟨calls, _, _, before, count, before.without uri, (before, count + 1), _, submitted, ⟨uri, here, gone⟩, ?_,
    (failed _ _).mpr ⟨_, _, fails, rfl⟩, kept _ _ _ fails⟩
  let late := (Bytes.ofText other.metadataUri, ([4, 5] : Bytes))
  exact picked [late, (Bytes.ofText one.metadataUri, [1, 2, 3]), late] (by simp [late])

end Rollkit

end Availability
