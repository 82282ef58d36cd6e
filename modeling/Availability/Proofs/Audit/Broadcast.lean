import Availability.Audit
import Availability.Proofs.Audit.Submission
import Availability.Proofs.Shuffle

namespace Availability

def Message.indices : Message → List Nat
  | .submitInvalidity _ _ indices => indices
  | .submitValidityProof _ _ _ indices _ => indices
  | .publishData _ | .challengeForFraud .. => []

theorem Store.storageOnly_connectSource (store : Store) (uri source : String) :
    (store.connectSource uri source).run.StorageOnly := by
  unfold connectSource
  split
  · exact trivial
  · cases store.registry.backendForUri uri with
    | error err => exact trivial
    | ok protocol => exact ⟨rfl, fun _ => trivial⟩

theorem Store.storageOnly_fetchMetadata (store : Store) (uri : String) : (store.fetchMetadata uri).run.StorageOnly := by
  unfold fetchMetadata retrieve
  cases store.registry.backendForUri uri with
  | error err => exact trivial
  | ok protocol =>
    refine ⟨rfl, fun answer => ?_⟩
    cases answer <;> exact trivial

theorem Store.storageOnly_fetchShards (store : Store) (shardUris : List String) (indices : List Nat)
    (policy : Indexed.Policy) : (store.fetchShards shardUris indices policy).run.StorageOnly := by
  unfold fetchShards
  cases locate shardUris indices with
  | error err => exact trivial
  | ok located => exact fun answers => trivial

namespace Audit

theorem storageOnly_decide (store : Store) (task : Task) : (decide store task).StorageOnly := by
  unfold decide
  refine (store.storageOnly_fetchMetadata task.metadataUri).bind fun listing => ?_
  cases listing with
  | error err => exact trivial
  | ok metadata =>
    simp only
    cases requirement task metadata with
    | error reason => exact trivial
    | ok required =>
      simp only
      refine (store.storageOnly_fetchShards metadata.shardUris _ .tolerate).bind fun fetched => ?_
      cases fetched <;> exact trivial

section

variable (auditor : Auditor) (metadataUri : String)

def challengeMessage? : Option Message :=
  if auditor.policy.submitChallenge then some (.challengeForFraud auditor.account.sender metadataUri) else none

theorem challenge_eq : challenge auditor metadataUri = offer (challengeMessage? auditor metadataUri) .chain := by
  unfold challenge challengeMessage?
  split <;> rfl

theorem assignment_eq (validator : String) (shardCount : Nat) :
    (Attempt.orFail (assignment validator shardCount) .chain : Attempt Error (List Nat)) =
      Attempt.orFail (Program.ask (.proofThreshold shardCount)) .chain >>= fun threshold =>
        pure (sampleIndices validator threshold shardCount) := by
  refine congrArg (Program.perform (.chain (.proofThreshold shardCount))) (funext fun answer => ?_)
  cases answer <;> rfl

variable (evidence : Evidence)

def reportAssigned : Attempt Error (Option String) :=
  match auditor.provingFor? with
  | none => pure none
  | some validator => do
    let threshold ← Attempt.orFail (Program.ask (.proofThreshold evidence.shardCount)) .chain
    (offer (invalidityMessage? auditor.account metadataUri
      (evidence.missing (sampleIndices validator threshold evidence.shardCount))) .chain).adapt .submit

theorem actOnFraud_eq (reason : FraudReason) :
    actOnFraud auditor metadataUri reason evidence =
      offer (challengeMessage? auditor metadataUri) .chain >>= fun challengeTransaction =>
        reportAssigned auditor metadataUri evidence >>= fun invalidityTransaction =>
          pure (.fraud reason challengeTransaction invalidityTransaction) := by
  unfold actOnFraud reportAssigned
  rw [challenge_eq]
  refine congrArg (offer (challengeMessage? auditor metadataUri) Error.chain >>= ·) (funext fun transaction => ?_)
  cases auditor.provingFor? with
  | none => rfl
  | some validator =>
    simp only [assignment_eq, reportMissing_eq, bind_assoc, pure_bind]
    rfl

theorem actOnValid_eq {validator : String} (proving : auditor.provingFor? = some validator) :
    actOnValid auditor metadataUri evidence =
      Attempt.orFail (Program.ask (.hasValidityProof metadataUri validator)) .chain >>= fun proved =>
        if proved then pure .alreadyProved
        else Attempt.orFail (Program.ask (.proofThreshold evidence.shardCount)) .chain >>= fun threshold =>
          (submit auditor.account metadataUri evidence
            (sampleIndices validator threshold evidence.shardCount)).adapt .submit >>= fun submission =>
              pure (.valid (some submission)) := by
  unfold actOnValid
  rw [proving]
  refine congrArg (Attempt.orFail (Program.ask (.hasValidityProof metadataUri validator)) Error.chain >>= ·)
    (funext fun proved => ?_)
  cases proved with
  | false =>
    simp only [assignment_eq, bind_assoc, pure_bind]
  | true => rfl

theorem Auditor.validator_of_provingFor {auditor : Auditor} {validator : String}
    (proving : auditor.provingFor? = some validator) : auditor.account.validator = some validator := by
  unfold provingFor? at proving
  split at proving
  · exact proving
  · cases proving

def act : Verdict → Attempt Error Outcome
  | .fraud reason evidence => actOnFraud auditor metadataUri reason evidence
  | .valid evidence => actOnValid auditor metadataUri evidence

theorem direct_reportAssigned : (reportAssigned auditor metadataUri evidence).Direct := by
  unfold reportAssigned
  cases auditor.provingFor? with
  | none => exact .pure none
  | some validator =>
    exact (Attempt.Direct.ask (.proofThreshold evidence.shardCount) _).bind fun _ => (direct_offer _ _).adapt _

theorem direct_act (verdict : Verdict) : (act auditor metadataUri verdict).Direct := by
  cases verdict with
  | fraud reason evidence =>
    rw [act, actOnFraud_eq]
    exact (direct_offer _ _).bind fun _ => (direct_reportAssigned _ _ _).bind fun _ => .pure _
  | valid evidence =>
    rw [act]
    cases proving : auditor.provingFor? with
    | none =>
      rw [actOnValid, proving]
      exact .pure _
    | some validator =>
      rw [actOnValid_eq _ _ _ proving]
      refine (Attempt.Direct.ask (.hasValidityProof metadataUri validator) _).bind fun proved => ?_
      cases proved with
      | true => exact .pure _
      | false =>
        refine (Attempt.Direct.ask (.proofThreshold evidence.shardCount) _).bind fun threshold => ?_
        have submits := direct_submit metadataUri evidence (sampleIndices validator threshold evidence.shardCount)
          (Auditor.validator_of_provingFor proving)
        exact (submits.adapt _).bind fun _ => .pure _

end

section

variable (auditor : Auditor) (task : Task)

/-- An audit fails when a call to the chain or a proof does, and goes no further. -/
theorem failStop_audit : (audit auditor task).FailStop := by
  refine ((Attempt.FailStop.ask (.publishedData task.metadataUri)).orFail _).bind fun record? => ?_
  cases record? with
  | none => exact .pure _
  | some record =>
    cases auditable : record.status.auditable with
    | false =>
      simp only [auditable]
      exact .pure _
    | true =>
      simp only [auditable]
      refine (Attempt.FailStop.lift (auditor.store.storageOnly_connectSource _ _)).bind fun _ => ?_
      refine (Attempt.FailStop.lift (storageOnly_decide auditor.store task)).bind fun verdict => ?_
      exact (direct_act auditor task.metadataUri verdict).failStop

variable {σ : Type} (env : Environment σ) (state : σ)

/-- The verdict of an audit from this state if the record is auditable, and the state it is then acted on in. -/
def examined : Verdict × σ :=
  (decide auditor.store task).runIn env
    ((auditor.store.connectSource task.metadataUri task.dataSourceInfo).run.runIn env
      (env.perform state (.chain (.publishedData task.metadataUri))).2).2

def verdictFrom : Verdict := (examined auditor task env state).1

theorem shardCount_verdictFrom : (verdictFrom auditor task env state).evidence.shardCount = task.shardCount :=
  (evidence_decide env auditor.store task _).1

/-- How an audit goes: the record is left alone, or it is examined with the storage networks alone and the verdict
is acted on. -/
inductive Audited : Transcript → Except Error Outcome → Prop where
  | skipped {answer : Except Chain.Error (Option Record)}
      (answered : (env.perform state (.chain (.publishedData task.metadataUri))).1 = answer)
      (left : ∀ record, answer = .ok (some record) → record.status.auditable = false) :
      Audited [⟨.chain (.publishedData task.metadataUri), answer⟩] ((answer.mapError Error.chain).map fun record? =>
        match record? with
        | none => .notIndexed
        | some record => .notReady record.status)
  | examined {record : Record} {quiet : Transcript}
      (answered : (env.perform state (.chain (.publishedData task.metadataUri))).1 = .ok (some record))
      (auditable : record.status.auditable = true) (apart : quiet.OnStorage)
      (plays : Plays env quiet (env.perform state (.chain (.publishedData task.metadataUri))).2
        (examined auditor task env state).2) :
      Audited
        (⟨.chain (.publishedData task.metadataUri), .ok (some record)⟩ :: (quiet ++
          Attempt.transcript env (act auditor task.metadataUri (verdictFrom auditor task env state))
            (examined auditor task env state).2))
        (Attempt.runIn env (act auditor task.metadataUri (verdictFrom auditor task env state))
          (examined auditor task env state).2).1

theorem audited_audit :
    Audited auditor task env state (Attempt.transcript env (audit auditor task) state)
      (Attempt.runIn env (audit auditor task) state).1 := by
  obtain ⟨answer, published, answered⟩ : ∃ answer published,
      env.perform state (.chain (.publishedData task.metadataUri)) = (answer, published) := ⟨_, _, rfl⟩
  unfold audit
  rw [Attempt.transcript_ask_bind, Attempt.runIn_ask_bind]
  rcases answer with err | _ | record
  · rw [answered]
    exact .skipped (by rw [answered]) (by simp)
  · rw [answered]
    exact .skipped (by rw [answered]) (by simp)
  cases auditable : record.status.auditable with
  | false =>
    rw [answered]
    simp only [auditable]
    refine .skipped (by rw [answered]) fun other same => ?_
    cases same
    exact auditable
  | true =>
    obtain rfl : published = (env.perform state (.chain (.publishedData task.metadataUri))).2 := by rw [answered]
    have connects := auditor.store.storageOnly_connectSource task.metadataUri task.dataSourceInfo
    have decides := storageOnly_decide auditor.store task
    have plays := (Plays.runIn env (auditor.store.connectSource task.metadataUri task.dataSourceInfo).run
      (env.perform state (.chain (.publishedData task.metadataUri))).2).append
        (Plays.runIn env (decide auditor.store task) _)
    have whole := Audited.examined (congrArg Prod.fst answered) auditable
      ((connects.transcript env _).append (decides.transcript env _)) plays
    rw [answered]
    simp only [auditable, Bool.not_true, Bool.false_eq_true, if_false, Attempt.runIn_bind, Attempt.transcript_bind,
      Attempt.runIn_lift, Attempt.transcript_lift]
    rw [List.append_assoc] at whole
    exact whole

end

def assigned (validator : String) (shardCount : Nat) : Option Nat → List Nat
  | none => []
  | some threshold => sampleIndices validator threshold shardCount

def reports (auditor : Auditor) (metadataUri : String) (evidence : Evidence) (threshold? : Option Nat) : List Message :=
  match auditor.provingFor? with
  | none => []
  | some validator => (invalidityMessage? auditor.account metadataUri
      (evidence.missing (assigned validator evidence.shardCount threshold?))).toList

def announcements (auditor : Auditor) (metadataUri : String) (evidence : Evidence) (threshold? : Option Nat)
    (proofs : List Proof) : Outcome → List Message
  | .fraud .. => (challengeMessage? auditor metadataUri).toList ++ reports auditor metadataUri evidence threshold?
  | .valid (some _) =>
    match auditor.provingFor? with
    | none => []
    | some validator => submissionMessages auditor.account validator metadataUri evidence
        (assigned validator evidence.shardCount threshold?) proofs
  | _ => []

def Auditor.samplesFor (auditor : Auditor) : Outcome → Prop
  | .fraud .. | .valid (some _) => auditor.provingFor?.isSome = true
  | _ => False

/-- Once, the chain was asked how many out of so many shards are to be proved, and answered. -/
def Heeds (shardCount : Nat) (heard : Transcript) : Prop :=
  ∃ threshold, ⟨.chain (.proofThreshold shardCount), .ok threshold⟩ ∈ heard ∧ heard.thresholds = [threshold]

theorem Heeds.prepend {shardCount : Nat} {first heard : Transcript} (heeds : Heeds shardCount heard)
    (thresholds : first.thresholds = []) : Heeds shardCount (first ++ heard) := by
  obtain ⟨threshold, asked, only⟩ := heeds
  exact ⟨threshold, List.mem_append_right first asked, by simp [thresholds, only]⟩

/-- What is broadcast are the messages of the result in order, or some of the first ones if there is none. They
depend on the proofs that were heard and on the threshold, which is heard where the result needs it. -/
structure Telling {ε α : Type} (messages : Option Nat → List Proof → α → List Message) (needs : α → Prop)
    (shardCount : Nat) (heard : Transcript) (result : Except ε α) : Prop where
  before : ∃ value, heard.sent <+: messages heard.thresholds.head? heard.proofs value
  all : ∀ value, result = .ok value → heard.sent = messages heard.thresholds.head? heard.proofs value
  heeds : ∀ value, result = .ok value → needs value → Heeds shardCount heard

namespace Telling

variable {ε α β : Type} {messages : Option Nat → List Proof → α → List Message} {needs : α → Prop} {shardCount : Nat}
variable {heard : Transcript}

theorem of_eq {result : Except ε α} (value : α)
    (same : ∀ value, heard.sent = messages heard.thresholds.head? heard.proofs value)
    (heeds : ∀ value, needs value → Heeds shardCount heard) : Telling messages needs shardCount heard result :=
  ⟨⟨value, same value ▸ List.prefix_rfl⟩, fun value _ => same value, fun value _ => heeds value⟩

theorem of_ok {value : α} (same : heard.sent = messages heard.thresholds.head? heard.proofs value)
    (heeds : needs value → Heeds shardCount heard) : Telling messages needs shardCount heard (.ok value : Except ε α) :=
  ⟨⟨value, same ▸ List.prefix_rfl⟩, fun _ ended => (by cases ended; exact same),
    fun _ ended => (by cases ended; exact heeds)⟩

theorem of_error {err : ε} (value : α)
    (before : heard.sent <+: messages heard.thresholds.head? heard.proofs value) :
    Telling messages needs shardCount heard (.error err) :=
  ⟨⟨value, before⟩, fun _ ended => (by cases ended), fun _ ended => (by cases ended)⟩

theorem map {result : Except ε α} (told : Telling messages needs shardCount heard result) (g : α → β)
    {others : Option Nat → List Proof → β → List Message} {asks : β → Prop}
    (same : ∀ threshold? proofs value, others threshold? proofs (g value) = messages threshold? proofs value)
    (more : ∀ value, asks (g value) → needs value) : Telling others asks shardCount heard (result.map g) := by
  obtain ⟨⟨value, before⟩, all, heeds⟩ := told
  cases result with
  | error err => exact .of_error (g value) (by rwa [same])
  | ok inner => exact .of_ok ((all inner rfl).trans (same ..).symm) fun asked => heeds inner rfl (more inner asked)

theorem mapError {δ : Type} {result : Except ε α} (told : Telling messages needs shardCount heard result) (f : ε → δ) :
    Telling messages needs shardCount heard (result.mapError f) := by
  cases result with
  | error err => exact .of_error told.before.choose told.before.choose_spec
  | ok value => exact .of_ok (told.all value rfl) (told.heeds value rfl)

theorem prepend {result : Except ε α} (told : Telling messages needs shardCount heard result) {first : Transcript}
    (thresholds : first.thresholds = []) (proofs : first.proofs = []) :
    Telling (fun threshold? proofs value => first.sent ++ messages threshold? proofs value) needs shardCount
      (first ++ heard) result := by
  obtain ⟨⟨value, before⟩, all, heeds⟩ := told
  constructor
  · refine ⟨value, ?_⟩
    simpa [thresholds, proofs, List.prefix_append_right_inj] using before
  · intro value ended
    simp [thresholds, proofs, all value ended]
  · exact fun value ended needed => (heeds value ended needed).prepend thresholds

theorem behind {result : Except ε α} (told : Telling messages needs shardCount heard result) {event : Event}
    (silent : event.sent? = none) (threshold : event.threshold? = none) (proof : event.proof? = none) :
    Telling messages needs shardCount (event :: heard) result := by
  have sent : Transcript.sent (event :: heard) = heard.sent := List.filterMap_cons_none silent
  have thresholds : Transcript.thresholds (event :: heard) = heard.thresholds := List.filterMap_cons_none threshold
  have proofs : Transcript.proofs (event :: heard) = heard.proofs := List.filterMap_cons_none proof
  obtain ⟨before, all, heeds⟩ := told
  constructor
  · rwa [sent, thresholds, proofs]
  · rwa [sent, thresholds, proofs]
  · intro value ended needed
    obtain ⟨asked, member, only⟩ := heeds value ended needed
    exact ⟨asked, List.mem_cons_of_mem event member, thresholds.trans only⟩

theorem heed {result : Except ε α} {threshold : Nat}
    (told : Telling (fun _ => messages (some threshold)) (fun _ => False) shardCount heard result)
    (thresholds : heard.thresholds = []) :
    Telling messages needs shardCount (⟨.chain (.proofThreshold shardCount), .ok threshold⟩ :: heard) result where
  before := told.before
  all := told.all
  heeds _ _ _ := ⟨threshold, List.mem_cons_self, congrArg (threshold :: ·) thresholds⟩

end Telling

theorem telling_of_submitting {answers : Witness → Except Prover.Error Proof → Prop} {account : Account}
    {validator metadataUri : String} {evidence : Evidence} {sample : List Nat} {heard : Transcript}
    {result : Except SubmitError Submission} (shardCount : Nat)
    (submitting : Submitting account validator metadataUri evidence sample answers heard result) :
    heard.thresholds = [] ∧
      Telling (fun _ proofs _ => submissionMessages account validator metadataUri evidence sample proofs)
        (fun _ => False) shardCount heard result := by
  cases submitting with
  | refused proving => exact ⟨proving.thresholds, .of_error ⟨[], [], none, none⟩ (proving.sent ▸ List.nil_prefix)⟩
  | @proven heard later proofs result proving broadcasting before all failed =>
    have sent : (heard ++ later).sent = later.sent := by rw [Transcript.sent_append, proving.sent, List.nil_append]
    have proved : (heard ++ later).proofs = proofs := by
      rw [Transcript.proofs_append, broadcasting.proofs, List.append_nil, (proving.succeeded rfl).2.1]
    have thresholds : (heard ++ later).thresholds = [] := by
      rw [Transcript.thresholds_append, proving.thresholds, broadcasting.thresholds, List.nil_append]
    refine ⟨thresholds, ⟨⟨[], [], none, none⟩, ?_⟩, ?_, fun _ _ => False.elim⟩
    · rwa [sent, proved]
    · intro submission ended
      rw [sent, proved]
      exact (all submission ended).1

section

variable {σ : Type} (env : Environment σ) (auditor : Auditor) (metadataUri : String) (evidence : Evidence) (state : σ)

theorem telling_reportAssigned :
    Telling (fun threshold? _ _ => reports auditor metadataUri evidence threshold?)
      (fun _ => auditor.provingFor?.isSome = true) evidence.shardCount
      (Attempt.transcript env (reportAssigned auditor metadataUri evidence) state)
      (Attempt.runIn env (reportAssigned auditor metadataUri evidence) state).1 := by
  unfold reportAssigned reports
  cases auditor.provingFor? with
  | none => exact .of_eq none (fun _ => rfl) fun _ needed => by cases needed
  | some validator =>
    simp only
    rw [Attempt.transcript_ask_bind, Attempt.runIn_ask_bind]
    rcases env.perform state (.chain (.proofThreshold evidence.shardCount)) with ⟨err | threshold, after⟩
    · exact .of_error none List.nil_prefix
    · generalize missed : invalidityMessage? auditor.account metadataUri
        (evidence.missing (sampleIndices validator threshold evidence.shardCount)) = message
      simp only [Attempt.transcript_adapt, missed]
      refine Telling.heed (.of_eq none (fun _ => ?_) fun _ => False.elim) (broadcasting_offer env _ after _).thresholds
      rw [sent_offer, assigned, missed]

theorem telling_actOnFraud (reason : FraudReason) :
    Telling (announcements auditor metadataUri evidence) auditor.samplesFor evidence.shardCount
      (Attempt.transcript env (actOnFraud auditor metadataUri reason evidence) state)
      (Attempt.runIn env (actOnFraud auditor metadataUri reason evidence) state).1 := by
  have sent := sent_offer env Error.chain state (challengeMessage? auditor metadataUri)
  have handed := broadcasting_offer env Error.chain state (challengeMessage? auditor metadataUri)
  rw [actOnFraud_eq, Attempt.transcript_bind, Attempt.runIn_bind]
  -- A challenge that is refused is the only message, and one that is taken comes before the report.
  rcases Attempt.runIn env (offer (challengeMessage? auditor metadataUri) Error.chain) state with
    ⟨err | transaction, challenged⟩
  · refine .of_error (.fraud reason none none) ?_
    rw [List.append_nil, sent]
    exact List.prefix_append _ _
  · have told := telling_reportAssigned env auditor metadataUri evidence challenged
    simp only [Attempt.transcript_bind_pure, Attempt.runIn_bind_pure]
    have whole := told.prepend handed.thresholds handed.proofs
    refine whole.map _ (fun threshold? proofs value => ?_) fun _ needed => needed
    rw [sent]
    rfl

theorem telling_actOnValid :
    Telling (announcements auditor metadataUri evidence) auditor.samplesFor evidence.shardCount
      (Attempt.transcript env (actOnValid auditor metadataUri evidence) state)
      (Attempt.runIn env (actOnValid auditor metadataUri evidence) state).1 := by
  cases proving : auditor.provingFor? with
  | none =>
    rw [actOnValid, proving]
    exact .of_ok rfl False.elim
  | some validator =>
    rw [actOnValid_eq _ _ _ proving, Attempt.transcript_ask_bind, Attempt.runIn_ask_bind]
    rcases env.perform state (.chain (.hasValidityProof metadataUri validator)) with ⟨err | _ | _, asked⟩
    · exact .of_error .alreadyProved List.prefix_rfl
    · simp only [Bool.false_eq_true, if_false]
      rw [Attempt.transcript_ask_bind, Attempt.runIn_ask_bind]
      rcases env.perform asked (.chain (.proofThreshold evidence.shardCount)) with ⟨err | threshold, after⟩
      · exact .of_error .alreadyProved List.prefix_rfl
      · have named := Auditor.validator_of_provingFor proving
        obtain ⟨thresholds, told⟩ := telling_of_submitting evidence.shardCount (submitting_submit metadataUri evidence
          (sampleIndices validator threshold evidence.shardCount) named env after)
        simp only [Attempt.transcript_bind_pure, Attempt.runIn_bind_pure, Attempt.transcript_adapt, Attempt.runIn_adapt]
        have whole : Telling (fun _ => announcements auditor metadataUri evidence (some threshold)) (fun _ => False)
            evidence.shardCount _ _ :=
          (told.mapError Error.submit).map (fun submission => .valid (some submission))
            (fun _ _ _ => by simp only [announcements, proving, assigned]) fun _ => False.elim
        exact (whole.heed thresholds).behind rfl rfl rfl
    · exact .of_ok rfl False.elim

end

section

variable {σ : Type} (env : Environment σ) (auditor : Auditor) (task : Task) (state : σ)

theorem telling_act (metadataUri : String) (verdict : Verdict) :
    Telling (announcements auditor metadataUri verdict.evidence) auditor.samplesFor verdict.evidence.shardCount
      (Attempt.transcript env (act auditor metadataUri verdict) state)
      (Attempt.runIn env (act auditor metadataUri verdict) state).1 := by
  cases verdict with
  | fraud reason evidence => exact telling_actOnFraud env auditor metadataUri evidence state reason
  | valid evidence => exact telling_actOnValid env auditor metadataUri evidence state

theorem telling_audit :
    Telling (announcements auditor task.metadataUri (verdictFrom auditor task env state).evidence) auditor.samplesFor
      (verdictFrom auditor task env state).evidence.shardCount (Attempt.transcript env (audit auditor task) state)
      (Attempt.runIn env (audit auditor task) state).1 := by
  have audited := audited_audit auditor task env state
  generalize Attempt.transcript env (audit auditor task) state = heard at *
  generalize (Attempt.runIn env (audit auditor task) state).1 = result at *
  cases audited with
  | @skipped answer answered left =>
    rcases answer with err | _ | record
    · exact .of_error .notIndexed List.nil_prefix
    · exact .of_ok rfl False.elim
    · exact .of_ok rfl False.elim
  | examined answered auditable apart plays =>
    have told := (telling_act env auditor (examined auditor task env state).2 task.metadataUri
      (verdictFrom auditor task env state)).prepend apart.thresholds apart.proofs
    rw [apart.sent] at told
    exact told.behind rfl rfl rfl

end

section

variable (account : Account) (validator metadataUri : String) (indices sample : List Nat) (proofs : List Proof)

theorem indices_invalidityMessage :
    (invalidityMessage? account metadataUri indices).toList.flatMap Message.indices = indices := by
  cases indices <;> simp [invalidityMessage?, Message.indices]

theorem indices_validityMessage :
    (validityMessage? account validator metadataUri indices proofs).toList.flatMap Message.indices = indices := by
  cases indices <;> simp [validityMessage?, Message.indices]

theorem indices_challengeMessage (auditor : Auditor) :
    (challengeMessage? auditor metadataUri).toList.flatMap Message.indices = [] := by
  unfold challengeMessage?
  split <;> rfl

theorem indices_submissionMessages (evidence : Evidence) :
    ((submissionMessages account validator metadataUri evidence sample proofs).flatMap Message.indices).Perm
      sample := by
  rw [submissionMessages, List.flatMap_append, indices_validityMessage, indices_invalidityMessage]
  exact evidence.provable_append_missing_perm sample

variable {validator} {shardCount : Nat} {threshold? : Option Nat}

theorem assigned_nodup : (assigned validator shardCount threshold?).Nodup := by
  cases threshold? with
  | none => exact List.nodup_nil
  | some threshold => exact sampleIndices_nodup validator threshold shardCount

theorem exists_of_mem_assigned {index : Nat} (member : index ∈ assigned validator shardCount threshold?) :
    ∃ threshold, threshold? = some threshold ∧ index ∈ sampleIndices validator threshold shardCount := by
  cases threshold? with
  | none => cases member
  | some threshold => exact ⟨threshold, rfl, member⟩

/-- The messages of one audit are about distinct shards, all of the sample. -/
theorem indices_announcements (auditor : Auditor) (evidence : Evidence) (threshold? : Option Nat) (outcome : Outcome) :
    ((announcements auditor metadataUri evidence threshold? proofs outcome).flatMap Message.indices).Nodup ∧
      ∀ index ∈ (announcements auditor metadataUri evidence threshold? proofs outcome).flatMap Message.indices,
        ∃ validator, auditor.provingFor? = some validator ∧
          index ∈ assigned validator evidence.shardCount threshold? := by
  rcases outcome with _ | _ | _ | _ | _ | submission
  case fraud =>
    rw [announcements, List.flatMap_append, indices_challengeMessage, List.nil_append, reports]
    cases auditor.provingFor? with
    | none => simp
    | some validator =>
      simp only [indices_invalidityMessage]
      exact ⟨assigned_nodup.filter _, fun index member => ⟨validator, rfl, List.mem_of_mem_filter member⟩⟩
  case valid.some =>
    rw [announcements]
    cases auditor.provingFor? with
    | none => simp
    | some validator =>
      have split := indices_submissionMessages auditor.account validator metadataUri
        (assigned validator evidence.shardCount threshold?) proofs evidence
      exact ⟨split.nodup_iff.mpr assigned_nodup, fun index member => ⟨validator, rfl, split.mem_iff.mp member⟩⟩
  all_goals simp [announcements]

end

inductive Acted (auditor : Auditor) (metadataUri : String) (heard : Transcript) : Verdict → Outcome → Prop where
  | fraud (reason : FraudReason) (evidence : Evidence) (challenge report : Option String) :
      Acted auditor metadataUri heard (.fraud reason evidence) (.fraud reason challenge report)
  | unproving (evidence : Evidence) (off : auditor.provingFor? = none) :
      Acted auditor metadataUri heard (.valid evidence) (.valid none)
  | alreadyProved (evidence : Evidence) {validator : String} (proving : auditor.provingFor? = some validator)
      (told : ⟨.chain (.hasValidityProof metadataUri validator), .ok true⟩ ∈ heard) :
      Acted auditor metadataUri heard (.valid evidence) .alreadyProved
  | submitted (evidence : Evidence) (submission : Submission) {validator : String}
      (proving : auditor.provingFor? = some validator)
      (told : ⟨.chain (.hasValidityProof metadataUri validator), .ok false⟩ ∈ heard) :
      Acted auditor metadataUri heard (.valid evidence) (.valid (some submission))

theorem Acted.mono {auditor : Auditor} {metadataUri : String} {heard more : Transcript} {verdict : Verdict}
    {outcome : Outcome} (acted : Acted auditor metadataUri heard verdict outcome) (within : heard ⊆ more) :
    Acted auditor metadataUri more verdict outcome := by
  cases acted with
  | fraud reason evidence challenge report => exact .fraud reason evidence challenge report
  | unproving evidence off => exact .unproving evidence off
  | alreadyProved evidence proving told => exact .alreadyProved evidence proving (within told)
  | submitted evidence submission proving told => exact .submitted evidence submission proving (within told)

/-- What no audit broadcasts, not even one that fails. -/
structure Restrained (auditor : Auditor) (task : Task) (heard : Transcript) : Prop where
  exclusive : ∀ challenger challenged sender address uri : String, ∀ indices proofs,
    Message.challengeForFraud challenger challenged ∈ heard.sent →
      Message.submitValidityProof sender address uri indices proofs ∉ heard.sent
  detectOnly : auditor.policy.submitChallenge = false →
    auditor.policy.submitProof = false ∨ auditor.account.validator = none → heard.sent = []
  sampled : ∀ message ∈ heard.sent, ∀ index ∈ message.indices, index < task.shardCount ∧ ∃ validator threshold,
    auditor.policy.submitProof = true ∧ auditor.account.validator = some validator ∧
      heard.thresholds.head? = some threshold ∧ index ∈ sampleIndices validator threshold task.shardCount
  distinct : ∀ message ∈ heard.sent, message.indices.Nodup
  apart : heard.sent.Pairwise fun first second => first.indices.Disjoint second.indices

section

variable {auditor : Auditor} {metadataUri : String} {evidence : Evidence} {threshold? : Option Nat}
variable {proofs : List Proof} {outcome : Outcome}

theorem exclusive_announcements {challenger challenged sender address uri : String} {indices : List Nat}
    {listed : List Proof} (challenge : Message.challengeForFraud challenger challenged ∈
      announcements auditor metadataUri evidence threshold? proofs outcome) :
    Message.submitValidityProof sender address uri indices listed ∉
      announcements auditor metadataUri evidence threshold? proofs outcome := by
  rcases outcome with _ | _ | _ | _ | _ | submission
  case fraud =>
    rw [announcements, reports, List.mem_append]
    rintro (member | member)
    · unfold challengeMessage? at member
      split at member <;> simp at member
    · split at member
      · cases member
      · unfold invalidityMessage? at member
        split at member <;> simp at member
  case valid.some =>
    rw [announcements] at challenge
    split at challenge
    · cases challenge
    · unfold submissionMessages validityMessage? invalidityMessage? at challenge
      split at challenge <;> split at challenge <;> simp at challenge
  all_goals simp [announcements]

theorem announcements_detectOnly (challenges : auditor.policy.submitChallenge = false)
    (proving : auditor.provingFor? = none) :
    announcements auditor metadataUri evidence threshold? proofs outcome = [] := by
  rcases outcome with _ | _ | _ | _ | _ | submission
  case fraud => simp [announcements, challengeMessage?, reports, challenges, proving]
  case valid.some => simp [announcements, proving]
  all_goals rfl

theorem Auditor.provingFor_eq_some {validator : String} : auditor.provingFor? = some validator ↔
    auditor.policy.submitProof = true ∧ auditor.account.validator = some validator := by
  unfold provingFor?
  split <;> simp_all

end

section

variable {σ : Type} (env : Environment σ) (auditor : Auditor) (task : Task) (state : σ)

theorem restrained_audit : Restrained auditor task (Attempt.transcript env (audit auditor task) state) := by
  obtain ⟨outcome, before⟩ := (telling_audit env auditor task state).before
  obtain ⟨distinct, sampled⟩ := indices_announcements task.metadataUri
    (Attempt.transcript env (audit auditor task) state).proofs auditor (verdictFrom auditor task env state).evidence
    (Attempt.transcript env (audit auditor task) state).thresholds.head? outcome
  have count := shardCount_verdictFrom auditor task env state
  obtain ⟨separate, apart⟩ := List.nodup_flatMap.mp distinct
  constructor
  case exclusive =>
    intro _ _ _ _ _ _ _ challenge validity
    exact exclusive_announcements (before.subset challenge) (before.subset validity)
  case detectOnly =>
    intro challenges unproven
    have proving : auditor.provingFor? = none := by
      unfold Auditor.provingFor?
      rcases unproven with off | unnamed
      · simp [off]
      · simp [unnamed]
    rw [announcements_detectOnly challenges proving] at before
    exact List.prefix_nil.mp before
  case sampled =>
    intro message member index about
    obtain ⟨validator, proving, chosen⟩ := sampled index (List.mem_flatMap.mpr ⟨message, before.subset member, about⟩)
    obtain ⟨threshold, heard, chosen⟩ := exists_of_mem_assigned chosen
    rw [count] at chosen
    obtain ⟨submits, named⟩ := Auditor.provingFor_eq_some.mp proving
    exact ⟨lt_of_mem_sampleIndices chosen, validator, threshold, submits, named, heard, chosen⟩
  case distinct => exact fun message member => separate message (before.subset member)
  case apart => exact apart.sublist before.sublist

theorem acted_act {metadataUri : String} {verdict : Verdict} {outcome : Outcome}
    (ended : (Attempt.runIn env (act auditor metadataUri verdict) state).1 = .ok outcome) :
    Acted auditor metadataUri (Attempt.transcript env (act auditor metadataUri verdict) state) verdict outcome := by
  cases verdict with
  | fraud reason evidence =>
    rw [act, actOnFraud_eq] at ended
    obtain ⟨challenge, _, _, rest⟩ := Attempt.runIn_bind_eq_ok.mp (Prod.ext ended rfl)
    obtain ⟨report, _, _, last⟩ := Attempt.runIn_bind_eq_ok.mp rest
    cases last
    exact .fraud reason evidence challenge report
  | valid evidence =>
    rw [act] at ended ⊢
    cases proving : auditor.provingFor? with
    | none =>
      rw [actOnValid, proving] at ended
      cases ended
      exact .unproving evidence proving
    | some validator =>
      rw [actOnValid_eq _ _ _ proving, Attempt.runIn_ask_bind] at ended
      rw [actOnValid_eq _ _ _ proving, Attempt.transcript_ask_bind]
      rcases answered : env.perform state (.chain (.hasValidityProof metadataUri validator)) with
        ⟨err | _ | _, asked⟩
      · rw [answered] at ended
        cases ended
      · rw [answered] at ended
        obtain ⟨_, _, _, rest⟩ := Attempt.runIn_bind_eq_ok.mp (Prod.ext ended rfl)
        obtain ⟨submission, _, _, last⟩ := Attempt.runIn_bind_eq_ok.mp rest
        cases last
        exact .submitted evidence submission proving List.mem_cons_self
      · rw [answered] at ended
        cases ended
        exact .alreadyProved evidence proving List.mem_cons_self

def Follows (auditor : Auditor) (task : Task) (verdict : Verdict) (heard : Transcript) (outcome : Outcome) :
    Option Record → Prop
  | none => outcome = .notIndexed
  | some record =>
    if record.status.auditable then Acted auditor task.metadataUri heard verdict outcome
    else outcome = .notReady record.status

structure Concluded (auditor : Auditor) (task : Task) (record? : Option Record) (verdict : Verdict)
    (heard : Transcript) (outcome : Outcome) : Prop where
  follows : Follows auditor task verdict heard outcome record?
  sent : heard.sent =
    announcements auditor task.metadataUri verdict.evidence heard.thresholds.head? heard.proofs outcome
  accepted : heard.accepted = heard.sent
  heeds : auditor.samplesFor outcome → Heeds task.shardCount heard

theorem follows_audit {outcome : Outcome} (ended : (Attempt.runIn env (audit auditor task) state).1 = .ok outcome) :
    ∃ record?, (env.perform state (.chain (.publishedData task.metadataUri))).1 = .ok record? ∧
      Follows auditor task (verdictFrom auditor task env state) (Attempt.transcript env (audit auditor task) state)
        outcome record? := by
  have audited := audited_audit auditor task env state
  rw [ended] at audited
  generalize Attempt.transcript env (audit auditor task) state = heard at audited ⊢
  generalize reached : (Except.ok outcome : Except Error Outcome) = result at audited
  cases audited with
  | @skipped answer answered left =>
    rcases answer with err | _ | record
    · cases reached
    · cases reached
      exact ⟨none, answered, rfl⟩
    · cases reached
      exact ⟨some record, answered, by simp [Follows, left record rfl]⟩
  | @examined record quiet answered auditable apart plays =>
    refine ⟨some record, answered, ?_⟩
    have acted := acted_act env auditor (examined auditor task env state).2 reached.symm
    simp only [Follows, auditable, if_true]
    exact acted.mono fun event member => List.mem_cons_of_mem _ (List.mem_append_right quiet member)

theorem concluded_audit {outcome : Outcome} (ended : (Attempt.runIn env (audit auditor task) state).1 = .ok outcome) :
    ∃ record?, (env.perform state (.chain (.publishedData task.metadataUri))).1 = .ok record? ∧
      Concluded auditor task record? (verdictFrom auditor task env state)
        (Attempt.transcript env (audit auditor task) state) outcome := by
  obtain ⟨record?, answered, follows⟩ := follows_audit env auditor task state ended
  have told := telling_audit env auditor task state
  have faultless := ((failStop_audit auditor task).faultless_iff env state).mpr ⟨outcome, ended⟩
  refine ⟨record?, answered, follows, told.all outcome ended, faultless.accepted_eq, fun needed => ?_⟩
  have heeds := told.heeds outcome ended needed
  rwa [shardCount_verdictFrom] at heeds

/-- What one audit broadcasts follows from its outcome, and from the same audit without failures when a call to the
chain or a proof fails. Records that are absent or not auditable are left alone. -/
theorem audit_announces :
    ((Attempt.transcript env (audit auditor task) state).Faultless ↔
      ∃ outcome, (Attempt.runIn env (audit auditor task) state).1 = .ok outcome) ∧
    (∀ outcome, (Attempt.runIn env (audit auditor task) state).1 = .ok outcome →
      ∃ record?, (env.perform state (.chain (.publishedData task.metadataUri))).1 = .ok record? ∧
        Concluded auditor task record? (verdictFrom auditor task env state)
          (Attempt.transcript env (audit auditor task) state) outcome) ∧
    (∀ weak : Environment σ, weak.Weakens env →
      (Attempt.transcript weak (audit auditor task) state).sent <+:
          (Attempt.transcript env (audit auditor task) state).sent ∧
        (Attempt.transcript weak (audit auditor task) state).accepted <+:
          (Attempt.transcript env (audit auditor task) state).accepted) ∧
    (verdictFrom auditor task env state).evidence.shardCount = task.shardCount ∧
    Restrained auditor task (Attempt.transcript env (audit auditor task) state) ∧
    (∀ record?, (env.perform state (.chain (.publishedData task.metadataUri))).1 = .ok record? →
      (∀ record ∈ record?, record.status.auditable = false) →
        Attempt.transcript env (audit auditor task) state =
          [⟨.chain (.publishedData task.metadataUri), .ok record?⟩]) := by
  have stops := failStop_audit auditor task
  refine ⟨stops.faultless_iff env state, fun outcome ended => concluded_audit env auditor task state ended, ?_,
    shardCount_verdictFrom auditor task env state, restrained_audit env auditor task state, ?_⟩
  · intro weak weakens
    rcases stops.cut weakens state with ⟨-, same⟩ | follows
    · rw [same]
      exact ⟨List.prefix_rfl, List.prefix_rfl⟩
    · exact ⟨follows.sent_prefix, follows.accepted_prefix⟩
  · intro record? answered skipped
    have audited := audited_audit auditor task env state
    generalize Attempt.transcript env (audit auditor task) state = heard at audited ⊢
    generalize (Attempt.runIn env (audit auditor task) state).1 = result at audited
    cases audited with
    | skipped given left =>
      rw [answered] at given
      rw [given]
    | @examined record quiet given auditable apart plays =>
      rw [answered] at given
      cases given
      rw [skipped record rfl] at auditable
      cases auditable

end

end Audit

end Availability
