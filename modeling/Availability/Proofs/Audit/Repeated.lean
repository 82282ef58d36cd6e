import Availability.Proofs.Audit.Broadcast
import Availability.Proofs.Loss

namespace Availability

def Message.isValidityProof : Message → Bool
  | .submitValidityProof .. => true
  | .publishData _ | .challengeForFraud .. | .submitInvalidity .. => false

abbrev World.unreliable (order : World → (workers : Nat) → Order workers) (down : Nat → Option Chain.Error) :
    Environment (World × Nat) := (environment order).scheduled down

namespace Audit

section

variable {σ : Type} (env : Environment σ) (auditor : Auditor) (metadataUri : String) (evidence : Evidence) (state : σ)

theorem not_validityProof_offer {ε : Type} {f : Chain.Error → ε} {message : Option Message}
    (other : ∀ given ∈ message, given.isValidityProof = false) :
    ∀ event ∈ Attempt.transcript env (offer message f) state, ∀ given, event.sent? = some given →
      given.isValidityProof = false := by
  cases message with
  | none => exact List.forall_mem_nil _
  | some message =>
    rw [transcript_offer]
    refine List.forall_mem_singleton.mpr fun given sent => ?_
    cases sent
    exact other message rfl

theorem not_validityProof_actOnFraud (reason : FraudReason) :
    ∀ message ∈ (Attempt.transcript env (actOnFraud auditor metadataUri reason evidence) state).sent,
      message.isValidityProof = false := by
  have events : ∀ event ∈ Attempt.transcript env (actOnFraud auditor metadataUri reason evidence) state,
      ∀ given, event.sent? = some given → given.isValidityProof = false := by
    rw [actOnFraud_eq]
    refine Attempt.forall_transcript_bind env (not_validityProof_offer env state ?_) fun _ challenged => ?_
    · unfold challengeMessage?
      split <;> simp [Message.isValidityProof]
    rw [Attempt.transcript_bind_pure]
    unfold reportAssigned
    cases auditor.provingFor? with
    | none => exact List.forall_mem_nil _
    | some validator =>
      refine Attempt.forall_transcript_bind env ?_ fun threshold asked => ?_
      · rw [Attempt.transcript_orFail]
        exact List.forall_mem_singleton.mpr fun _ sent => by cases sent
      · rw [Attempt.transcript_adapt]
        apply not_validityProof_offer
        unfold invalidityMessage?
        split <;> simp [Message.isValidityProof]
  intro message member
  obtain ⟨event, heard, sent⟩ := List.mem_filterMap.mp member
  exact events event heard message sent

end

/-- Proofs that the chain took are of the whole sample, or what is missing was reported too, or the chain refused
that report and the audit failed. -/
def Answerable (auditor : Auditor) (task : Task) (evidence : Evidence) (heard : Transcript)
    (result : Except Error Outcome) : Prop :=
  ∀ sender address uri indices proofs, Message.submitValidityProof sender address uri indices proofs ∈ heard.accepted →
    uri = task.metadataUri ∧ auditor.provingFor? = some address ∧ ∃ threshold,
      heard.thresholds.head? = some threshold ∧
        indices = evidence.provable (sampleIndices address threshold task.shardCount) ∧
          (evidence.missing (sampleIndices address threshold task.shardCount) ≠ [] →
            Message.submitInvalidity auditor.account.sender task.metadataUri
                (evidence.missing (sampleIndices address threshold task.shardCount)) ∈ heard.accepted ∨
              ∃ err, result = .error (.submit (.chain err)))

theorem Answerable.of_silent {auditor : Auditor} {task : Task} {evidence : Evidence} {heard : Transcript}
    {result : Except Error Outcome} (silent : heard.accepted = []) : Answerable auditor task evidence heard result := by
  intro sender address uri indices proofs accepted
  rw [silent] at accepted
  cases accepted

section

variable {σ : Type} (env : Environment σ) (auditor : Auditor) (task : Task) (state : σ)

theorem answerable_submitted {answers : Witness → Except Prover.Error Proof → Prop} {account : Account}
    {validator metadataUri : String} {evidence : Evidence} {sample : List Nat} {heard : Transcript}
    {result : Except SubmitError Submission} (faultless : heard.Faultless ↔ ∃ submission, result = .ok submission)
    (submitting : Submitting account validator metadataUri evidence sample answers heard result)
    {sender address uri : String} {indices : List Nat} {proofs : List Proof}
    (accepted : Message.submitValidityProof sender address uri indices proofs ∈ heard.accepted) :
    uri = metadataUri ∧ address = validator ∧ indices = evidence.provable sample ∧ (evidence.missing sample ≠ [] →
      Message.submitInvalidity account.sender metadataUri (evidence.missing sample) ∈ heard.accepted ∨
        ∃ err, result = .error (.chain err)) := by
  have sent := Transcript.sent_of_accepted accepted
  cases submitting with
  | refused proving =>
    rw [proving.sent] at sent
    cases sent
  | @proven heard later given result proving broadcasting before all failed =>
    rw [Transcript.sent_append, proving.sent, List.nil_append] at sent
    obtain ⟨-, rfl, rfl, rfl, -⟩ := validity_of_mem_submissionMessages (before.subset sent)
    refine ⟨rfl, rfl, rfl, fun lacking => ?_⟩
    cases result with
    | error err =>
      obtain ⟨cause, rfl⟩ := failed err rfl
      exact .inr ⟨cause, rfl⟩
    | ok submission =>
      left
      have took := (faultless.mpr ⟨submission, rfl⟩).accepted_eq
      rw [took, Transcript.sent_append, proving.sent, List.nil_append, (all submission rfl).1]
      simp [submissionMessages, invalidityMessage?, lacking]

theorem answerable_actOnValid {evidence : Evidence} (count : evidence.shardCount = task.shardCount) :
    Answerable auditor task evidence (Attempt.transcript env (actOnValid auditor task.metadataUri evidence) state)
      (Attempt.runIn env (actOnValid auditor task.metadataUri evidence) state).1 := by
  cases proving : auditor.provingFor? with
  | none =>
    rw [actOnValid, proving]
    exact .of_silent rfl
  | some validator =>
    rw [actOnValid_eq _ _ _ proving, Attempt.transcript_ask_bind, Attempt.runIn_ask_bind]
    rcases env.perform state (.chain (.hasValidityProof task.metadataUri validator)) with ⟨err | _ | _, asked⟩
    · exact .of_silent rfl
    · simp only [Bool.false_eq_true, if_false]
      rw [Attempt.transcript_ask_bind, Attempt.runIn_ask_bind]
      rcases env.perform asked (.chain (.proofThreshold evidence.shardCount)) with ⟨err | threshold, after⟩
      · exact .of_silent rfl
      · intro sender address uri indices proofs accepted
        simp only [Attempt.transcript_bind_pure, Attempt.runIn_bind_pure, Attempt.transcript_adapt,
          Attempt.runIn_adapt] at accepted ⊢
        have named := Auditor.validator_of_provingFor proving
        rw [count] at accepted ⊢
        have faultless := (direct_submit task.metadataUri evidence (sampleIndices validator threshold task.shardCount)
          named).failStop.faultless_iff env after
        have submitting := submitting_submit task.metadataUri evidence
          (sampleIndices validator threshold task.shardCount) named env after
        obtain ⟨rfl, rfl, rfl, reported⟩ := answerable_submitted faultless submitting accepted
        refine ⟨rfl, proving, threshold, rfl, rfl, fun lacking => ?_⟩
        rcases reported lacking with told | ⟨err, refused⟩
        · exact .inl told
        · exact .inr ⟨err, by rw [refused]; rfl⟩
    · exact .of_silent rfl

theorem answerable_act {verdict : Verdict} (count : verdict.evidence.shardCount = task.shardCount) :
    Answerable auditor task verdict.evidence (Attempt.transcript env (act auditor task.metadataUri verdict) state)
      (Attempt.runIn env (act auditor task.metadataUri verdict) state).1 := by
  cases verdict with
  | fraud reason evidence =>
    intro _ _ _ _ _ accepted
    have other := not_validityProof_actOnFraud env auditor task.metadataUri evidence state reason _
      (Transcript.sent_of_accepted accepted)
    cases other
  | valid evidence => exact answerable_actOnValid env auditor task state count

theorem Answerable.prepend {evidence : Evidence} {heard : Transcript} {result : Except Error Outcome}
    (answerable : Answerable auditor task evidence heard result) {first : Transcript} (silent : first.sent = [])
    (thresholds : first.thresholds = []) : Answerable auditor task evidence (first ++ heard) result := by
  have accepted := Transcript.accepted_eq_nil silent
  intro sender address uri indices proofs member
  rw [Transcript.accepted_append, accepted, List.nil_append] at member ⊢
  rw [Transcript.thresholds_append, thresholds, List.nil_append]
  exact answerable sender address uri indices proofs member

theorem answerable_audit :
    Answerable auditor task (verdictFrom auditor task env state).evidence
      (Attempt.transcript env (audit auditor task) state) (Attempt.runIn env (audit auditor task) state).1 := by
  have audited := audited_audit auditor task env state
  generalize Attempt.transcript env (audit auditor task) state = heard at *
  generalize (Attempt.runIn env (audit auditor task) state).1 = result at *
  cases audited with
  | skipped answered left => exact .of_silent rfl
  | @examined record quiet answered auditable apart plays =>
    have acted := (answerable_act env auditor task (examined auditor task env state).2
      (shardCount_verdictFrom auditor task env state)).prepend auditor task apart.sent apart.thresholds
    have whole : Answerable auditor task _ ([⟨.chain (.publishedData task.metadataUri), .ok (some record)⟩] ++ _) _ :=
      acted.prepend auditor task rfl rfl
    exact whole

end

structure Visit where
  verdict : Verdict
  heard : Transcript
  result : Except Error Outcome

def visits {σ : Type} (env : Environment σ) (auditor : Auditor) (task : Task) : Nat → σ → List Visit
  | 0, _ => []
  | rounds + 1, state =>
    ⟨verdictFrom auditor task env state, Attempt.transcript env (audit auditor task) state,
        (Attempt.runIn env (audit auditor task) state).1⟩ ::
      visits env auditor task rounds (Attempt.runIn env (audit auditor task) state).2

structure Visit.Silent (visit : Visit) : Prop where
  unproved : ∀ message ∈ visit.heard.sent, message.isValidityProof = false
  valid : ∀ evidence, visit.verdict = .valid evidence → visit.heard.sent = []

section

variable (order : World → (workers : Nat) → Order workers) (down : Nat → Option Chain.Error)
variable {validator metadataUri : String}

def Proved (validator metadataUri : String) (state : World × Nat) : Prop :=
  (metadataUri, validator) ∈ state.1.ledger.validityProofs

def Proves (validator metadataUri : String) (event : Event) : Prop :=
  ∃ sender indices proofs, event.accepted? = some (.submitValidityProof sender validator metadataUri indices proofs)

theorem proved_answer (ledger : Chain.Ledger) (call : Chain.Call)
    (either : (metadataUri, validator) ∈ ledger.validityProofs ∨
      Proves validator metadataUri ⟨.chain call, .ok (ledger.answer call).1⟩) :
    (metadataUri, validator) ∈ (ledger.answer call).2.validityProofs := by
  cases call with
  | broadcast message =>
    cases message with
    | submitValidityProof sender address uri indices proofs =>
      change _ ∈ (uri, address) :: ledger.validityProofs
      rcases either with held | ⟨_, _, _, accepted⟩
      · exact List.mem_cons_of_mem _ held
      · cases accepted
        exact List.mem_cons_self
    | _ =>
      rcases either with held | ⟨_, _, _, accepted⟩
      · exact held
      · cases accepted
  | _ =>
    rcases either with held | ⟨_, _, _, accepted⟩
    · exact held
    · cases accepted

theorem unreliable_of_due {world : World} {calls : Nat} {err : Chain.Error} (due : down calls = some err)
    (call : Chain.Call) :
    (World.unreliable order down).perform (world, calls) (.chain call) = (.error err, world, calls + 1) := by
  simp only [Environment.scheduled, due]

theorem unreliable_of_spared {world : World} {calls : Nat} (spared : down calls = none) (call : Chain.Call) :
    (World.unreliable order down).perform (world, calls) (.chain call) =
      ((world.ask call).1, (world.ask call).2, calls + 1) := by
  simp only [Environment.scheduled, spared]
  rfl

theorem unreliable_cases (world : World) (calls : Nat) (call : Chain.Call) :
    (∃ err, (World.unreliable order down).perform (world, calls) (.chain call) =
        (.error err, world, calls + 1)) ∨
      (World.unreliable order down).perform (world, calls) (.chain call) =
        (.ok (world.ledger.answer call).1, { world with ledger := (world.ledger.answer call).2 }, calls + 1) := by
  cases due : down calls with
  | some err => exact .inl ⟨err, unreliable_of_due order down due call⟩
  | none =>
    rw [unreliable_of_spared order down due]
    cases fault : world.fault? call.method with
    | some err =>
      rw [World.ask_of_fault fault]
      exact .inl ⟨err, rfl⟩
    | none =>
      rw [World.ask_of_served fault]
      exact .inr rfl

theorem proved_perform {operation : Operation} {answer : operation.Answer} {before next : World × Nat}
    (performed : (World.unreliable order down).perform before operation = (answer, next))
    (either : Proved validator metadataUri before ∨ Proves validator metadataUri ⟨operation, answer⟩) :
    Proved validator metadataUri next := by
  obtain ⟨world, calls⟩ := before
  cases operation with
  | chain call =>
    rcases unreliable_cases order down world calls call with ⟨err, failed⟩ | served
    · rw [failed] at performed
      cases performed
      refine either.resolve_right ?_
      rintro ⟨_, _, _, accepted⟩
      rw [Transcript.accepted?_of_failed rfl] at accepted
      cases accepted
    · rw [served] at performed
      cases performed
      exact proved_answer world.ledger call either
  | prove witness =>
    cases performed
    exact either.resolve_right fun ⟨_, _, _, accepted⟩ => by cases accepted
  | dial protocol source | store protocol object | retrieve protocol object limit =>
    cases performed
    have held := either.resolve_right fun ⟨_, _, _, accepted⟩ => by cases accepted
    change (metadataUri, validator) ∈ (world.setMemory protocol _).ledger.validityProofs
    rw [World.ledger_setMemory]
    exact held

end

section

variable (order : World → (workers : Nat) → Order workers) (down : Nat → Option Chain.Error) (auditor : Auditor)
variable (task : Task) {validator : String}

theorem proved_of_plays {heard : Transcript} {state after : World × Nat}
    (plays : Plays (World.unreliable order down) heard state after)
    (either : Proved validator task.metadataUri state ∨ ∃ event ∈ heard, Proves validator task.metadataUri event) :
    Proved validator task.metadataUri after :=
  plays.reaches (fun _ _ _ _ performed => proved_perform order down performed) either

theorem hasValidityProof_of_proved {state after : World × Nat} {answer : Except Chain.Error Bool}
    (proved : Proved validator task.metadataUri state)
    (asked : (World.unreliable order down).perform state
      (.chain (.hasValidityProof task.metadataUri validator)) = (answer, after)) :
    answer = .ok true ∨ ∃ err, answer = .error err := by
  obtain ⟨world, calls⟩ := state
  rcases unreliable_cases order down world calls (.hasValidityProof task.metadataUri validator) with
    ⟨err, failed⟩ | served
  · rw [failed] at asked
    cases asked
    exact .inr ⟨err, rfl⟩
  · rw [served] at asked
    cases asked
    exact .inl (congrArg Except.ok (List.contains_iff_mem.mpr proved))

theorem sent_actOnValid_of_proved (proving : auditor.provingFor? = some validator) (evidence : Evidence)
    {state : World × Nat} (proved : Proved validator task.metadataUri state) :
    (Attempt.transcript (World.unreliable order down) (actOnValid auditor task.metadataUri evidence)
      state).sent = [] := by
  rw [actOnValid_eq _ _ _ proving, Attempt.transcript_ask_bind]
  obtain ⟨answer, after, asked⟩ : ∃ answer after, (World.unreliable order down).perform state
      (.chain (.hasValidityProof task.metadataUri validator)) = (answer, after) := ⟨_, _, rfl⟩
  rw [asked]
  rcases hasValidityProof_of_proved order down task proved asked with rfl | ⟨err, rfl⟩
  · rfl
  · rfl

theorem silent_of_proved (proving : auditor.provingFor? = some validator) {state : World × Nat}
    (proved : Proved validator task.metadataUri state) {heard : Transcript} {result : Except Error Outcome}
    (audited : Audited auditor task (World.unreliable order down) state heard result) :
    Visit.Silent ⟨verdictFrom auditor task (World.unreliable order down) state, heard, result⟩ := by
  cases audited with
  | skipped answered left => exact ⟨List.forall_mem_nil _, fun _ _ => rfl⟩
  | @examined record quiet answered auditable apart plays =>
    have asked := proved_perform order down (Prod.ext answered rfl) (.inl proved)
    have still := proved_of_plays order down task plays (.inl asked)
    have sent (more : Transcript) : Transcript.sent
        (⟨.chain (.publishedData task.metadataUri), .ok (some record)⟩ :: (quiet ++ more)) = more.sent := by
      change (quiet ++ more).sent = more.sent
      rw [Transcript.sent_append, apart.sent, List.nil_append]
    generalize verdictFrom auditor task (World.unreliable order down) state = verdict
    constructor
    · simp only [sent]
      cases verdict with
      | fraud reason evidence => exact not_validityProof_actOnFraud _ auditor task.metadataUri evidence _ reason
      | valid evidence =>
        intro message member
        rw [act, sent_actOnValid_of_proved order down auditor task proving evidence still] at member
        cases member
    · rintro evidence rfl
      simp only [sent]
      exact sent_actOnValid_of_proved order down auditor task proving evidence still

theorem forall_silent_of_proved (proving : auditor.provingFor? = some validator) (rounds : Nat) {state : World × Nat}
    (proved : Proved validator task.metadataUri state) :
    ∀ visit ∈ visits (World.unreliable order down) auditor task rounds state, visit.Silent := by
  induction rounds generalizing state with
  | zero => exact List.forall_mem_nil _
  | succ rounds ih =>
    have audited := audited_audit auditor task (World.unreliable order down) state
    have kept := proved_of_plays order down task
      (Plays.runIn (World.unreliable order down) (audit auditor task).run state) (.inl proved)
    exact List.forall_mem_cons.mpr ⟨silent_of_proved order down auditor task proving proved audited, ih kept⟩

variable (rounds : Nat) (state : World × Nat)

theorem answerable_visits :
    ∀ visit ∈ visits (World.unreliable order down) auditor task rounds state,
      Answerable auditor task visit.verdict.evidence visit.heard visit.result := by
  induction rounds generalizing state with
  | zero => exact List.forall_mem_nil _
  | succ rounds ih => exact List.forall_mem_cons.mpr ⟨answerable_audit _ auditor task state, ih _⟩

theorem pairwise_silent_visits :
    (visits (World.unreliable order down) auditor task rounds state).Pairwise fun earlier later =>
      (∃ message ∈ earlier.heard.accepted, message.isValidityProof = true) → later.Silent := by
  induction rounds generalizing state with
  | zero => exact .nil
  | succ rounds ih =>
    refine List.pairwise_cons.mpr ⟨?_, ih _⟩
    rintro later member ⟨message, accepted, validity⟩
    cases message with
    | submitValidityProof sender address uri indices proofs =>
      obtain ⟨rfl, proving, -⟩ := answerable_audit (World.unreliable order down) auditor task state sender
        address uri indices proofs accepted
      obtain ⟨event, heard, took⟩ := List.mem_filterMap.mp accepted
      -- What the chain once took it has for good, so every later audit finds a proof there.
      have proved := proved_of_plays order down task
        (Plays.runIn (World.unreliable order down) (audit auditor task).run state)
        (.inr ⟨event, heard, sender, indices, proofs, took⟩)
      exact forall_silent_of_proved order down auditor task proving rounds proved later member
    | _ => cases validity

end

/-- Proofs of a part of the sample do not stay without a report on the rest. -/
def Whole (task : Task) (log : List Visit) : Prop :=
  ∀ visit ∈ log, ∀ sender address uri indices proofs threshold,
    Message.submitValidityProof sender address uri indices proofs ∈ visit.heard.accepted →
      visit.heard.thresholds.head? = some threshold →
        ∀ missing, missing = (sampleIndices address threshold task.shardCount).filter (· ∉ indices) → missing ≠ [] →
          ∃ other ∈ log, ∃ reporter, Message.submitInvalidity reporter uri missing ∈ other.heard.accepted

theorem whole_of_answerable {auditor : Auditor} {task : Task} {log : List Visit}
    (answerable : ∀ visit ∈ log, Answerable auditor task visit.verdict.evidence visit.heard visit.result)
    (reported : ∀ visit ∈ log, ∀ err, visit.result ≠ .error (.submit (.chain err))) : Whole task log := by
  rintro visit member sender address uri indices proofs threshold accepted asked missing rfl lacking
  obtain ⟨rfl, -, given, heard, rfl, either⟩ := answerable visit member sender address uri indices proofs accepted
  obtain rfl := Option.some.inj (asked.symm.trans heard)
  rw [← Evidence.missing_eq] at lacking ⊢
  rcases either lacking with told | ⟨err, refused⟩
  · exact ⟨visit, member, _, told⟩
  · exact absurd refused (reported visit member err)

/-- However often a commitment is audited and whichever calls to the chain fail: a validator answers for what its
proofs leave out in the same audit, or that audit fails, and no later one makes up for it. -/
theorem visits_answerable (order : World → (workers : Nat) → Order workers) (down : Nat → Option Chain.Error)
    (auditor : Auditor) (task : Task) (rounds : Nat) (state : World × Nat) :
    let log := visits (World.unreliable order down) auditor task rounds state
    (∀ visit ∈ log, Answerable auditor task visit.verdict.evidence visit.heard visit.result) ∧
      (log.Pairwise fun earlier later =>
        (∃ message ∈ earlier.heard.accepted, message.isValidityProof = true) → later.Silent) ∧
      (Whole task log ∨ ∃ visit ∈ log, ∃ err, visit.result = .error (.submit (.chain err))) := by
  intro log
  have answerable := answerable_visits order down auditor task rounds state
  refine ⟨answerable, pairwise_silent_visits order down auditor task rounds state, ?_⟩
  by_cases reported : ∀ visit ∈ log, ∀ err, visit.result ≠ .error (.submit (.chain err))
  · exact .inl (whole_of_answerable answerable reported)
  · push Not at reported
    exact .inr reported

structure PartlyHeld (order : World → (workers : Nat) → Order workers) (auditor : Auditor) (task : Task)
    (validator : String) (evidence : Evidence) (sample : List Nat) (world : World) : Prop where
  proving : auditor.provingFor? = some validator
  sourceless : task.dataSourceInfo = ""
  sound : world.faults = []
  keyed : world.prover.missingKey = false
  faultless : world.prover.fault = none
  recorded : ∃ record, world.ledger.published.get? task.metadataUri = some record ∧ record.status.auditable = true
  fresh : (task.metadataUri, validator) ∉ world.ledger.validityProofs
  judged : ((decide auditor.store task).runIn (World.environment order)
    { world with ledger := (world.ledger.answer (.publishedData task.metadataUri)).2 }).1 = .valid evidence
  assigned : sample = sampleIndices validator (min world.ledger.proofThreshold evidence.shardCount) evidence.shardCount
  held : evidence.provable sample ≠ []
  lacking : evidence.missing sample ≠ []

structure SameChain (before after : World) : Prop where
  ledger : after.ledger = before.ledger
  prover : after.prover = before.prover
  faults : after.faults = before.faults

theorem sameChain_setMemory {before between : World} (same : SameChain before between) (protocol : Protocol)
    (memory : Storage.Memory) : SameChain before (between.setMemory protocol memory) := by
  cases protocol <;> exact ⟨same.ledger, same.prover, same.faults⟩

section

variable (order : World → (workers : Nat) → Order workers) (down : Nat → Option Chain.Error)

theorem sameChain_of_storageOnly {α : Type} {program : Program α} (apart : program.StorageOnly) (world : World) :
    SameChain world (program.runIn (World.environment order) world).2 := by
  have plays := Plays.runIn (World.environment order) program world
  have start : SameChain world world ∨ ∃ event ∈ program.transcript (World.environment order) world, False :=
    .inl ⟨rfl, rfl, rfl⟩
  refine plays.reaches (fun event heard before next performed same => ?_) start
  have same := same.resolve_right id
  have storage := apart.transcript (World.environment order) world event heard
  obtain ⟨operation, answer⟩ := event
  cases operation with
  | chain | prove => cases storage
  | dial | store | retrieve =>
    cases performed
    exact sameChain_setMemory same _ _

theorem proveAll_succeeds (entries : List (Nat × Bytes)) {world : World} (keyed : world.prover.missingKey = false)
    (sound : world.prover.fault = none) (calls : Nat) :
    ∃ proofs prover, Attempt.runIn (World.unreliable order down) (proveAll entries) (world, calls) =
      (.ok proofs, { world with prover }, calls) := by
  have serves (state : World × Nat) (shard : Bytes)
      (usual : ∃ prover : Prover.Local, state = ({ world with prover }, calls) ∧ prover.missingKey = false ∧
        prover.fault = none) :
      ∃ proof after, (World.unreliable order down).perform state (.prove (.ofShard shard)) = (.ok proof, after) ∧
        ∃ prover : Prover.Local, after = ({ world with prover }, calls) ∧ prover.missingKey = false ∧
          prover.fault = none := by
    obtain ⟨prover, rfl, keyed, sound⟩ := usual
    refine ⟨Prover.proofOf (.ofShard shard),
      ({ world with prover := { prover with proved := prover.proved + 1 } }, calls), ?_, _, rfl, keyed, sound⟩
    change ((prover.prove (.ofShard shard)).1, { world with prover := (prover.prove (.ofShard shard)).2 }, calls) = _
    rw [prove_ofShard keyed sound]
  obtain ⟨proofs, after, ran, prover, rfl, -⟩ := proveAll_served serves entries ⟨world.prover, rfl, keyed, sound⟩
  exact ⟨proofs, prover, ran⟩

theorem unreliable_served (world : World) {calls : Nat} (sound : world.faults = []) (spared : down calls = none)
    (call : Chain.Call) :
    (World.unreliable order down).perform (world, calls) (.chain call) =
      (.ok (world.ledger.answer call).1, { world with ledger := (world.ledger.answer call).2 }, calls + 1) := by
  have answered : world.fault? call.method = none := by simp [World.fault?, sound]
  rw [unreliable_of_spared order down spared, World.ask_of_served answered]

variable {account : Account} {auditor : Auditor} {validator metadataUri : String} {evidence : Evidence}
variable {sample : List Nat} (world : World) {calls : Nat} {err : Chain.Error}

theorem submit_of_refused_report (named : account.validator = some validator) (sound : world.faults = [])
    (keyed : world.prover.missingKey = false) (faultless : world.prover.fault = none) (spared : down calls = none)
    (refused : down (calls + 1) = some err) (held : evidence.provable sample ≠ [])
    (lacking : evidence.missing sample ≠ []) :
    ∃ proofs,
      (Attempt.transcript (World.unreliable order down) (submit account metadataUri evidence sample)
        (world, calls)).accepted =
          [.submitValidityProof account.sender validator metadataUri (evidence.provable sample) proofs] := by
  obtain ⟨proofs, prover, ran⟩ := proveAll_succeeds order down (evidence.holdings sample) keyed faultless calls
  have proving := proving_proveAll (World.unreliable order down) (evidence.holdings sample) (world, calls)
  have quiet := Transcript.accepted_eq_nil proving.sent
  refine ⟨proofs, ?_⟩
  rw [submit_eq named, Attempt.transcript_bind_of_ok _ ran, Transcript.accepted_append, quiet, List.nil_append,
    validityMessage?, if_neg held, invalidityMessage?, if_neg lacking, announce, Attempt.transcript_bind, runIn_offer,
    transcript_offer, unreliable_served order down { world with prover } sound spared]
  simp only [Attempt.transcript_bind_pure]
  rw [transcript_offer, unreliable_of_due order down refused]
  rfl

theorem actOnValid_of_refused_report (proving : auditor.provingFor? = some validator) (sound : world.faults = [])
    (fresh : (metadataUri, validator) ∉ world.ledger.validityProofs) (keyed : world.prover.missingKey = false)
    (faultless : world.prover.fault = none) (spared : ∀ other ≠ calls + 3, down other = none)
    (refused : down (calls + 3) = some err)
    (assigned : sample =
      sampleIndices validator (min world.ledger.proofThreshold evidence.shardCount) evidence.shardCount)
    (held : evidence.provable sample ≠ []) (lacking : evidence.missing sample ≠ []) :
    ∃ proofs heard,
      Attempt.transcript (World.unreliable order down) (actOnValid auditor metadataUri evidence) (world, calls) =
        ⟨.chain (.hasValidityProof metadataUri validator), .ok false⟩ ::
          ⟨.chain (.proofThreshold evidence.shardCount), .ok (min world.ledger.proofThreshold evidence.shardCount)⟩ ::
            heard ∧
      Transcript.accepted heard =
        [.submitValidityProof auditor.account.sender validator metadataUri (evidence.provable sample) proofs] := by
  have unproved : (world.ledger.answer (.hasValidityProof metadataUri validator)).1 = false := by
    simp [Chain.Ledger.answer, fresh]
  let proved := (world.ledger.answer (.hasValidityProof metadataUri validator)).2
  let asked := (proved.answer (.proofThreshold evidence.shardCount)).2
  obtain ⟨proofs, accepted⟩ := submit_of_refused_report order down { world with ledger := asked }
    (Auditor.validator_of_provingFor proving) sound keyed faultless (spared (calls + 2) (by omega)) refused held lacking
  refine ⟨proofs, _, ?_, accepted⟩
  rw [actOnValid_eq _ _ _ proving, Attempt.transcript_ask_bind,
    unreliable_served order down world sound (spared _ (by omega))]
  simp only [unproved, Bool.false_eq_true, if_false]
  rw [Attempt.transcript_ask_bind,
    unreliable_served order down { world with ledger := proved } sound (spared _ (by omega))]
  simp only [Attempt.transcript_bind_pure, Attempt.transcript_adapt]
  rw [assigned]
  rfl

theorem examined_unreliable (auditor : Auditor) {task : Task} (sourceless : task.dataSourceInfo = "")
    (sound : world.faults = []) (spared : down calls = none) :
    let asked := { world with ledger := (world.ledger.answer (.publishedData task.metadataUri)).2 }
    examined auditor task (World.unreliable order down) (world, calls) =
      (((decide auditor.store task).runIn (World.environment order) asked).1,
        ((decide auditor.store task).runIn (World.environment order) asked).2, calls + 1) := by
  rw [examined, unreliable_served order down world sound spared, sourceless]
  exact (storageOnly_decide auditor.store task).runIn_scheduled (World.environment order) down _ (calls + 1)

theorem audit_of_refused_report {task : Task} (partly : PartlyHeld order auditor task validator evidence sample world)
    (spared : ∀ other ≠ calls + 4, down other = none) (refused : down (calls + 4) = some err) :
    ∃ proofs,
      (Attempt.transcript (World.unreliable order down) (audit auditor task) (world, calls)).accepted =
        [.submitValidityProof auditor.account.sender validator task.metadataUri (evidence.provable sample) proofs] ∧
      (Attempt.transcript (World.unreliable order down) (audit auditor task)
        (world, calls)).thresholds.head? = some (min world.ledger.proofThreshold evidence.shardCount) := by
  obtain ⟨proving, sourceless, sound, keyed, faultless, ⟨record, recorded, auditable⟩, fresh, judged, assigned, held,
    lacking⟩ := partly
  have served := unreliable_served order down world sound (spared calls (by omega)) (.publishedData task.metadataUri)
  have looked := examined_unreliable order down world auditor sourceless sound (spared calls (by omega))
  have audited := audited_audit auditor task (World.unreliable order down) (world, calls)
  generalize Attempt.transcript (World.unreliable order down) (audit auditor task) (world, calls) = heard at *
  generalize (Attempt.runIn (World.unreliable order down) (audit auditor task) (world, calls)).1 = result at *
  cases audited with
  | skipped answered left =>
    rw [served] at answered
    have found := left record (answered ▸ congrArg Except.ok recorded)
    rw [auditable] at found
    cases found
  | @examined record quiet answered auditable apart plays =>
    have same := sameChain_of_storageOnly order (storageOnly_decide auditor.store task)
      { world with ledger := (world.ledger.answer (.publishedData task.metadataUri)).2 }
    rw [verdictFrom, looked, judged]
    generalize ((decide auditor.store task).runIn (World.environment order) _).2 = judging at same
    have threshold : judging.ledger.proofThreshold = world.ledger.proofThreshold := by
      rw [same.ledger]
      rfl
    have unproved : (task.metadataUri, validator) ∉ judging.ledger.validityProofs := by
      rw [same.ledger]
      exact fresh
    rw [← threshold] at assigned ⊢
    obtain ⟨proofs, later, acted, accepted⟩ := actOnValid_of_refused_report order down judging proving
      (same.faults.trans sound) unproved (same.prover ▸ keyed) (same.prover ▸ faultless)
      (fun other elsewhere => spared other (by omega)) refused assigned held lacking
    have silent := Transcript.accepted_eq_nil apart.sent
    rw [act, acted]
    refine ⟨proofs, ?_, ?_⟩
    · change (quiet ++ (_ :: _ :: later)).accepted = _
      rw [Transcript.accepted_append, silent]
      exact accepted
    · change (quiet ++ (_ :: _ :: later)).thresholds.head? = _
      rw [Transcript.thresholds_append, apart.thresholds]
      rfl

end

theorem exists_partlyHeld : ∃ auditor task evidence sample world,
    PartlyHeld World.inOrder auditor task "carol" evidence sample world := by
  let publisher : Publish.Publisher := { store := { registry := [.ipfs] }, sender := "alice" }
  -- With a threshold at the number of shards the sample is all of them, whatever the name of the validator.
  let blank : World := { World.blank with ledger := { params := ⟨1, 8, 1024⟩, proofThreshold := 3 } }
  have proper : blank.Proper := by
    intro protocol
    cases protocol <;> rfl
  obtain ⟨published, before, ran, -⟩ := Publish.publish_accepts World.inOrder publisher [1, 2, 3] 2 1 "ipfs" blank rfl
    (List.mem_singleton_self _) (by decide) ⟨rfl, rfl, rfl⟩ (by decide) (by decide) (by decide)
  obtain ⟨protocol, encoded, shardUris, tagged, some_data, few, encodes, deposit⟩ := Publish.publish_deposits proper ran
  obtain rfl : Protocol.ipfs = protocol := Except.ok.inj tagged
  obtain ⟨publication, named, ledger⟩ := Publish.publish_ledger ran
  have total : encoded.shards.length = 3 := Erasure.length_shards (by decide) few encodes
  let metadata := Publish.metadataFor [1, 2, 3] 1 encoded shardUris
  let task : Task := ⟨published.metadataUri, encoded.shards.map doubleHash, 1, ""⟩
  let auditor : Auditor :=
    { store := publisher.store, account := ⟨"bob", some "carol"⟩, policy := { submitProof := true } }
  have count : metadata.shardCount = 3 := deposit.listed.trans total
  have committed : task.shardCount = 3 := (List.length_map _).trans total
  have inside : 0 < metadata.shardCount := by omega
  let world := before.without (metadata.shardUris.getD 0 "")
  have there : world.ledger =
    ((blank.ledger.answer .params).2.answer (.broadcast (.publishData publication))).2 := ledger
  let evidence : Evidence := ⟨3, [(1, encoded.shards.getD 1 []), (2, encoded.shards.getD 2 [])]⟩
  let sample := sampleIndices "carol" 3 3
  have assigned (index : Nat) (below : index < 3) : index ∈ sample := mem_sampleIndices_of_le (Nat.le_refl 3) below
  have proved : 1 ∈ evidence.provable sample := List.mem_filter.mpr ⟨assigned 1 (by decide), rfl⟩
  have missing : 0 ∈ evidence.missing sample := List.mem_filter.mpr ⟨assigned 0 (by decide), rfl⟩
  refine ⟨auditor, task, evidence, sample, world, ?_⟩
  constructor
  case recorded =>
    have uri : task.metadataUri = publication.metadataUri := named.symm
    rw [there, uri]
    exact ⟨_, Table.get?_put_self _ _ _, rfl⟩
  case fresh =>
    rw [there]
    exact List.not_mem_nil
  case judged =>
    let asked : World := { world with ledger := (world.ledger.answer (.publishedData task.metadataUri)).2 }
    have loss : Loss publisher.store .ipfs published.metadataUri metadata before asked :=
      (loss_of_without (ne_getD_of_nodup deposit.distinct inside)).ledger rfl
    have described : task.Described metadata := by
      refine ⟨?_, count.trans committed.symm, rfl⟩
      change 1 < task.shardCount
      omega
    have held : intact .ipfs metadata before asked = [1, 2] := by
      change intact .ipfs metadata before world = _
      rw [deposit.intact_without inside, count]
      rfl
    rw [Loss.decide_after World.inOrder deposit.standing loss task rfl rfl described, held, judge, committed]
    rfl
  case assigned =>
    rw [there]
    rfl
  case held => exact List.ne_nil_of_mem proved
  case lacking => exact List.ne_nil_of_mem missing
  all_goals rfl

theorem not_whole : ¬ ∀ (order : World → (workers : Nat) → Order workers) (down : Nat → Option Chain.Error)
    (auditor : Auditor) (task : Task) (rounds : Nat) (state : World × Nat),
    Whole task (visits (World.unreliable order down) auditor task rounds state) := by
  intro claim
  obtain ⟨auditor, task, evidence, sample, world, partly⟩ := exists_partlyHeld
  -- The calls before ask for the record, for an earlier proof and for the threshold, and submit the proofs.
  let down (calls : Nat) : Option Chain.Error := if calls = 4 then some (.transport "unreachable") else none
  have spared (call : Nat) (other : call ≠ 0 + 4) : down call = none := if_neg other
  obtain ⟨proofs, accepted, heard⟩ := audit_of_refused_report World.inOrder down world partly spared rfl
  have count : evidence.shardCount = task.shardCount := by
    have judged : _ = evidence.shardCount := congrArg (fun verdict => verdict.evidence.shardCount) partly.judged
    exact judged.symm.trans (evidence_decide _ auditor.store task _).1
  have same : sampleIndices "carol" (min world.ledger.proofThreshold evidence.shardCount) task.shardCount = sample := by
    rw [← count]
    exact partly.assigned.symm
  obtain ⟨other, member, reporter, reported⟩ := claim World.inOrder down auditor task 1 (world, 0) _ List.mem_cons_self
    _ _ _ _ _ _ (accepted ▸ List.mem_singleton_self _) heard _ (by rw [same, ← evidence.missing_eq]) partly.lacking
  obtain rfl := List.mem_singleton.mp member
  rw [accepted] at reported
  cases List.mem_singleton.mp reported

end Audit

end Availability
