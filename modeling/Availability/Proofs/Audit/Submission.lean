import Mathlib.Data.List.Basic
import Availability.Audit.Submission
import Availability.Proofs.Audit.Decision
import Availability.Proofs.Faults

namespace Availability

namespace Environment

variable {σ : Type}

def proves (env : Environment σ) (witness : Witness) (answer : Except Prover.Error Proof) : Prop :=
  ∃ state, (env.perform state (.prove witness)).1 = answer

def proving (env : Environment σ) (prover : Witness → Except Prover.Error Proof) : Environment σ where
  order := env.order
  perform state operation :=
    match operation with
    | .prove witness => (prover witness, (env.perform state (.prove witness)).2)
    | operation => env.perform state operation

theorem proves_proving {env : Environment σ} {prover : Witness → Except Prover.Error Proof} {witness : Witness}
    {answer : Except Prover.Error Proof} (proves : (env.proving prover).proves witness answer) :
    prover witness = answer := by
  obtain ⟨state, answered⟩ := proves
  exact answered

end Environment

namespace Audit

section

variable {ε : Type}

def offer (message : Option Message) (f : Chain.Error → ε) : Attempt ε (Option String) :=
  match message with
  | none => return none
  | some message => some <$> Attempt.orFail (Program.ask (.broadcast message)) f

theorem direct_offer (message : Option Message) (f : Chain.Error → ε) : (offer message f).Direct := by
  cases message with
  | none => exact .pure none
  | some message => exact (Attempt.Direct.ask (.broadcast message) f).bind fun transaction => .pure (some transaction)

variable {σ : Type} (env : Environment σ) (f : Chain.Error → ε) (state : σ)

theorem transcript_offer (message : Message) :
    Attempt.transcript env (offer (some message) f) state =
      [⟨.chain (.broadcast message), (env.perform state (.chain (.broadcast message))).1⟩] := by
  change Attempt.transcript env (Attempt.orFail (Program.ask (.broadcast message)) f >>= fun transaction =>
    pure (some transaction)) state = _
  rw [Attempt.transcript_ask_bind]
  rcases env.perform state (.chain (.broadcast message)) with ⟨err | transaction, after⟩ <;> rfl

theorem sent_offer (message : Option Message) :
    (Attempt.transcript env (offer message f) state).sent = message.toList := by
  cases message with
  | none => rfl
  | some message => rw [transcript_offer]; rfl

theorem sends_offer (message : Option Message) : (offer message f).Sends env state message.toList where
  before := by rw [sent_offer]
  all _ _ := sent_offer env f state message

theorem broadcasting_offer (message : Option Message) :
    (Attempt.transcript env (offer message f) state).Broadcasting := by
  cases message with
  | none => exact List.forall_mem_nil _
  | some message =>
    rw [transcript_offer]
    exact List.forall_mem_singleton.mpr rfl

theorem runIn_offer (message : Message) :
    Attempt.runIn env (offer (some message) f) state =
      match env.perform state (.chain (.broadcast message)) with
      | (.ok transaction, after) => (.ok (some transaction), after)
      | (.error err, after) => (.error (f err), after) := by
  change Attempt.runIn env (Attempt.orFail (Program.ask (.broadcast message)) f >>= fun transaction =>
    pure (some transaction)) state = _
  rw [Attempt.runIn_ask_bind]
  rcases env.perform state (.chain (.broadcast message)) with ⟨err | transaction, after⟩ <;> rfl

variable {env f state} in
theorem error_offer {message : Option Message} {err : ε}
    (ended : (Attempt.runIn env (offer message f) state).1 = .error err) : ∃ cause, err = f cause := by
  cases message with
  | none => cases ended
  | some message =>
    rw [runIn_offer] at ended
    rcases answered : env.perform state (.chain (.broadcast message)) with ⟨cause | transaction, after⟩
    · rw [answered] at ended
      cases ended
      exact ⟨cause, rfl⟩
    · rw [answered] at ended
      cases ended

end

namespace Evidence

variable (evidence : Evidence) (sample : List Nat)

def provable : List Nat := sample.filter evidence.isValid

def missing : List Nat := sample.filter fun index => !evidence.isValid index

def holdings : List (Nat × Bytes) :=
  (evidence.provable sample).filterMap fun index => (evidence.shard? index).map (index, ·)

theorem holdings_indices : (evidence.holdings sample).map (·.1) = evidence.provable sample := by
  rw [holdings, List.map_filterMap]
  refine (List.filterMap_congr fun index member => ?_).trans List.filterMap_some
  have held : (evidence.shard? index).isSome = true := (List.mem_filter.mp member).2
  obtain ⟨shard, found⟩ := Option.isSome_iff_exists.mp held
  simp [found]

theorem holdings_eq :
    evidence.holdings sample = sample.filterMap fun index => (evidence.shard? index).map (index, ·) := by
  rw [holdings, provable, List.filterMap_filter]
  refine List.filterMap_congr fun index _ => ?_
  cases found : evidence.shard? index <;> simp [isValid, found]

theorem mem_holdings {index : Nat} {shard : Bytes} :
    (index, shard) ∈ evidence.holdings sample ↔ index ∈ sample ∧ evidence.shard? index = some shard := by
  simp only [holdings_eq, List.mem_filterMap, Option.map_eq_some_iff, Prod.mk.injEq]
  constructor
  · rintro ⟨_, member, _, found, rfl, rfl⟩
    exact ⟨member, found⟩
  · rintro ⟨member, found⟩
    exact ⟨index, member, shard, found, rfl, rfl⟩

theorem sample_of_holdings {before rest : List (Nat × Bytes)} {index : Nat} {shard : Bytes}
    (held : evidence.holdings sample = before ++ (index, shard) :: rest) :
    evidence.shard? index = some shard ∧
      ∃ earlier later, sample = earlier ++ index :: later ∧ evidence.holdings earlier = before := by
  have here : evidence.shard? index = some shard := ((evidence.mem_holdings sample).mp (by simp [held])).2
  rw [holdings_eq, List.filterMap_eq_append_iff] at held
  obtain ⟨first, second, rfl, prior, held⟩ := held
  obtain ⟨skipped, place, later, rfl, absent, found, -⟩ := List.filterMap_eq_cons_iff.mp held
  obtain ⟨bytes, _, same⟩ := Option.map_eq_some_iff.mp found
  cases same
  refine ⟨here, first ++ skipped, later, by simp, ?_⟩
  rw [holdings_eq, List.filterMap_append, prior, List.filterMap_eq_nil_iff.mpr absent, List.append_nil]

theorem provable_append_missing_perm : (evidence.provable sample ++ evidence.missing sample).Perm sample :=
  List.filter_append_perm _ sample

theorem missing_eq : evidence.missing sample = sample.filter (· ∉ evidence.provable sample) := by
  refine List.filter_congr fun index member => ?_
  cases held : evidence.isValid index <;> simp [provable, member, held]

theorem provable_disjoint_missing : (evidence.provable sample).Disjoint (evidence.missing sample) := by
  intro index held absent
  have valid := (List.mem_filter.mp held).2
  have invalid := (List.mem_filter.mp absent).2
  simp [valid] at invalid

end Evidence

section

variable (account : Account) (validator metadataUri : String) (indices : List Nat)

def validityMessage? (proofs : List Proof) : Option Message :=
  if indices = [] then none
  else some (.submitValidityProof account.sender validator metadataUri indices proofs)

def invalidityMessage? : Option Message :=
  if indices = [] then none else some (.submitInvalidity account.sender metadataUri indices)

theorem reportMissing_eq :
    reportMissing account metadataUri indices = offer (invalidityMessage? account metadataUri indices) .chain := by
  cases indices <;> rfl

def announce (validity invalidity : Option Message) (proved unprovable : List Nat) :
    Attempt SubmitError Submission := do
  let validityTransaction ← offer validity .chain
  let invalidityTransaction ← offer invalidity .chain
  return { proved, unprovable, validityTransaction, invalidityTransaction }

theorem submit_eq {account : Account} {validator : String} (named : account.validator = some validator)
    (metadataUri : String) (evidence : Evidence) (sample : List Nat) :
    submit account metadataUri evidence sample =
      proveAll (evidence.holdings sample) >>= fun proofs =>
        announce (validityMessage? account validator metadataUri (evidence.provable sample) proofs)
          (invalidityMessage? account metadataUri (evidence.missing sample)) (evidence.provable sample)
          (evidence.missing sample) := by
  unfold submit
  rw [named]
  rcases halves : sample.partition evidence.isValid with ⟨proved, unprovable⟩
  rw [List.partition_eq_filter_filter] at halves
  cases halves
  refine congrArg (proveAll (evidence.holdings sample) >>= ·) (funext fun proofs => ?_)
  rw [announce, ← reportMissing_eq]
  cases held : evidence.provable sample with
  | nil =>
    have empty : sample.filter evidence.isValid = [] := held
    rw [empty]
    rfl
  | cons first others =>
    have same : sample.filter evidence.isValid = first :: others := held
    rw [same]
    rfl

end

section

variable {σ : Type} (env : Environment σ) (validity invalidity : Option Message) (proved unprovable : List Nat)
variable (state : σ)

theorem sends_announce :
    (announce validity invalidity proved unprovable).Sends env state (validity.toList ++ invalidity.toList) := by
  have sends := (sends_offer env SubmitError.chain state validity).bind fun transaction between _ =>
    (sends_offer env SubmitError.chain between invalidity).bind fun second after _ =>
      Attempt.Sends.pure env after (Submission.mk proved unprovable transaction second)
  rwa [List.append_nil] at sends

theorem broadcasting_announce :
    (Attempt.transcript env (announce validity invalidity proved unprovable) state).Broadcasting :=
  Attempt.forall_transcript_bind env (broadcasting_offer env _ state validity) fun _ between =>
    Attempt.forall_transcript_bind env (broadcasting_offer env _ between invalidity) fun _ _ => List.forall_mem_nil _

theorem error_announce {err : SubmitError}
    (ended : (Attempt.runIn env (announce validity invalidity proved unprovable) state).1 = .error err) :
    ∃ cause, err = .chain cause := by
  unfold announce at ended
  rw [Attempt.runIn_bind] at ended
  rcases first : Attempt.runIn env (offer validity SubmitError.chain) state with ⟨cause | transaction, between⟩
  · rw [first] at ended
    cases ended
    exact error_offer (congrArg Prod.fst first)
  · rw [first] at ended
    simp only [Attempt.runIn_bind_pure] at ended
    rcases second : Attempt.runIn env (offer invalidity SubmitError.chain) between with ⟨cause | report, after⟩
    · rw [second] at ended
      cases ended
      exact error_offer (congrArg Prod.fst second)
    · rw [second] at ended
      cases ended

theorem submission_announce {submission : Submission}
    (ended : (Attempt.runIn env (announce validity invalidity proved unprovable) state).1 = .ok submission) :
    submission.proved = proved ∧ submission.unprovable = unprovable := by
  obtain ⟨_, _, _, rest⟩ := Attempt.runIn_bind_eq_ok.mp (Prod.ext ended rfl)
  obtain ⟨_, _, _, last⟩ := Attempt.runIn_bind_eq_ok.mp rest
  cases last
  exact ⟨rfl, rfl⟩

end

/-- How shards are proved one after the other, by a prover that may give these answers. -/
inductive Proving (answers : Witness → Except Prover.Error Proof → Prop) :
    List (Nat × Bytes) → Transcript → Except SubmitError (List Proof) → Prop where
  | done : Proving answers [] [] (.ok [])
  | stuck {index : Nat} {shard : Bytes} {rest : List (Nat × Bytes)} {err : Prover.Error}
      (answered : answers (.ofShard shard) (.error err)) :
      Proving answers ((index, shard) :: rest) [⟨.prove (.ofShard shard), .error err⟩] (.error (.prover index err))
  | more {index : Nat} {shard : Bytes} {rest : List (Nat × Bytes)} {heard : Transcript}
      {result : Except SubmitError (List Proof)} {proof : Proof} (answered : answers (.ofShard shard) (.ok proof))
      (others : Proving answers rest heard result) :
      Proving answers ((index, shard) :: rest) (⟨.prove (.ofShard shard), .ok proof⟩ :: heard)
        (result.map (proof :: ·))

theorem proving_proveAll {σ : Type} (env : Environment σ) (entries : List (Nat × Bytes)) (state : σ) :
    Proving env.proves entries (Attempt.transcript env (proveAll entries) state)
      (Attempt.runIn env (proveAll entries) state).1 := by
  induction entries generalizing state with
  | nil => exact .done
  | cons entry rest ih =>
    obtain ⟨index, shard⟩ := entry
    rw [proveAll, Attempt.runIn_bind, Attempt.transcript_bind, Attempt.runIn_orFail, Attempt.transcript_orFail]
    rcases answered : env.perform state (.prove (.ofShard shard)) with ⟨err | proof, after⟩
    · simp only [Program.prove, Program.transcript, Program.runIn, answered, Except.mapError, List.append_nil]
      exact .stuck ⟨state, by rw [answered]⟩
    · simp only [Program.prove, Program.transcript, Program.runIn, answered, Except.mapError]
      rw [Attempt.runIn_bind, Attempt.transcript_bind]
      have others : Proving _ ((index, shard) :: rest) _ _ := .more ⟨state, by rw [answered]⟩ (ih after)
      rcases ran : Attempt.runIn env (proveAll rest) after with ⟨err | proofs, last⟩
      · rw [ran] at others
        simpa [Except.map] using others
      · rw [ran] at others
        simpa [Except.map] using others

/-- Shards are proved as long as the prover does not fail, which it may do in some states only. -/
theorem proveAll_served {σ : Type} {env : Environment σ} {sound : σ → Prop}
    (serves : ∀ state shard, sound state → ∃ proof after,
      env.perform state (.prove (.ofShard shard)) = (.ok proof, after) ∧ sound after)
    (entries : List (Nat × Bytes)) {state : σ} (start : sound state) :
    ∃ proofs after, Attempt.runIn env (proveAll entries) state = (.ok proofs, after) ∧ sound after := by
  induction entries generalizing state with
  | nil => exact ⟨[], state, rfl, start⟩
  | cons entry rest ih =>
    obtain ⟨index, shard⟩ := entry
    obtain ⟨proof, between, proved, still⟩ := serves state shard start
    obtain ⟨proofs, after, ran, last⟩ := ih still
    refine ⟨proof :: proofs, after, ?_, last⟩
    rw [proveAll, Attempt.runIn_bind, Attempt.runIn_orFail]
    simp only [Program.prove, Program.runIn, proved, Except.mapError]
    rw [Attempt.runIn_bind, ran]
    rfl

namespace Proving

variable {answers : Witness → Except Prover.Error Proof → Prop} {entries : List (Nat × Bytes)} {heard : Transcript}
variable {result : Except SubmitError (List Proof)} (proving : Proving answers entries heard result)
include proving

theorem sent : heard.sent = [] := by
  induction proving with
  | done => rfl
  | stuck answered => rfl
  | more answered others ih => exact ih

theorem thresholds : heard.thresholds = [] := by
  induction proving with
  | done => rfl
  | stuck answered => rfl
  | more answered others ih => exact ih

theorem witnesses_prefix : heard.witnesses <+: entries.map (Witness.ofShard ·.2) := by
  induction proving with
  | done => exact List.prefix_rfl
  | stuck answered => exact List.prefix_append [_] _
  | more answered others ih => exact (List.prefix_cons_inj _).mpr ih

theorem succeeded {proofs : List Proof} (ended : result = .ok proofs) :
    heard.witnesses = entries.map (Witness.ofShard ·.2) ∧ heard.proofs = proofs ∧
      List.Forall₂ (fun entry proof => answers (.ofShard entry.2) (.ok proof)) entries proofs := by
  induction proving generalizing proofs with
  | done =>
    cases ended
    exact ⟨rfl, rfl, .nil⟩
  | stuck answered => cases ended
  | @more index shard rest heard result proof answered others ih =>
    cases result with
    | error err => cases ended
    | ok earlier =>
      cases ended
      obtain ⟨witnesses, proofs, matched⟩ := ih rfl
      exact ⟨congrArg (Witness.ofShard shard :: ·) witnesses, congrArg (proof :: ·) proofs, .cons answered matched⟩

theorem failed {err : SubmitError} (ended : result = .error err) :
    ∃ before index shard rest cause, entries = before ++ (index, shard) :: rest ∧
      (∀ entry ∈ before, ∃ proof, answers (.ofShard entry.2) (.ok proof)) ∧
      answers (.ofShard shard) (.error cause) ∧ err = .prover index cause := by
  induction proving generalizing err with
  | done => cases ended
  | @stuck index shard rest cause answered =>
    cases ended
    exact ⟨[], index, shard, rest, cause, rfl, by simp, answered, rfl⟩
  | @more index shard rest heard result proof answered others ih =>
    cases result with
    | ok proofs => cases ended
    | error cause =>
      cases ended
      obtain ⟨before, at', bytes, later, reason, rfl, sound, broken, rfl⟩ := ih rfl
      refine ⟨(index, shard) :: before, at', bytes, later, reason, rfl, ?_, broken, rfl⟩
      exact List.forall_mem_cons.mpr ⟨⟨proof, answered⟩, sound⟩

end Proving

section

variable (account : Account) (validator metadataUri : String) (evidence : Evidence) (sample : List Nat)

def submissionMessages (proofs : List Proof) : List Message :=
  (validityMessage? account validator metadataUri (evidence.provable sample) proofs).toList ++
    (invalidityMessage? account metadataUri (evidence.missing sample)).toList

/-- What a submission performs and how it ends: nothing is broadcast before all proofs are there. -/
inductive Submitting (answers : Witness → Except Prover.Error Proof → Prop) :
    Transcript → Except SubmitError Submission → Prop where
  | refused {heard : Transcript} {err : SubmitError}
      (proving : Proving answers (evidence.holdings sample) heard (.error err)) :
      Submitting answers heard (.error err)
  | proven {heard later : Transcript} {proofs : List Proof} {result : Except SubmitError Submission}
      (proving : Proving answers (evidence.holdings sample) heard (.ok proofs))
      (broadcasting : later.Broadcasting)
      (before : later.sent <+: submissionMessages account validator metadataUri evidence sample proofs)
      (all : ∀ submission, result = .ok submission →
        later.sent = submissionMessages account validator metadataUri evidence sample proofs ∧
          submission.proved = evidence.provable sample ∧ submission.unprovable = evidence.missing sample)
      (failed : ∀ err, result = .error err → ∃ cause, err = .chain cause) :
      Submitting answers (heard ++ later) result

variable {account validator}

theorem submitting_submit (named : account.validator = some validator) {σ : Type} (env : Environment σ) (state : σ) :
    Submitting account validator metadataUri evidence sample env.proves
      (Attempt.transcript env (submit account metadataUri evidence sample) state)
      (Attempt.runIn env (submit account metadataUri evidence sample) state).1 := by
  have proving := proving_proveAll env (evidence.holdings sample) state
  rw [submit_eq named, Attempt.transcript_bind, Attempt.runIn_bind]
  rcases ran : Attempt.runIn env (proveAll (evidence.holdings sample)) state with ⟨err | proofs, proved⟩
  · rw [ran] at proving
    simpa using Submitting.refused proving
  · rw [ran] at proving
    have sends := sends_announce env (validityMessage? account validator metadataUri (evidence.provable sample) proofs)
      (invalidityMessage? account metadataUri (evidence.missing sample)) (evidence.provable sample)
      (evidence.missing sample) proved
    refine .proven proving (broadcasting_announce env _ _ _ _ proved) sends.before (fun submission ended => ?_)
      fun err => error_announce env _ _ _ _ proved
    exact ⟨sends.all submission ended, submission_announce env _ _ _ _ proved ended⟩

theorem direct_proveAll (entries : List (Nat × Bytes)) : (proveAll entries).Direct := by
  induction entries with
  | nil => exact .pure []
  | cons entry rest ih =>
    obtain ⟨index, shard⟩ := entry
    have proves := Attempt.Direct.prove (.ofShard shard) (SubmitError.prover index)
    exact proves.bind fun proof => ih.bind fun proofs => .pure (proof :: proofs)

theorem direct_submit (named : account.validator = some validator) :
    (submit account metadataUri evidence sample).Direct := by
  rw [submit_eq named]
  exact (direct_proveAll _).bind fun _ => (direct_offer _ _).bind fun _ => (direct_offer _ _).bind fun _ => .pure _

end

/-- What a submission proves and sends with a function for its prover. -/
structure Correlated (prover : Witness → Except Prover.Error Proof) (account : Account) (validator metadataUri : String)
    (evidence : Evidence) (sample : List Nat) (heard : Transcript) (result : Except SubmitError Submission) :
    Prop where
  ends : heard.Faultless ↔ ∃ submission, result = .ok submission
  witnesses : heard.witnesses <+: (evidence.holdings sample).map (Witness.ofShard ·.2)
  complete : (∀ entry ∈ evidence.holdings sample, ∃ proof, prover (.ofShard entry.2) = .ok proof) →
    heard.witnesses = (evidence.holdings sample).map (Witness.ofShard ·.2)
  sent : ∀ submission, result = .ok submission → ∃ proofs,
    (evidence.holdings sample).map (fun entry => prover (.ofShard entry.2)) = proofs.map .ok ∧
      heard.sent = submissionMessages account validator metadataUri evidence sample proofs
  validity : ∀ (sender address uri : String) (indices : List Nat) (proofs : List Proof),
    Message.submitValidityProof sender address uri indices proofs ∈ heard.sent →
      sender = account.sender ∧ address = validator ∧ uri = metadataUri ∧ indices = sample.filter evidence.isValid ∧
        proofs.length = indices.length ∧ ∀ k index : Nat, indices[k]? = some index → ∃ shard proof,
          evidence.shard? index = some shard ∧ (Witness.ofShard shard).consistent = true ∧
            prover (.ofShard shard) = .ok proof ∧ proofs[k]? = some proof
  invalidity : ∀ (sender uri : String) (indices : List Nat), .submitInvalidity sender uri indices ∈ heard.sent →
    sender = account.sender ∧ uri = metadataUri ∧ indices = sample.filter fun index => !evidence.isValid index
  split : ∀ submission, result = .ok submission → submission.proved = sample.filter evidence.isValid ∧
    (submission.proved ++ submission.unprovable).Perm sample ∧ submission.proved.Disjoint submission.unprovable
  refused : ∀ index ∈ sample, ∀ shard err, evidence.shard? index = some shard → prover (.ofShard shard) = .error err →
    heard.sent = [] ∧ ∃ before first after bytes failure, sample = before ++ first :: after ∧
      evidence.shard? first = some bytes ∧ prover (.ofShard bytes) = .error failure ∧
        (∀ earlier ∈ before, ∀ sound, evidence.shard? earlier = some sound →
          ∃ proof, prover (.ofShard sound) = .ok proof) ∧
          result = .error (.prover first failure)

theorem consistent_ofShard (shard : Bytes) : (Witness.ofShard shard).consistent = true := by
  simp [Witness.consistent, Witness.ofShard, doubleHash]

theorem prove_ofShard {prover : Prover.Local} (keyed : prover.missingKey = false) (sound : prover.fault = none)
    (shard : Bytes) :
    prover.prove (.ofShard shard) =
      (.ok (Prover.proofOf (.ofShard shard)), { prover with proved := prover.proved + 1 }) := by
  simp [Prover.Local.prove, Prover.Local.dueFault?, keyed, sound, consistent_ofShard]

section

variable {prover : Witness → Except Prover.Error Proof} {account : Account} {validator metadataUri : String}
variable {evidence : Evidence} {sample : List Nat} {heard : Transcript} {result : Except SubmitError Submission}

theorem validity_of_mem_submissionMessages {proofs listed : List Proof} {sender address uri : String}
    {indices : List Nat} (member : .submitValidityProof sender address uri indices listed ∈
      submissionMessages account validator metadataUri evidence sample proofs) :
    sender = account.sender ∧ address = validator ∧ uri = metadataUri ∧ indices = evidence.provable sample ∧
      listed = proofs := by
  unfold submissionMessages validityMessage? invalidityMessage? at member
  split at member <;> split at member <;> simp_all

theorem invalidity_of_mem_submissionMessages {proofs : List Proof} {sender uri : String} {indices : List Nat}
    (member : .submitInvalidity sender uri indices ∈
      submissionMessages account validator metadataUri evidence sample proofs) :
    sender = account.sender ∧ uri = metadataUri ∧ indices = evidence.missing sample := by
  unfold submissionMessages validityMessage? invalidityMessage? at member
  split at member <;> split at member <;> simp_all

theorem correlated_of_refused {err : SubmitError} (ends : ¬ heard.Faultless)
    (proving : Proving (fun witness answer => prover witness = answer) (evidence.holdings sample) heard (.error err)) :
    Correlated prover account validator metadataUri evidence sample heard (.error err) := by
  obtain ⟨before, first, bytes, rest, failure, held, sound, broken, rfl⟩ := proving.failed rfl
  obtain ⟨here, earlier, later, split, prior⟩ := evidence.sample_of_holdings sample held
  have silent := proving.sent
  constructor
  case ends => simp [ends]
  case witnesses => exact proving.witnesses_prefix
  case complete =>
    intro every
    obtain ⟨proof, proved⟩ := every (first, bytes) (by simp [held])
    rw [broken] at proved
    cases proved
  case sent => simp
  case validity => simp [silent]
  case invalidity => simp [silent]
  case split => simp
  case refused =>
    intro _ _ _ _ _ _
    -- The shard that stops the proofs is the first of its kind in the sample too, which keeps its order.
    refine ⟨silent, earlier, first, later, bytes, failure, split, here, broken, ?_, rfl⟩
    intro index member shard found
    exact sound (index, shard) (prior ▸ (evidence.mem_holdings earlier).mpr ⟨member, found⟩)

theorem correlated_of_proven {later : Transcript} {proofs : List Proof}
    (ends : (heard ++ later).Faultless ↔ ∃ submission, result = .ok submission)
    (proving : Proving (fun witness answer => prover witness = answer) (evidence.holdings sample) heard (.ok proofs))
    (broadcasting : later.Broadcasting)
    (before : later.sent <+: submissionMessages account validator metadataUri evidence sample proofs)
    (all : ∀ submission, result = .ok submission →
      later.sent = submissionMessages account validator metadataUri evidence sample proofs ∧
        submission.proved = evidence.provable sample ∧ submission.unprovable = evidence.missing sample) :
    Correlated prover account validator metadataUri evidence sample (heard ++ later) result := by
  obtain ⟨witnesses, -, matched⟩ := proving.succeeded rfl
  have sent : (heard ++ later).sent = later.sent := by rw [Transcript.sent_append, proving.sent, List.nil_append]
  have proved : (heard ++ later).witnesses = (evidence.holdings sample).map (Witness.ofShard ·.2) := by
    rw [Transcript.witnesses_append, broadcasting.witnesses, List.append_nil, witnesses]
  have answered : (evidence.holdings sample).map (fun entry => prover (.ofShard entry.2)) = proofs.map .ok := by
    rwa [← List.forall₂_eq_eq_eq, List.forall₂_map_left_iff, List.forall₂_map_right_iff]
  constructor
  case ends => exact ends
  case witnesses => rw [proved]
  case complete => exact fun _ => proved
  case sent =>
    intro submission ended
    exact ⟨proofs, answered, sent.trans (all submission ended).1⟩
  case validity =>
    intro sender address uri indices listed member
    rw [sent] at member
    obtain ⟨rfl, rfl, rfl, rfl, rfl⟩ := validity_of_mem_submissionMessages (before.subset member)
    refine ⟨rfl, rfl, rfl, rfl, ?_, ?_⟩
    · rw [← matched.length_eq, ← evidence.holdings_indices, List.length_map]
    · intro k index place
      rw [← evidence.holdings_indices, List.getElem?_map] at place
      obtain ⟨⟨_, shard⟩, entry, rfl⟩ := Option.map_eq_some_iff.mp place
      have proof := congrArg (·[k]?) answered
      simp only [List.getElem?_map, entry, Option.map_some] at proof
      obtain ⟨listed, found, same⟩ := Option.map_eq_some_iff.mp proof.symm
      have held := ((evidence.mem_holdings sample).mp (List.mem_of_getElem? entry)).2
      exact ⟨shard, listed, held, consistent_ofShard shard, same.symm, found⟩
  case invalidity =>
    intro sender uri indices member
    rw [sent] at member
    exact invalidity_of_mem_submissionMessages (before.subset member)
  case split =>
    intro submission ended
    obtain ⟨-, provable, missing⟩ := all submission ended
    rw [provable, missing]
    exact ⟨rfl, evidence.provable_append_missing_perm sample, evidence.provable_disjoint_missing sample⟩
  case refused =>
    intro index member shard err found broken
    have held : prover (.ofShard shard) ∈ (evidence.holdings sample).map fun entry => prover (.ofShard entry.2) :=
      List.mem_map_of_mem ((evidence.mem_holdings sample).mpr ⟨member, found⟩)
    rw [answered, broken] at held
    simp at held

end

theorem Proving.imp {answers given : Witness → Except Prover.Error Proof → Prop} {entries : List (Nat × Bytes)}
    {heard : Transcript} {result : Except SubmitError (List Proof)}
    (same : ∀ witness answer, answers witness answer → given witness answer)
    (proving : Proving answers entries heard result) : Proving given entries heard result := by
  induction proving with
  | done => exact .done
  | stuck answered => exact .stuck (same _ _ answered)
  | more answered others ih => exact .more (same _ _ answered) ih

theorem correlated_submit {σ : Type} (env : Environment σ) (prover : Witness → Except Prover.Error Proof)
    {account : Account} {validator : String} (named : account.validator = some validator) (metadataUri : String)
    (evidence : Evidence) (sample : List Nat) (state : σ) :
    Correlated prover account validator metadataUri evidence sample
      (Attempt.transcript (env.proving prover) (submit account metadataUri evidence sample) state)
      (Attempt.runIn (env.proving prover) (submit account metadataUri evidence sample) state).1 := by
  have ends := (direct_submit metadataUri evidence sample named).failStop.faultless_iff (env.proving prover) state
  have submitting := submitting_submit metadataUri evidence sample named (env.proving prover) state
  generalize Attempt.transcript (env.proving prover) (submit account metadataUri evidence sample) state = heard at *
  generalize (Attempt.runIn (env.proving prover) (submit account metadataUri evidence sample) state).1 = result at *
  cases submitting with
  | refused proving => exact correlated_of_refused (by simp [ends]) (proving.imp fun _ _ => Environment.proves_proving)
  | proven proving broadcasting before all failed =>
    exact correlated_of_proven ends (proving.imp fun _ _ => Environment.proves_proving) broadcasting before all

/-- Evidence counts the committed shards and holds none that does not match its commitment. -/
theorem evidence_decide {τ : Type} (env : Environment τ) (store : Store) (task : Task) (state : τ) :
    ((decide store task).runIn env state).1.evidence.shardCount = task.shardCount ∧
      ∀ entry ∈ ((decide store task).runIn env state).1.evidence.validShards,
        task.shardDoubleHashes[entry.1]? = some (doubleHash entry.2) := by
  have judged (required : Nat) (fetched : List (Nat × Bytes)) :
      (judge task required (verified task fetched)).evidence = ⟨task.shardCount, verified task fetched⟩ := by
    rw [judge]
    split <;> rfl
  rw [decide_runIn]
  rcases Attempt.runIn env (store.fetchMetadata task.metadataUri) state with ⟨err | metadata, listed⟩
  · simp [Verdict.evidence]
  simp only
  cases requirement task metadata with
  | error reason => simp [Verdict.evidence]
  | ok required =>
    simp only
    rcases Attempt.runIn env (store.fetchShards metadata.shardUris (List.range task.shardCount) .tolerate) listed with
      ⟨err | fetched, after⟩
    · simp [Verdict.evidence]
    · rw [judged]
      refine ⟨rfl, fun entry member => ?_⟩
      simpa using (List.mem_filter.mp member).2

/-- Every submission keeps its proofs next to the shards they are of, whatever the evidence, the sample and the
prover are, and on evidence from an audit each witness is that of the committed shard. -/
theorem submit_correlated {σ : Type} (env : Environment σ) (prover : Witness → Except Prover.Error Proof)
    (account : Account) (metadataUri : String) (evidence : Evidence) (sample : List Nat) (state : σ) :
    (match account.validator with
      | none => Attempt.transcript (env.proving prover) (submit account metadataUri evidence sample) state = [] ∧
        (Attempt.runIn (env.proving prover) (submit account metadataUri evidence sample) state).1 = .error .noValidator
      | some validator => Correlated prover account validator metadataUri evidence sample
        (Attempt.transcript (env.proving prover) (submit account metadataUri evidence sample) state)
        (Attempt.runIn (env.proving prover) (submit account metadataUri evidence sample) state).1) ∧
    ∀ {τ : Type} (other : Environment τ) (store : Store) (task : Task) (before : τ),
      evidence = ((decide store task).runIn other before).1.evidence → ∀ index shard,
        evidence.shard? index = some shard →
          task.shardDoubleHashes[index]? = some (Witness.ofShard shard).shardDoubleHash := by
  refine ⟨?_, ?_⟩
  · cases named : account.validator with
    | none =>
      have refused : submit account metadataUri evidence sample = throw .noValidator := by
        rw [submit, named]
      rw [refused]
      exact ⟨rfl, rfl⟩
    | some validator =>
      exact correlated_submit env prover named metadataUri evidence sample state
  · rintro τ other store task before rfl index shard found
    obtain ⟨entry, first, rfl⟩ := Option.map_eq_some_iff.mp found
    have committed := (evidence_decide other store task before).2 entry (List.mem_of_find?_eq_some first)
    have place : entry.1 = index := by simpa using List.find?_some first
    rw [← place]
    exact committed

end Audit

end Availability
