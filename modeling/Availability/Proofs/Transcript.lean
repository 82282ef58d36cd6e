import Availability.Proofs.Environment

namespace Availability

structure Event where
  operation : Operation
  answer : operation.Answer

namespace Event

def sent? : Event → Option Message
  | ⟨.chain (.broadcast message), _⟩ => some message
  | _ => none

def accepted? : Event → Option Message
  | ⟨.chain (.broadcast message), .ok _⟩ => some message
  | _ => none

def head? : Event → Option UInt64
  | ⟨.chain .latestHeight, .ok head⟩ => some head
  | _ => none

def block? : Event → Option (UInt64 × List Message)
  | ⟨.chain (.blockMessages height), .ok messages⟩ => some (height, messages)
  | _ => none

def threshold? : Event → Option Nat
  | ⟨.chain (.proofThreshold _), .ok threshold⟩ => some threshold
  | _ => none

def witness? : Event → Option Witness
  | ⟨.prove witness, _⟩ => some witness
  | _ => none

def proof? : Event → Option Proof
  | ⟨.prove _, .ok proof⟩ => some proof
  | _ => none

def failed : Event → Bool
  | ⟨.chain _, .error _⟩ => true
  | ⟨.prove _, .error _⟩ => true
  | _ => false

theorem sent?_of_accepted? {event : Event} {message : Message} (accepted : event.accepted? = some message) :
    event.sent? = some message := by
  obtain ⟨operation, answer⟩ := event
  cases operation with
  | chain call =>
    cases call with
    | broadcast sent =>
      cases answer with
      | ok transaction => exact accepted
      | error err => cases accepted
    | _ => cases accepted
  | _ => cases accepted

end Event

abbrev Transcript := List Event

namespace Transcript

variable (heard later : Transcript)

def sent : List Message := heard.filterMap Event.sent?

def accepted : List Message := heard.filterMap Event.accepted?

def heads : List UInt64 := heard.filterMap Event.head?

def blocks : List (UInt64 × List Message) := heard.filterMap Event.block?

def thresholds : List Nat := heard.filterMap Event.threshold?

def witnesses : List Witness := heard.filterMap Event.witness?

def proofs : List Proof := heard.filterMap Event.proof?

def Faultless : Prop := ∀ event ∈ heard, event.failed = false

@[simp] theorem sent_append : sent (heard ++ later) = heard.sent ++ later.sent := List.filterMap_append

@[simp] theorem accepted_append : accepted (heard ++ later) = heard.accepted ++ later.accepted :=
  List.filterMap_append

@[simp] theorem thresholds_append : thresholds (heard ++ later) = heard.thresholds ++ later.thresholds :=
  List.filterMap_append

@[simp] theorem witnesses_append : witnesses (heard ++ later) = heard.witnesses ++ later.witnesses :=
  List.filterMap_append

@[simp] theorem proofs_append : proofs (heard ++ later) = heard.proofs ++ later.proofs := List.filterMap_append

variable {heard later}

theorem faultless_nil : Faultless [] := List.forall_mem_nil _

theorem faultless_append : Faultless (heard ++ later) ↔ heard.Faultless ∧ later.Faultless :=
  List.forall_mem_append

theorem Faultless.accepted_eq (faultless : heard.Faultless) : heard.accepted = heard.sent := by
  refine List.filterMap_congr fun event member => ?_
  have sound := faultless event member
  obtain ⟨operation, answer⟩ := event
  cases operation with
  | chain call =>
    cases call with
    | broadcast message =>
      cases answer with
      | ok transaction => rfl
      | error err => cases sound
    | _ => rfl
  | _ => rfl

theorem accepted_sublist : heard.accepted.Sublist heard.sent := by
  induction heard with
  | nil => exact .refl _
  | cons event rest ih =>
    cases took : event.accepted? with
    | none =>
      rw [accepted, List.filterMap_cons_none took]
      exact ih.trans ((List.sublist_cons_self event rest).filterMap _)
    | some message =>
      rw [accepted, List.filterMap_cons_some took, sent, List.filterMap_cons_some (Event.sent?_of_accepted? took)]
      exact ih.cons_cons message

theorem sent_of_accepted {message : Message} (accepted : message ∈ heard.accepted) : message ∈ heard.sent :=
  accepted_sublist.subset accepted

theorem accepted_eq_nil (silent : heard.sent = []) : heard.accepted = [] :=
  List.sublist_nil.mp (silent ▸ accepted_sublist)

def Broadcasting (heard : Transcript) : Prop := ∀ event ∈ heard, event.sent?.isSome = true

theorem Broadcasting.filterMap_eq_nil {α : Type} (broadcasting : heard.Broadcasting) {view : Event → Option α}
    (blind : ∀ message answer, view ⟨.chain (.broadcast message), answer⟩ = none) : heard.filterMap view = [] := by
  refine List.filterMap_eq_nil_iff.mpr fun event member => ?_
  have handed := broadcasting event member
  obtain ⟨operation, answer⟩ := event
  cases operation with
  | chain call =>
    cases call with
    | broadcast message => exact blind message answer
    | _ => cases handed
  | _ => cases handed

theorem Broadcasting.thresholds (broadcasting : heard.Broadcasting) : heard.thresholds = [] :=
  broadcasting.filterMap_eq_nil fun _ _ => rfl

theorem Broadcasting.witnesses (broadcasting : heard.Broadcasting) : heard.witnesses = [] :=
  broadcasting.filterMap_eq_nil fun _ _ => rfl

theorem Broadcasting.proofs (broadcasting : heard.Broadcasting) : heard.proofs = [] :=
  broadcasting.filterMap_eq_nil fun _ _ => rfl

end Transcript

namespace Environment

variable {σ : Type} (env : Environment σ)

def storeEvents (protocol : Protocol) : List (Nat × Bytes) → σ → Transcript
  | [], _ => []
  | (_, object) :: rest, state =>
    let (answer, after) := env.perform state (.store protocol object)
    ⟨.store protocol object, answer⟩ :: storeEvents protocol rest after

def retrieveEvents (limit : Duration) : List (Nat × Except Storage.Error (Protocol × String)) → σ → Transcript
  | [], _ => []
  | (_, .error _) :: rest, state => retrieveEvents limit rest state
  | (_, .ok (protocol, uri)) :: rest, state =>
    let (answer, after) := env.perform state (.retrieve protocol uri limit)
    ⟨.retrieve protocol uri limit, answer⟩ :: retrieveEvents limit rest after

end Environment

/-- What a run performs, that of the workers in the order in which they end. -/
def Program.transcript {σ α : Type} (env : Environment σ) : Program α → σ → Transcript
  | .done _, _ => []
  | .perform operation next, state =>
    let (answer, after) := env.perform state operation
    ⟨operation, answer⟩ :: (next answer).transcript env after
  | .storeAll protocol objects next, state =>
    let (finished, after) := env.storeAll protocol objects state
    env.storeEvents protocol (env.queue objects state) state ++
      (next ((Indexed.collect finished).map (·.2))).transcript env after
  | .retrieveAll targets limit next, state =>
    let (finished, after) := env.retrieveAll limit targets state
    env.retrieveEvents limit (env.queue targets state) state ++
      (next ((Indexed.collect finished).map (·.2))).transcript env after

namespace Program

variable {σ α β : Type}

theorem transcript_bind (env : Environment σ) (program : Program α) (rest : α → Program β) (state : σ) :
    (program >>= rest).transcript env state =
      program.transcript env state ++
        (rest (program.runIn env state).1).transcript env (program.runIn env state).2 := by
  change (program.bind rest).transcript env state = _
  induction program generalizing state with
  | done value => rfl
  | perform operation next ih => exact congrArg (_ :: ·) (ih _ _)
  | storeAll protocol objects next ih => exact (congrArg (_ ++ ·) (ih _ _)).trans (List.append_assoc ..).symm
  | retrieveAll targets limit next ih => exact (congrArg (_ ++ ·) (ih _ _)).trans (List.append_assoc ..).symm

end Program

inductive Plays {σ : Type} (env : Environment σ) : Transcript → σ → σ → Prop where
  | done (state : σ) : Plays env [] state state
  | step {operation : Operation} {answer : operation.Answer} {rest : Transcript} {state between after : σ}
      (performed : env.perform state operation = (answer, between)) (others : Plays env rest between after) :
      Plays env (⟨operation, answer⟩ :: rest) state after

namespace Plays

variable {σ α : Type} {env : Environment σ} {heard later : Transcript} {state between after : σ}

theorem append (first : Plays env heard state between) (second : Plays env later between after) :
    Plays env (heard ++ later) state after := by
  induction first with
  | done state => exact second
  | step performed others ih => exact .step performed (ih second)

theorem of_append (plays : Plays env (heard ++ later) state after) :
    ∃ between, Plays env heard state between ∧ Plays env later between after := by
  induction heard generalizing state with
  | nil => exact ⟨state, .done state, plays⟩
  | cons event rest ih =>
    cases plays with
    | step performed others =>
      obtain ⟨between, first, second⟩ := ih others
      exact ⟨between, .step performed first, second⟩

theorem storeAll (env : Environment σ) (protocol : Protocol) (entries : List (Nat × Bytes)) (state : σ) :
    Plays env (env.storeEvents protocol entries state) state
      (Environment.finish (env.store protocol) entries state).2 := by
  induction entries generalizing state with
  | nil => exact .done state
  | cons entry rest ih => exact .step rfl (ih _)

theorem retrieveAll (env : Environment σ) (limit : Duration)
    (entries : List (Nat × Except Storage.Error (Protocol × String))) (state : σ) :
    Plays env (env.retrieveEvents limit entries state) state
      (Environment.finish (env.retrieve limit) entries state).2 := by
  induction entries generalizing state with
  | nil => exact .done state
  | cons entry rest ih =>
    obtain ⟨position, err | ⟨protocol, uri⟩⟩ := entry
    · exact ih state
    · exact .step rfl (ih _)

theorem runIn (env : Environment σ) (program : Program α) (state : σ) :
    Plays env (program.transcript env state) state (program.runIn env state).2 := by
  induction program generalizing state with
  | done value => exact .done state
  | perform operation next ih => exact .step rfl (ih _ _)
  | storeAll protocol objects next ih => exact (storeAll env protocol _ state).append (ih _ _)
  | retrieveAll targets limit next ih => exact (retrieveAll env limit _ state).append (ih _ _)

/-- What every event keeps, and what some of them bring about, is there at the end. -/
theorem reaches {holds : σ → Prop} {marks : Event → Prop} (plays : Plays env heard state after)
    (step : ∀ event ∈ heard, ∀ before next, env.perform before event.operation = (event.answer, next) →
      holds before ∨ marks event → holds next)
    (start : holds state ∨ ∃ event ∈ heard, marks event) : holds after := by
  induction plays with
  | done state => simpa using start
  | @step operation answer rest state between after performed others ih =>
    obtain ⟨first, later⟩ := List.forall_mem_cons.mp step
    apply ih later
    -- The mark is on the first event, or it comes with a later one.
    rcases start with held | ⟨event, member, marked⟩
    · exact .inl (first _ _ performed (.inl held))
    · rcases List.mem_cons.mp member with rfl | member
      · exact .inl (first _ _ performed (.inr marked))
      · exact .inr ⟨event, member, marked⟩

theorem preserves (holds : σ → Prop) (plays : Plays env heard state after)
    (step : ∀ before operation, holds before → holds (env.perform before operation).2) (start : holds state) :
    holds after := by
  have reached : holds state ∨ ∃ event ∈ heard, False := .inl start
  refine plays.reaches (fun event _ before next performed either => ?_) reached
  have kept := step before event.operation (either.resolve_right id)
  rwa [performed] at kept

end Plays

namespace Attempt

variable {σ ε δ α β : Type}

def transcript (env : Environment σ) (attempt : Attempt ε α) (state : σ) : Transcript :=
  attempt.run.transcript env state

variable (env : Environment σ) (attempt : Attempt ε α) (state : σ)

theorem transcript_bind (rest : α → Attempt ε β) :
    transcript env (attempt >>= rest) state =
      transcript env attempt state ++
        match runIn env attempt state with
        | (.ok value, after) => transcript env (rest value) after
        | (.error _, _) => [] := by
  refine (Program.transcript_bind env attempt.run _ state).trans ?_
  rw [transcript, runIn]
  rcases attempt.run.runIn env state with ⟨result, after⟩
  cases result <;> rfl

theorem transcript_bind_of_ok {attempt : Attempt ε α} {state after : σ} {value : α}
    (ran : runIn env attempt state = (.ok value, after)) (rest : α → Attempt ε β) :
    transcript env (attempt >>= rest) state = transcript env attempt state ++ transcript env (rest value) after := by
  rw [transcript_bind, ran]

theorem transcript_bind_of_error {attempt : Attempt ε α} {state after : σ} {err : ε}
    (ran : runIn env attempt state = (.error err, after)) (rest : α → Attempt ε β) :
    transcript env (attempt >>= rest) state = transcript env attempt state := by
  rw [transcript_bind, ran]
  exact List.append_nil _

theorem forall_transcript_bind {attempt : Attempt ε α} {rest : α → Attempt ε β} {state : σ} {holds : Event → Prop}
    (first : ∀ event ∈ transcript env attempt state, holds event)
    (next : ∀ value after, ∀ event ∈ transcript env (rest value) after, holds event) :
    ∀ event ∈ transcript env (attempt >>= rest) state, holds event := by
  rw [transcript_bind]
  refine List.forall_mem_append.mpr ⟨first, ?_⟩
  rcases runIn env attempt state with ⟨err | value, after⟩
  · exact List.forall_mem_nil _
  · exact next value after

@[simp] theorem transcript_pure (value : α) : transcript env (pure value : Attempt ε α) state = [] := rfl

@[simp] theorem transcript_bind_pure (g : α → β) :
    transcript env (attempt >>= fun value => pure (g value)) state = transcript env attempt state := by
  rw [transcript_bind]
  rcases runIn env attempt state with ⟨err | value, after⟩ <;> exact List.append_nil _

@[simp] theorem transcript_lift (program : Program α) :
    transcript env (ExceptT.lift program : Attempt ε α) state = program.transcript env state :=
  (Program.transcript_bind env program _ state).trans (List.append_nil _)

@[simp] theorem transcript_orFail (program : Program (Except δ α)) (f : δ → ε) :
    transcript env (orFail program f) state = program.transcript env state :=
  (Program.transcript_bind env program _ state).trans (List.append_nil _)

@[simp] theorem transcript_adapt (inner : Attempt δ α) (f : δ → ε) :
    transcript env (ExceptT.adapt f inner : Attempt ε α) state = transcript env inner state :=
  (Program.transcript_bind env inner.run _ state).trans (List.append_nil _)

theorem runIn_ask_bind (call : Chain.Call) (f : Chain.Error → ε) (rest : call.Answer → Attempt ε β) :
    runIn env (orFail (Program.ask call) f >>= rest) state =
      match env.perform state (.chain call) with
      | (.ok answer, after) => runIn env (rest answer) after
      | (.error err, after) => (.error (f err), after) := by
  rw [runIn_bind, runIn_orFail]
  rcases answered : env.perform state (.chain call) with ⟨err | answer, after⟩
  · simp [Program.ask, Program.runIn, answered, Except.mapError]
  · simp [Program.ask, Program.runIn, answered, Except.mapError]

theorem transcript_ask_bind (call : Chain.Call) (f : Chain.Error → ε) (rest : call.Answer → Attempt ε β) :
    transcript env (orFail (Program.ask call) f >>= rest) state =
      match env.perform state (.chain call) with
      | (.ok answer, after) => ⟨.chain call, .ok answer⟩ :: transcript env (rest answer) after
      | (.error err, _) => [⟨.chain call, .error err⟩] := by
  rw [transcript_bind, transcript_orFail, runIn_orFail]
  rcases answered : env.perform state (.chain call) with ⟨err | answer, after⟩
  · simp [Program.ask, Program.transcript, Program.runIn, answered, Except.mapError]
  · simp [Program.ask, Program.transcript, Program.runIn, answered, Except.mapError]

/-- The messages of an attempt: all of them if it succeeds, else those up to some point. -/
structure Sends (messages : List Message) : Prop where
  before : (transcript env attempt state).sent <+: messages
  all : ∀ value, (runIn env attempt state).1 = .ok value → (transcript env attempt state).sent = messages

theorem Sends.pure (value : α) : (Pure.pure value : Attempt ε α).Sends env state [] where
  before := List.prefix_rfl
  all _ _ := rfl

theorem Sends.bind {env : Environment σ} {attempt : Attempt ε α} {rest : α → Attempt ε β}
    {state : σ} {first second : List Message} (sends : attempt.Sends env state first)
    (next : ∀ value after, runIn env attempt state = (.ok value, after) → (rest value).Sends env after second) :
    (attempt >>= rest).Sends env state (first ++ second) := by
  rcases ran : runIn env attempt state with ⟨err | value, after⟩
  · constructor
    · rw [transcript_bind_of_error env ran]
      exact sends.before.trans (List.prefix_append _ _)
    · intro value ended
      rw [runIn_bind, ran] at ended
      cases ended
  · have later := next value after ran
    have sent := sends.all value (by rw [ran])
    constructor
    · rw [transcript_bind_of_ok env ran, Transcript.sent_append, sent, List.prefix_append_right_inj]
      exact later.before
    · intro result ended
      rw [runIn_bind, ran] at ended
      rw [transcript_bind_of_ok env ran, Transcript.sent_append, sent, later.all result ended]

end Attempt

end Availability
