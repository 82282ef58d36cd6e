import Availability.Proofs.Transcript

namespace Availability

def Operation.onStorage : Operation → Bool
  | .chain _ | .prove _ => false
  | .dial .. | .store .. | .retrieve .. => true

theorem Event.not_failed_of_storage {event : Event} (storage : event.operation.onStorage = true) :
    event.failed = false := by
  obtain ⟨operation, answer⟩ := event
  cases operation with
  | chain | prove => cases storage
  | dial | store | retrieve => rfl

namespace Transcript

def OnStorage (heard : Transcript) : Prop := ∀ event ∈ heard, event.operation.onStorage = true

variable {heard later : Transcript}

theorem OnStorage.append (first : heard.OnStorage) (second : later.OnStorage) : OnStorage (heard ++ later) :=
  List.forall_mem_append.mpr ⟨first, second⟩

theorem OnStorage.filterMap_eq_nil {α : Type} (apart : heard.OnStorage) {view : Event → Option α}
    (blind : ∀ event : Event, event.operation.onStorage = true → view event = none) :
    heard.filterMap view = [] :=
  List.filterMap_eq_nil_iff.mpr fun event member => blind event (apart event member)

theorem OnStorage.sent (apart : heard.OnStorage) : heard.sent = [] := by
  apply apart.filterMap_eq_nil
  rintro ⟨operation, answer⟩ storage
  cases operation with
  | chain | prove => cases storage
  | dial | store | retrieve => rfl

theorem OnStorage.thresholds (apart : heard.OnStorage) : heard.thresholds = [] := by
  apply apart.filterMap_eq_nil
  rintro ⟨operation, answer⟩ storage
  cases operation with
  | chain | prove => cases storage
  | dial | store | retrieve => rfl

theorem OnStorage.proofs (apart : heard.OnStorage) : heard.proofs = [] := by
  apply apart.filterMap_eq_nil
  rintro ⟨operation, answer⟩ storage
  cases operation with
  | chain | prove => cases storage
  | dial | store | retrieve => rfl

theorem OnStorage.faultless (apart : heard.OnStorage) : heard.Faultless :=
  fun event member => Event.not_failed_of_storage (apart event member)

/-- A transcript that follows another one up to a chain call or a proof that fails. -/
def CutOf (cut whole : Transcript) : Prop :=
  ∃ common event answer rest, cut = common ++ [event] ∧ event.failed = true ∧
    whole = common ++ ⟨event.operation, answer⟩ :: rest

variable {cut whole : Transcript}

theorem CutOf.append (follows : cut.CutOf whole) (more : Transcript) : cut.CutOf (whole ++ more) := by
  obtain ⟨common, event, answer, rest, ended, failed, same⟩ := follows
  exact ⟨common, event, answer, rest ++ more, ended, failed, by simp [same]⟩

theorem CutOf.prepend (follows : cut.CutOf whole) (before : Transcript) : CutOf (before ++ cut) (before ++ whole) := by
  obtain ⟨common, event, answer, rest, ended, failed, same⟩ := follows
  exact ⟨before ++ common, event, answer, rest, by simp [ended], failed, by simp [same]⟩

theorem CutOf.not_faultless (follows : cut.CutOf whole) : ¬ cut.Faultless := by
  obtain ⟨common, event, answer, rest, rfl, failed, -⟩ := follows
  intro faultless
  have sound := faultless event (List.mem_append_right _ (List.mem_singleton_self event))
  rw [failed] at sound
  cases sound

theorem sent?_answer (operation : Operation) (first second : operation.Answer) :
    Event.sent? ⟨operation, first⟩ = Event.sent? ⟨operation, second⟩ := by
  cases operation with
  | chain call => cases call <;> rfl
  | _ => rfl

theorem accepted?_of_failed {event : Event} (failed : event.failed = true) : event.accepted? = none := by
  obtain ⟨operation, answer⟩ := event
  cases operation with
  | chain call =>
    cases call with
    | broadcast message =>
      cases answer with
      | ok transaction => cases failed
      | error err => rfl
    | _ => rfl
  | _ => rfl

theorem CutOf.sent_prefix (follows : cut.CutOf whole) : cut.sent <+: whole.sent := by
  obtain ⟨common, event, answer, rest, rfl, -, rfl⟩ := follows
  have same := sent?_answer event.operation event.answer answer
  have first : sent [event] = sent [⟨event.operation, answer⟩] := by
    simp only [sent, List.filterMap_cons, List.filterMap_nil]
    rw [← same]
  rw [sent_append, sent_append, first, List.prefix_append_right_inj]
  exact ⟨sent rest, (sent_append [⟨event.operation, answer⟩] rest).symm⟩

theorem CutOf.accepted_prefix (follows : cut.CutOf whole) : cut.accepted <+: whole.accepted := by
  obtain ⟨common, event, answer, rest, rfl, failed, rfl⟩ := follows
  have nothing : accepted [event] = [] := by
    simp [accepted, accepted?_of_failed failed]
  rw [accepted_append, accepted_append, nothing, List.append_nil]
  exact List.prefix_append _ _

end Transcript

/-- Answers as another environment does, except that chain calls and proofs may fail. -/
structure Environment.Weakens {σ : Type} (weak env : Environment σ) : Prop where
  order : weak.order = env.order
  perform : ∀ state operation, weak.perform state operation = env.perform state operation ∨
    Event.failed ⟨operation, (weak.perform state operation).1⟩ = true

namespace Environment.Weakens

variable {σ : Type} {weak env : Environment σ} (weakens : weak.Weakens env)
include weakens

theorem perform_of_storage {operation : Operation} (storage : operation.onStorage = true) (state : σ) :
    weak.perform state operation = env.perform state operation := by
  rcases weakens.perform state operation with same | failed
  · exact same
  · rw [Event.not_failed_of_storage storage] at failed
    cases failed

theorem queue {α : Type} (items : List α) (state : σ) : weak.queue items state = env.queue items state := by
  rw [Environment.queue, weakens.order]
  rfl

theorem store (protocol : Protocol) : weak.store protocol = env.store protocol := by
  funext object state
  exact weakens.perform_of_storage rfl state

theorem retrieve (limit : Duration) : weak.retrieve limit = env.retrieve limit := by
  funext target state
  rcases target with err | ⟨protocol, uri⟩
  · rfl
  · exact weakens.perform_of_storage rfl state

theorem storeAll (protocol : Protocol) (objects : List Bytes) (state : σ) :
    weak.storeAll protocol objects state = env.storeAll protocol objects state := by
  rw [Environment.storeAll, weakens.store, weakens.queue]
  rfl

theorem retrieveAll (limit : Duration) (targets : List (Except Storage.Error (Protocol × String))) (state : σ) :
    weak.retrieveAll limit targets state = env.retrieveAll limit targets state := by
  rw [Environment.retrieveAll, weakens.retrieve, weakens.queue]
  rfl

theorem storeEvents (protocol : Protocol) (entries : List (Nat × Bytes)) (state : σ) :
    weak.storeEvents protocol entries state = env.storeEvents protocol entries state := by
  induction entries generalizing state with
  | nil => rfl
  | cons entry rest ih =>
    have same : weak.perform state (.store protocol entry.2) = env.perform state (.store protocol entry.2) :=
      weakens.perform_of_storage rfl state
    rw [Environment.storeEvents, Environment.storeEvents, same]
    exact congrArg (_ :: ·) (ih _)

theorem retrieveEvents (limit : Duration) (entries : List (Nat × Except Storage.Error (Protocol × String)))
    (state : σ) : weak.retrieveEvents limit entries state = env.retrieveEvents limit entries state := by
  induction entries generalizing state with
  | nil => rfl
  | cons entry rest ih =>
    obtain ⟨position, err | ⟨protocol, uri⟩⟩ := entry
    · exact ih state
    · have same :
          weak.perform state (.retrieve protocol uri limit) = env.perform state (.retrieve protocol uri limit) :=
        weakens.perform_of_storage rfl state
      rw [Environment.retrieveEvents, Environment.retrieveEvents, same]
      exact congrArg (_ :: ·) (ih _)

end Environment.Weakens

section

variable {σ : Type} (env : Environment σ)

theorem Environment.storeEvents_onStorage (protocol : Protocol) (entries : List (Nat × Bytes)) (state : σ) :
    (env.storeEvents protocol entries state).OnStorage := by
  induction entries generalizing state with
  | nil => exact List.forall_mem_nil _
  | cons entry rest ih => exact List.forall_mem_cons.mpr ⟨rfl, ih _⟩

theorem Environment.retrieveEvents_onStorage (limit : Duration)
    (entries : List (Nat × Except Storage.Error (Protocol × String))) (state : σ) :
    (env.retrieveEvents limit entries state).OnStorage := by
  induction entries generalizing state with
  | nil => exact List.forall_mem_nil _
  | cons entry rest ih =>
    obtain ⟨position, err | ⟨protocol, uri⟩⟩ := entry
    · exact ih state
    · exact List.forall_mem_cons.mpr ⟨rfl, ih _⟩

end

namespace Program

variable {α β : Type}

def StorageOnly : Program α → Prop
  | .done _ => True
  | .perform operation next => operation.onStorage = true ∧ ∀ answer, (next answer).StorageOnly
  | .storeAll _ _ next => ∀ answers, (next answers).StorageOnly
  | .retrieveAll _ _ next => ∀ answers, (next answers).StorageOnly

theorem StorageOnly.bind {program : Program α} {rest : α → Program β} (first : program.StorageOnly)
    (second : ∀ value, (rest value).StorageOnly) : (program >>= rest).StorageOnly := by
  change (program.bind rest).StorageOnly
  induction program with
  | done value => exact second value
  | perform operation next ih => exact ⟨first.1, fun answer => ih answer (first.2 answer)⟩
  | storeAll protocol objects next ih => exact fun answers => ih answers (first answers)
  | retrieveAll targets limit next ih => exact fun answers => ih answers (first answers)

variable {σ : Type}

theorem StorageOnly.transcript {program : Program α} (apart : program.StorageOnly) (env : Environment σ) (state : σ) :
    (program.transcript env state).OnStorage := by
  induction program generalizing state with
  | done value => exact List.forall_mem_nil _
  | perform operation next ih => exact List.forall_mem_cons.mpr ⟨apart.1, ih _ (apart.2 _) _⟩
  | storeAll protocol objects next ih => exact (env.storeEvents_onStorage _ _ _).append (ih _ (apart _) _)
  | retrieveAll targets limit next ih => exact (env.retrieveEvents_onStorage _ _ _).append (ih _ (apart _) _)

/-- What does not call the chain or the prover is not touched by their failures. -/
theorem StorageOnly.unharmed {program : Program α} (apart : program.StorageOnly) {weak env : Environment σ}
    (weakens : weak.Weakens env) (state : σ) :
    program.runIn weak state = program.runIn env state ∧
      program.transcript weak state = program.transcript env state := by
  induction program generalizing state with
  | done value => exact ⟨rfl, rfl⟩
  | perform operation next ih =>
    have same := weakens.perform_of_storage apart.1 state
    obtain ⟨ran, heard⟩ := ih (env.perform state operation).1 (apart.2 _) (env.perform state operation).2
    simp only [runIn, Program.transcript, same]
    exact ⟨ran, congrArg (_ :: ·) heard⟩
  | storeAll protocol objects next ih =>
    have same := weakens.storeAll protocol objects state
    obtain ⟨ran, heard⟩ := ih _ (apart _) (env.storeAll protocol objects state).2
    simp only [runIn, Program.transcript, same, weakens.queue, weakens.storeEvents]
    exact ⟨ran, congrArg (_ ++ ·) heard⟩
  | retrieveAll targets limit next ih =>
    have same := weakens.retrieveAll limit targets state
    obtain ⟨ran, heard⟩ := ih _ (apart _) (env.retrieveAll limit targets state).2
    simp only [runIn, Program.transcript, same, weakens.queue, weakens.retrieveEvents]
    exact ⟨ran, congrArg (_ ++ ·) heard⟩

end Program

namespace Environment

variable {σ α β : Type} (env : Environment σ)

/-- The same environment, but its calls to the chain fail when a schedule says so. A call that fails leaves no
trace. -/
def scheduled (down : Nat → Option Chain.Error) : Environment (σ × Nat) where
  order state := env.order state.1
  perform state operation :=
    match operation with
    | .chain call =>
      match down state.2 with
      | some err => (.error err, state.1, state.2 + 1)
      | none => ((env.perform state.1 (.chain call)).1, (env.perform state.1 (.chain call)).2, state.2 + 1)
    | operation => ((env.perform state.1 operation).1, (env.perform state.1 operation).2, state.2)

theorem finish_scheduled {work : α → σ → β × σ} {counted : α → σ × Nat → β × σ × Nat} {calls : Nat}
    (same : ∀ item state, counted item (state, calls) = ((work item state).1, (work item state).2, calls))
    (entries : List (Nat × α)) (state : σ) :
    finish counted entries (state, calls) = ((finish work entries state).1, (finish work entries state).2, calls) := by
  induction entries generalizing state with
  | nil => rfl
  | cons entry rest ih => simp only [finish, same, ih]

end Environment

theorem Program.StorageOnly.runIn_scheduled {σ α : Type} {program : Program α} (apart : program.StorageOnly)
    (env : Environment σ) (down : Nat → Option Chain.Error) (state : σ) (calls : Nat) :
    program.runIn (env.scheduled down) (state, calls) =
      ((program.runIn env state).1, (program.runIn env state).2, calls) := by
  induction program generalizing state with
  | done value => rfl
  | perform operation next ih =>
    have same : (env.scheduled down).perform (state, calls) operation =
        ((env.perform state operation).1, (env.perform state operation).2, calls) := by
      cases operation with
      | chain | prove => cases apart.1
      | dial | store | retrieve => rfl
    simp only [runIn, same]
    exact ih _ (apart.2 _) _
  | storeAll protocol objects next ih =>
    have same : (env.scheduled down).storeAll protocol objects (state, calls) =
        ((env.storeAll protocol objects state).1, (env.storeAll protocol objects state).2, calls) :=
      Environment.finish_scheduled (fun _ _ => rfl) _ state
    simp only [runIn, same]
    exact ih _ (apart _) _
  | retrieveAll targets limit next ih =>
    have same : (env.scheduled down).retrieveAll limit targets (state, calls) =
        ((env.retrieveAll limit targets state).1, (env.retrieveAll limit targets state).2, calls) := by
      refine Environment.finish_scheduled (fun target between => ?_) _ state
      rcases target with err | ⟨protocol, uri⟩ <;> rfl
    simp only [runIn, same]
    exact ih _ (apart _) _

namespace Attempt

variable {ε δ α β : Type}

/-- Ends with the first chain call or proof that fails, and fails only then. -/
structure FailStop (attempt : Attempt ε α) : Prop where
  faultless : ∀ {σ : Type} (env : Environment σ) (state : σ),
    (transcript env attempt state).Faultless ↔ ∃ value after, runIn env attempt state = (.ok value, after)
  cut : ∀ {σ : Type} {weak env : Environment σ}, weak.Weakens env → ∀ state,
    runIn weak attempt state = runIn env attempt state ∧ transcript weak attempt state = transcript env attempt state ∨
      (transcript weak attempt state).CutOf (transcript env attempt state)

namespace FailStop

theorem faultless_iff {attempt : Attempt ε α} (stops : attempt.FailStop) {σ : Type} (env : Environment σ) (state : σ) :
    (transcript env attempt state).Faultless ↔ ∃ value, (runIn env attempt state).1 = .ok value := by
  rw [stops.faultless env state]
  exact ⟨fun ⟨value, _, ran⟩ => ⟨value, by rw [ran]⟩, fun ⟨value, ended⟩ => ⟨value, _, Prod.ext ended rfl⟩⟩

theorem pure (value : α) : FailStop (Pure.pure value : Attempt ε α) where
  faultless _ state := ⟨fun _ => ⟨value, state, rfl⟩, fun _ => Transcript.faultless_nil⟩
  cut _ _ := .inl ⟨rfl, rfl⟩

theorem bind {attempt : Attempt ε α} {rest : α → Attempt ε β} (first : attempt.FailStop)
    (next : ∀ value, (rest value).FailStop) : (attempt >>= rest).FailStop where
  faultless env state := by
    have start := first.faultless env state
    rcases ran : runIn env attempt state with ⟨err | value, after⟩
    · have broken : ¬ (transcript env attempt state).Faultless := by
        rw [start, ran]
        simp
      rw [transcript_bind_of_error env ran, runIn_bind, ran]
      simp [broken]
    · have sound : (transcript env attempt state).Faultless := start.mpr ⟨value, after, ran⟩
      rw [transcript_bind_of_ok env ran, runIn_bind, ran, Transcript.faultless_append]
      simp only [sound, true_and]
      exact (next value).faultless env after
  cut := by
    intro σ weak env weakens state
    -- Either the first part ran as before and the second one decides, or it was cut and ends the whole.
    rcases first.cut weakens state with ⟨ran, heard⟩ | follows
    · rcases reached : runIn env attempt state with ⟨err | value, after⟩
      · left
        rw [transcript_bind_of_error env reached, transcript_bind_of_error weak (ran.trans reached), runIn_bind,
          runIn_bind, ran, reached]
        exact ⟨rfl, heard⟩
      · rw [transcript_bind_of_ok env reached, transcript_bind_of_ok weak (ran.trans reached), runIn_bind,
          runIn_bind, ran, reached, heard]
        rcases (next value).cut weakens after with ⟨same, rest⟩ | follows
        · exact .inl ⟨same, by rw [rest]⟩
        · exact .inr (follows.prepend _)
    · right
      have broken : ¬ ∃ value after, runIn weak attempt state = (.ok value, after) := fun ended =>
        follows.not_faultless ((first.faultless weak state).mpr ended)
      rcases stopped : runIn weak attempt state with ⟨err | value, after⟩
      · rw [transcript_bind_of_error weak stopped, transcript_bind]
        exact follows.append _
      · exact absurd ⟨value, after, stopped⟩ broken

theorem adapt {attempt : Attempt δ α} (stops : attempt.FailStop) (f : δ → ε) :
    FailStop (ExceptT.adapt f attempt : Attempt ε α) where
  faultless env state := by
    rw [transcript_adapt, stops.faultless, runIn_adapt]
    rcases runIn env attempt state with ⟨err | value, after⟩ <;> simp [Except.mapError]
  cut weakens state := by
    rw [transcript_adapt, transcript_adapt, runIn_adapt, runIn_adapt]
    rcases stops.cut weakens state with ⟨ran, heard⟩ | follows
    · exact .inl ⟨by rw [ran], heard⟩
    · exact .inr follows

theorem orFail {program : Program (Except δ α)} (stops : FailStop (ExceptT.mk program : Attempt δ α)) (f : δ → ε) :
    FailStop (Attempt.orFail program f) := stops.adapt f

theorem lift {program : Program α} (apart : program.StorageOnly) :
    FailStop (ExceptT.lift program : Attempt ε α) where
  faultless env state := by
    rw [transcript_lift, runIn_lift]
    exact ⟨fun _ => ⟨_, _, rfl⟩, fun _ => (apart.transcript env state).faultless⟩
  cut weakens state := by
    obtain ⟨ran, heard⟩ := apart.unharmed weakens state
    rw [transcript_lift, transcript_lift, runIn_lift, runIn_lift, ran]
    exact .inl ⟨rfl, heard⟩

theorem single {operation : Operation} {next : operation.Answer → Except ε α}
    (counts : ∀ answer, Event.failed ⟨operation, answer⟩ = false ↔ ∃ value, next answer = .ok value) :
    FailStop (ExceptT.mk (.perform operation fun answer => .done (next answer)) : Attempt ε α) where
  faultless env state := by
    let attempt : Attempt ε α := ExceptT.mk (.perform operation fun answer => .done (next answer))
    have heard : transcript env attempt state = [⟨operation, (env.perform state operation).1⟩] := rfl
    have ran : runIn env attempt state = (next (env.perform state operation).1, (env.perform state operation).2) := rfl
    rw [heard, ran, Transcript.Faultless, List.forall_mem_singleton, counts]
    simp
  cut := by
    intro σ weak env weakens state
    rcases weakens.perform state operation with same | failed
    · left
      constructor
      · change (next (weak.perform state operation).1, (weak.perform state operation).2) = _
        rw [same]
        rfl
      · change [Event.mk operation (weak.perform state operation).1] = _
        rw [same]
        rfl
    · right
      exact ⟨[], ⟨operation, (weak.perform state operation).1⟩, (env.perform state operation).1, [], rfl, failed, rfl⟩

theorem ask (call : Chain.Call) : FailStop (ExceptT.mk (Program.ask call) : Attempt Chain.Error call.Answer) :=
  single fun answer => by cases answer <;> simp [Event.failed]

theorem prove (witness : Witness) : FailStop (ExceptT.mk (Program.prove witness) : Attempt Prover.Error Proof) :=
  single fun answer => by cases answer <;> simp [Event.failed]

end FailStop

/-- Made of calls to the chain and of proofs, and fails where one of them does. -/
inductive Direct : {ε α : Type} → Attempt ε α → Prop where
  | pure {ε α : Type} (value : α) : Direct (Pure.pure value : Attempt ε α)
  | ask {ε : Type} (call : Chain.Call) (f : Chain.Error → ε) : Direct (orFail (Program.ask call) f)
  | prove {ε : Type} (witness : Witness) (f : Prover.Error → ε) : Direct (orFail (Program.prove witness) f)
  | bind {ε α β : Type} {attempt : Attempt ε α} {rest : α → Attempt ε β} (first : Direct attempt)
      (next : ∀ value, Direct (rest value)) : Direct (attempt >>= rest)
  | adapt {δ ε α : Type} {attempt : Attempt δ α} (direct : Direct attempt) (f : δ → ε) :
      Direct (ExceptT.adapt f attempt : Attempt ε α)

theorem Direct.failStop {attempt : Attempt ε α} (direct : attempt.Direct) : attempt.FailStop := by
  induction direct with
  | pure value => exact .pure value
  | ask call f => exact (FailStop.ask call).orFail f
  | prove witness f => exact (FailStop.prove witness).orFail f
  | bind _ _ first next => exact first.bind next
  | adapt _ f stops => exact stops.adapt f

end Attempt

end Availability
