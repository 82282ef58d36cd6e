import Availability.Proofs.Faults

namespace Availability

namespace Program

variable {α β : Type}

def storeEach (protocol : Protocol) : List (Nat × Bytes) → Program (List (Nat × Except Storage.Error String))
  | [] => .done []
  | (position, object) :: rest =>
    .perform (.store protocol object) fun answer =>
      (storeEach protocol rest).bind fun others => .done ((position, answer) :: others)

def retrieveEach (limit : Duration) :
    List (Nat × Except Storage.Error (Protocol × String)) → Program (List (Nat × Except Storage.Error Bytes))
  | [] => .done []
  | (position, .error err) :: rest =>
    (retrieveEach limit rest).bind fun others => .done ((position, .error err) :: others)
  | (position, .ok (protocol, uri)) :: rest =>
    .perform (.retrieve protocol uri limit) fun answer =>
      (retrieveEach limit rest).bind fun others => .done ((position, answer) :: others)

/-- One operation with any answer, or the choice of an order for workers. -/
inductive Step : Program α → Transcript → Program α → Prop where
  | perform (operation : Operation) (next : operation.Answer → Program α) (answer : operation.Answer) :
      Step (.perform operation next) [⟨operation, answer⟩] (next answer)
  | storeAll (protocol : Protocol) (objects : List Bytes) (next : List (Except Storage.Error String) → Program α)
      (order : Order objects.length) :
      Step (.storeAll protocol objects next) []
        ((storeEach protocol order.queue).bind fun finished => next ((Indexed.collect finished).map (·.2)))
  | retrieveAll (targets : List (Except Storage.Error (Protocol × String))) (limit : Duration)
      (next : List (Except Storage.Error Bytes) → Program α) (order : Order targets.length) :
      Step (.retrieveAll targets limit next) []
        ((retrieveEach limit order.queue).bind fun finished => next ((Indexed.collect finished).map (·.2)))

theorem Step.label {program next : Program α} {heard : Transcript} (taken : Step program heard next) :
    heard = [] ∨ ∃ event, heard = [event] := by
  cases taken with
  | perform operation next answer => exact .inr ⟨_, rfl⟩
  | storeAll | retrieveAll => exact .inl rfl

inductive Path : Program α → Transcript → Program α → Prop where
  | refl (program : Program α) : Path program [] program
  | step {first middle last : Program α} {heard later : Transcript} (taken : Step first heard middle)
      (others : Path middle later last) : Path first (heard ++ later) last

namespace Path

variable {first middle last program : Program α} {heard later : Transcript} {value : α}

theorem append (path : Path first heard middle) (others : Path middle later last) :
    Path first (heard ++ later) last := by
  induction path with
  | refl program => exact others
  | step taken _ ih => exact List.append_assoc _ _ later ▸ .step taken (ih others)

theorem silent (taken : Step first [] middle) (others : Path middle heard last) : Path first heard last :=
  .step taken others

theorem single (taken : Step first heard last) : Path first heard last :=
  List.append_nil heard ▸ .step taken (.refl last)

theorem snoc (path : Path first heard middle) (taken : Step middle later last) : Path first (heard ++ later) last :=
  path.append (single taken)

theorem of_done (path : Path (.done value) heard last) : heard = [] ∧ last = .done value := by
  cases path with
  | refl => exact ⟨rfl, rfl⟩
  | step taken _ => cases taken

theorem of_perform {operation : Operation} {next : operation.Answer → Program α}
    (path : Path (.perform operation next) heard last) :
    heard = [] ∨ ∃ answer later, heard = ⟨operation, answer⟩ :: later ∧ Path (next answer) later last := by
  cases path with
  | refl => exact .inl rfl
  | step taken others =>
    cases taken with
    | perform _ _ answer => exact .inr ⟨answer, _, rfl, others⟩

theorem done_of_perform {operation : Operation} {next : operation.Answer → Program α}
    (path : Path (.perform operation next) heard (.done value)) :
    ∃ answer later, heard = ⟨operation, answer⟩ :: later ∧ Path (next answer) later (.done value) := by
  cases path with
  | step taken others =>
    cases taken with
    | perform _ _ answer => exact ⟨answer, _, rfl, others⟩

theorem of_single {operation : Operation} {result : operation.Answer → α}
    (path : Path (.perform operation fun answer => .done (result answer)) heard last) :
    (heard = [] ∧ ∀ value, last ≠ .done value) ∨
      ∃ answer, heard = [⟨operation, answer⟩] ∧ last = .done (result answer) := by
  cases path with
  | refl => exact .inl ⟨rfl, nofun⟩
  | step taken others =>
    cases taken with
    | perform _ _ answer =>
      obtain ⟨rfl, rfl⟩ := of_done others
      exact .inr ⟨answer, rfl, rfl⟩

end Path

theorem Step.bind {program next : Program α} {heard : Transcript} (taken : Step program heard next)
    (rest : α → Program β) : Step (program.bind rest) heard (next.bind rest) := by
  cases taken with
  | perform operation next answer => exact .perform operation (fun answer => (next answer).bind rest) answer
  | storeAll protocol objects next order =>
    rw [bind_bind]
    exact .storeAll protocol objects (fun answers => (next answers).bind rest) order
  | retrieveAll targets limit next order =>
    rw [bind_bind]
    exact .retrieveAll targets limit (fun answers => (next answers).bind rest) order

theorem Step.of_bind {program : Program α} {rest : α → Program β} {heard : Transcript} {last : Program β}
    (taken : Step (program.bind rest) heard last) :
    (∃ value, program = .done value) ∨ ∃ next, Step program heard next ∧ last = next.bind rest := by
  cases program with
  | done value => exact .inl ⟨value, rfl⟩
  | perform operation next =>
    cases taken with
    | perform _ _ answer => exact .inr ⟨next answer, .perform operation next answer, rfl⟩
  | storeAll protocol objects next =>
    cases taken with
    | storeAll _ _ _ order =>
      exact .inr ⟨_, .storeAll protocol objects next order, (bind_bind _ _ rest).symm⟩
  | retrieveAll targets limit next =>
    cases taken with
    | retrieveAll _ _ _ order =>
      exact .inr ⟨_, .retrieveAll targets limit next order, (bind_bind _ _ rest).symm⟩

namespace Path

variable {program next : Program α} {rest : α → Program β} {last : Program β} {heard first second : Transcript}
variable {value : α}

theorem bind_left (path : Path program heard next) (rest : α → Program β) :
    Path (program.bind rest) heard (next.bind rest) := by
  induction path with
  | refl program => exact .refl _
  | step taken _ ih => exact .step (taken.bind rest) ih

theorem bind (path : Path program first (.done value)) (others : Path (rest value) second last) :
    Path (program >>= rest) (first ++ second) last :=
  (path.bind_left rest).append others

theorem of_bind (path : Path (program >>= rest) heard last) :
    (∃ next, Path program heard next ∧ last = next.bind rest) ∨ ∃ value first second, heard = first ++ second ∧
      Path program first (.done value) ∧ Path (rest value) second last := by
  change Path (program.bind rest) heard last at path
  generalize whole : program.bind rest = start at path
  -- A step of the whole is one of its first part, until that is done; then the other steps are of the second part.
  induction path generalizing program with
  | refl => exact .inl ⟨program, .refl program, whole.symm⟩
  | @step start middle last heard later taken others ih =>
    subst whole
    rcases taken.of_bind with ⟨value, rfl⟩ | ⟨next, steps, rfl⟩
    · exact .inr ⟨value, [], heard ++ later, rfl, .refl _, .step taken others⟩
    · rcases ih rfl with ⟨reached, path, same⟩ | ⟨value, first, second, rfl, path, tail⟩
      · exact .inl ⟨reached, .step steps path, same⟩
      · exact .inr ⟨value, heard ++ first, second, (List.append_assoc ..).symm, .step steps path, tail⟩

theorem done_of_bind {value : β} (path : Path (program >>= rest) heard (.done value)) :
    ∃ between first second, heard = first ++ second ∧ Path program first (.done between) ∧
      Path (rest between) second (.done value) := by
  rcases of_bind path with ⟨next, reached, same⟩ | ⟨between, first, second, rfl, reached, others⟩
  · cases next with
    | done between => exact ⟨between, heard, [], (List.append_nil heard).symm, reached, same ▸ .refl _⟩
    | _ => cases same
  · exact ⟨between, first, second, rfl, reached, others⟩

end Path

section

variable {σ : Type} (env : Environment σ)

theorem path_storeEach (protocol : Protocol) (entries : List (Nat × Bytes)) (state : σ) :
    Path (storeEach protocol entries) (env.storeEvents protocol entries state)
      (.done (Environment.finish (env.store protocol) entries state).1) := by
  induction entries generalizing state with
  | nil => exact .refl _
  | cons entry rest ih =>
    have others := (ih (env.perform state (.store protocol entry.2)).2).bind_left fun others =>
      .done ((entry.1, (env.perform state (.store protocol entry.2)).1) :: others)
    exact .step (.perform ..) others

theorem path_retrieveEach (limit : Duration) (entries : List (Nat × Except Storage.Error (Protocol × String)))
    (state : σ) :
    Path (retrieveEach limit entries) (env.retrieveEvents limit entries state)
      (.done (Environment.finish (env.retrieve limit) entries state).1) := by
  induction entries generalizing state with
  | nil => exact .refl _
  | cons entry rest ih =>
    obtain ⟨position, err | ⟨protocol, uri⟩⟩ := entry
    · exact (ih state).bind_left fun others => .done ((position, .error err) :: others)
    · have others := (ih (env.perform state (.retrieve protocol uri limit)).2).bind_left fun others =>
        .done ((position, (env.perform state (.retrieve protocol uri limit)).1) :: others)
      exact .step (.perform ..) others

theorem path_runIn (program : Program α) (state : σ) :
    Path program (program.transcript env state) (.done (program.runIn env state).1) := by
  induction program generalizing state with
  | done value => exact .refl _
  | perform operation next ih => exact .step (.perform ..) (ih _ _)
  | storeAll protocol objects next ih =>
    have each := (path_storeEach env protocol (env.queue objects state) state).bind_left fun finished =>
      next ((Indexed.collect finished).map (·.2))
    exact .silent (.storeAll protocol objects next (env.order state objects.length)) (each.append (ih _ _))
  | retrieveAll targets limit next ih =>
    have each := (path_retrieveEach env limit (env.queue targets state) state).bind_left fun finished =>
      next ((Indexed.collect finished).map (·.2))
    exact .silent (.retrieveAll targets limit next (env.order state targets.length)) (each.append (ih _ _))

end

namespace StorageOnly

theorem storeEach (protocol : Protocol) (entries : List (Nat × Bytes)) :
    (Program.storeEach protocol entries).StorageOnly := by
  induction entries with
  | nil => exact trivial
  | cons entry rest ih => exact ⟨rfl, fun answer => StorageOnly.bind ih fun others => trivial⟩

theorem retrieveEach (limit : Duration) (entries : List (Nat × Except Storage.Error (Protocol × String))) :
    (Program.retrieveEach limit entries).StorageOnly := by
  induction entries with
  | nil => exact trivial
  | cons entry rest ih =>
    obtain ⟨position, err | ⟨protocol, uri⟩⟩ := entry
    · exact StorageOnly.bind ih fun others => trivial
    · exact ⟨rfl, fun answer => StorageOnly.bind ih fun others => trivial⟩

theorem step {program next : Program α} {heard : Transcript} (apart : program.StorageOnly)
    (taken : Step program heard next) : heard.OnStorage ∧ next.StorageOnly := by
  cases taken with
  | perform operation next answer => exact ⟨List.forall_mem_singleton.mpr apart.1, apart.2 answer⟩
  | storeAll protocol objects next order =>
    exact ⟨List.forall_mem_nil _, StorageOnly.bind (storeEach protocol _) fun finished => apart _⟩
  | retrieveAll targets limit next order =>
    exact ⟨List.forall_mem_nil _, StorageOnly.bind (retrieveEach limit _) fun finished => apart _⟩

theorem path {program last : Program α} {heard : Transcript} (apart : program.StorageOnly)
    (path : Path program heard last) : heard.OnStorage := by
  induction path with
  | refl => exact List.forall_mem_nil _
  | step taken _ ih =>
    obtain ⟨first, later⟩ := apart.step taken
    exact first.append (ih later)

end StorageOnly

end Program

namespace Attempt

open Program (Path)

variable {ε δ α β : Type} {attempt : Attempt ε α} {rest : α → Attempt ε β} {heard first second : Transcript}

theorem path_bind {last : Program (Except ε β)} {value : α} (path : Path attempt.run first (.done (.ok value)))
    (others : Path (rest value).run second last) : Path (attempt >>= rest).run (first ++ second) last :=
  Path.bind path others

theorem path_lift_bind {program : Program α} {last : Program (Except ε β)} {value : α}
    (path : Path program first (.done value)) (others : Path (rest value).run second last) :
    Path ((ExceptT.lift program : Attempt ε α) >>= rest).run (first ++ second) last :=
  path_bind (List.append_nil first ▸ Path.bind path (.refl _)) others

theorem path_ask_bind {call : Chain.Call} {f : Chain.Error → ε} {rest : call.Answer → Attempt ε β}
    {answer : call.Answer} {later : Transcript} {last : Program (Except ε β)}
    (others : Path (rest answer).run later last) :
    Path (orFail (Program.ask call) f >>= rest).run (⟨.chain call, .ok answer⟩ :: later) last :=
  .step (.perform (.chain call) _ (.ok answer)) others

theorem path_cases_bind {last : Program (Except ε β)} (path : Path (attempt >>= rest).run heard last) :
    ((∃ next, Path attempt.run heard next) ∧ ∀ value, last ≠ .done (.ok value)) ∨
      ∃ value first second, heard = first ++ second ∧ Path attempt.run first (.done (.ok value)) ∧
        Path (rest value).run second last := by
  rcases Path.of_bind path with ⟨next, started, rfl⟩ | ⟨err | value, first, second, rfl, ended, others⟩
  · cases next with
    | done result =>
      rcases result with err | value
      · exact .inl ⟨⟨_, started⟩, fun value same => nomatch same⟩
      · exact .inr ⟨value, heard, [], (List.append_nil heard).symm, started, .refl _⟩
    | _ => exact .inl ⟨⟨_, started⟩, fun value same => nomatch same⟩
  · obtain ⟨rfl, rfl⟩ := Path.of_done others
    rw [List.append_nil]
    exact .inl ⟨⟨_, ended⟩, fun value same => nomatch same⟩
  · exact .inr ⟨value, first, second, rfl, ended, others⟩

theorem path_of_bind {last : Program (Except ε β)} (path : Path (attempt >>= rest).run heard last) :
    (∃ next, Path attempt.run heard next) ∨ ∃ value first second, heard = first ++ second ∧
      Path attempt.run first (.done (.ok value)) ∧ Path (rest value).run second last :=
  (path_cases_bind path).imp_left And.left

theorem path_done_of_bind {result : Except ε β} (path : Path (attempt >>= rest).run heard (.done result)) :
    (∃ err, result = .error err ∧ Path attempt.run heard (.done (.error err))) ∨ ∃ value first second,
      heard = first ++ second ∧ Path attempt.run first (.done (.ok value)) ∧
        Path (rest value).run second (.done result) := by
  obtain ⟨err | value, first, second, rfl, ended, others⟩ := Path.done_of_bind path
  · obtain ⟨rfl, same⟩ := Path.of_done others
    cases same
    rw [List.append_nil]
    exact .inl ⟨err, rfl, ended⟩
  · exact .inr ⟨value, first, second, rfl, ended, others⟩

theorem path_ok_of_bind {value : β} (path : Path (attempt >>= rest).run heard (.done (.ok value))) :
    ∃ between first second, heard = first ++ second ∧ Path attempt.run first (.done (.ok between)) ∧
      Path (rest between).run second (.done (.ok value)) := by
  rcases path_done_of_bind path with ⟨err, same, -⟩ | ended
  · cases same
  · exact ended

theorem path_of_adapt {f : δ → ε} {inner : Attempt δ α} {last : Program (Except ε α)}
    (path : Path (ExceptT.adapt f inner : Attempt ε α).run heard last) : ∃ next, Path inner.run heard next := by
  rcases Path.of_bind path with ⟨next, started, -⟩ | ⟨value, first, second, rfl, ended, others⟩
  · exact ⟨next, started⟩
  · obtain ⟨rfl, -⟩ := Path.of_done others
    rw [List.append_nil]
    exact ⟨_, ended⟩

theorem path_done_of_adapt {f : δ → ε} {inner : Attempt δ α} {result : Except ε α}
    (path : Path (ExceptT.adapt f inner : Attempt ε α).run heard (.done result)) :
    ∃ between, Path inner.run heard (.done between) ∧ result = between.mapError f := by
  obtain ⟨between, first, second, rfl, ended, others⟩ := Path.done_of_bind path
  obtain ⟨rfl, same⟩ := Path.of_done others
  cases same
  rw [List.append_nil]
  exact ⟨between, ended, rfl⟩

theorem path_ok_of_adapt {f : δ → ε} {inner : Attempt δ α} {value : α}
    (path : Path (ExceptT.adapt f inner : Attempt ε α).run heard (.done (.ok value))) :
    Path inner.run heard (.done (.ok value)) := by
  obtain ⟨err | between, ended, same⟩ := path_done_of_adapt path
  · cases same
  · cases same
    exact ended

theorem path_cases_ofExcept_bind {result : Except ε α} {last : Program (Except ε β)}
    (path : Path (ofExcept result >>= rest).run heard last) :
    (heard = [] ∧ ∀ value, last ≠ .done (.ok value)) ∨
      ∃ value, result = .ok value ∧ Path (rest value).run heard last := by
  rcases result with err | value
  · obtain ⟨rfl, rfl⟩ := Path.of_done path
    exact .inl ⟨rfl, nofun⟩
  · exact .inr ⟨value, rfl, path⟩

theorem path_of_lift_bind {program : Program α} {last : Program (Except ε β)}
    (path : Path ((ExceptT.lift program : Attempt ε α) >>= rest).run heard last) :
    (∃ next, Path program heard next) ∨ ∃ value first second, heard = first ++ second ∧
      Path program first (.done value) ∧ Path (rest value).run second last := by
  have same : ((ExceptT.lift program : Attempt ε α) >>= rest).run = program >>= fun value => (rest value).run :=
    Program.bind_bind program _ _
  rw [same] at path
  rcases Path.of_bind path with ⟨next, started, -⟩ | ended
  · exact .inl ⟨next, started⟩
  · exact .inr ended

theorem path_done_of_lift_bind {program : Program α} {result : Except ε β}
    (path : Path ((ExceptT.lift program : Attempt ε α) >>= rest).run heard (.done result)) :
    ∃ value first second, heard = first ++ second ∧ Path program first (.done value) ∧
      Path (rest value).run second (.done result) := by
  have same : ((ExceptT.lift program : Attempt ε α) >>= rest).run = program >>= fun value => (rest value).run :=
    Program.bind_bind program _ _
  rw [same] at path
  exact Path.done_of_bind path

theorem path_cases_ask_bind {call : Chain.Call} {f : Chain.Error → ε} {rest : call.Answer → Attempt ε β}
    {last : Program (Except ε β)} (path : Path (orFail (Program.ask call) f >>= rest).run heard last) :
    ((heard = [] ∨ ∃ err, heard = [⟨.chain call, .error err⟩]) ∧ ∀ value, last ≠ .done (.ok value)) ∨
      ∃ answer later, heard = ⟨.chain call, .ok answer⟩ :: later ∧ Path (rest answer).run later last := by
  cases path with
  | refl => exact .inl ⟨.inl rfl, nofun⟩
  | step taken others =>
    cases taken with
    | perform _ _ answer =>
      rcases answer with err | answer
      · obtain ⟨rfl, rfl⟩ := Path.of_done others
        exact .inl ⟨.inr ⟨err, rfl⟩, nofun⟩
      · exact .inr ⟨answer, _, rfl, others⟩

theorem path_of_ask_bind {call : Chain.Call} {f : Chain.Error → ε} {rest : call.Answer → Attempt ε β}
    {last : Program (Except ε β)} (path : Path (orFail (Program.ask call) f >>= rest).run heard last) :
    heard = [] ∨ (∃ err, heard = [⟨.chain call, .error err⟩]) ∨ ∃ answer later,
      heard = ⟨.chain call, .ok answer⟩ :: later ∧ Path (rest answer).run later last := by
  rcases path_cases_ask_bind path with ⟨silent | failed, -⟩ | answered
  · exact .inl silent
  · exact .inr (.inl failed)
  · exact .inr (.inr answered)

end Attempt

end Availability
