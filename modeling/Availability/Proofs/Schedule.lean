import Availability.Proofs.Audit.Docket
import Availability.Schedule

namespace Availability

open Program (Path)
open World (environment inOrder)

def Progress.program {α : Type} : Progress α → Program α
  | .finished value => .done value
  | .waiting _ _ rest => rest

namespace Program

variable {α β : Type}

theorem path_run (program : Program α) (world : World) :
    ∃ heard, Path program heard (.done (program.run world).1) ∧
      Plays (environment inOrder) heard world (program.run world).2 := by
  rw [World.run_eq_runIn]
  exact ⟨_, path_runIn (environment inOrder) program world, Plays.runIn (environment inOrder) program world⟩

/-- A program that goes on until it waits takes steps of its own, one after the other. -/
theorem path_advance (program : Program α) (world : World) :
    ∃ heard, Path program heard (program.advance world).1.program ∧
      Plays (environment inOrder) heard world (program.advance world).2 := by
  induction program generalizing world with
  | done value => exact ⟨[], .refl _, .done _⟩
  | perform operation next ih =>
    obtain ⟨heard, path, plays⟩ := ih (world.perform operation).1 (world.perform operation).2
    have performs : Path (.perform operation next) [⟨operation, (world.perform operation).1⟩]
        (next (world.perform operation).1) := .single (.perform operation next _)
    cases operation with
    -- Only a retrieval takes time, and not even that if its network is fast enough.
    | retrieve protocol uri limit =>
      rw [advance]
      simp only
      split
      · exact ⟨_, performs.append path, .step rfl plays⟩
      · exact ⟨_, performs, .step rfl (.done _)⟩
    | _ => exact ⟨_, performs.append path, .step rfl plays⟩
  | storeAll protocol objects next ih =>
    obtain ⟨heard, path, plays⟩ := path_run (.storeAll protocol objects .done) world
    exact ⟨heard, path.bind_left next, plays⟩
  | retrieveAll targets limit next ih =>
    obtain ⟨heard, path, plays⟩ := path_run (.retrieveAll targets limit .done) world
    have retrieves : Path (.retrieveAll targets limit next) heard (next (world.retrieveAll limit targets).1) :=
      path.bind_left next
    rw [advance]
    simp only
    split
    · obtain ⟨later, others, playing⟩ := ih (world.retrieveAll limit targets).1 (world.retrieveAll limit targets).2
      exact ⟨_, retrieves.append others, plays.append playing⟩
    · exact ⟨_, retrieves, plays⟩

/-- Waits, or lets others go first, at most so many times, whatever it is answered. -/
def Waits : Program α → Nat → Prop
  | .done _, _ => True
  | .perform (.retrieve ..) next, times => ∃ left, left + 1 ≤ times ∧ ∀ answer, (next answer).Waits left
  | .perform _ next, times => ∀ answer, (next answer).Waits times
  | .storeAll _ objects next, times =>
    ∃ left, left + 1 + pausesFor objects.length ≤ times ∧ ∀ answers, (next answers).Waits left
  | .retrieveAll targets _ next, times =>
    ∃ left, left + 1 + pausesFor targets.length ≤ times ∧ ∀ answers, (next answers).Waits left

namespace Waits

variable {program : Program α} {times more : Nat}

theorem mono (waits : program.Waits times) (less : times ≤ more) : program.Waits more := by
  induction program generalizing times more with
  | done value => exact trivial
  | perform operation next ih =>
    cases operation with
    | retrieve =>
      obtain ⟨left, enough, rest⟩ := waits
      exact ⟨left, enough.trans less, rest⟩
    | _ => exact fun answer => ih answer (waits answer) less
  | storeAll | retrieveAll =>
    obtain ⟨left, enough, rest⟩ := waits
    exact ⟨left, enough.trans less, rest⟩

theorem bind {rest : α → Program β} (first : program.Waits times) (second : ∀ value, (rest value).Waits more) :
    (program.bind rest).Waits (times + more) := by
  induction program generalizing times with
  | done value => exact (second value).mono (Nat.le_add_left _ _)
  | perform operation next ih =>
    cases operation with
    | retrieve =>
      obtain ⟨left, enough, others⟩ := first
      exact ⟨left + more, by omega, fun answer => ih answer (others answer)⟩
    | _ => exact fun answer => ih answer (first answer)
  | storeAll protocol objects next ih | retrieveAll targets limit next ih =>
    obtain ⟨left, enough, others⟩ := first
    exact ⟨left + more, by omega, fun answers => ih answers (others answers)⟩

theorem advance (waits : program.Waits times) {world : World} {span : Duration} {pauses : Nat} {rest : Program α}
    (waiting : (program.advance world).1 = .waiting span pauses rest) :
    ∃ left, left + 1 + pauses ≤ times ∧ rest.Waits left := by
  induction program generalizing times world with
  | done value => cases waiting
  | perform operation next ih =>
    cases operation with
    | retrieve protocol uri limit =>
      obtain ⟨left, enough, others⟩ := waits
      rw [Program.advance] at waiting
      simp only at waiting
      split at waiting
      · exact ih _ ((others _).mono (Nat.le_of_succ_le enough)) waiting
      · cases waiting
        exact ⟨left, enough, others _⟩
    | _ => exact ih _ (waits _) waiting
  | storeAll protocol objects next ih =>
    obtain ⟨left, enough, others⟩ := waits
    cases waiting
    exact ⟨left, enough, others _⟩
  | retrieveAll targets limit next ih =>
    obtain ⟨left, enough, others⟩ := waits
    rw [Program.advance] at waiting
    simp only at waiting
    split at waiting
    · exact ih _ ((others _).mono (by omega)) waiting
    · cases waiting
      exact ⟨left, enough, others _⟩

theorem last {rest : α → Program β} (first : program.Waits times) (second : ∀ value, (rest value).Waits 0) :
    (program.bind rest).Waits times := first.bind second

theorem map {f : α → β} (waits : program.Waits times) : (program.bind fun value => .done (f value)).Waits times :=
  waits.last fun _ => trivial

end Waits

end Program

namespace Attempt

variable {ε δ α β : Type} {attempt : Attempt ε α} {times more : Nat}

def Waits (attempt : Attempt ε α) (times : Nat) : Prop := attempt.run.Waits times

theorem Waits.bind {rest : α → Attempt ε β} (first : attempt.Waits times)
    (second : ∀ value, (rest value).Waits more) : (attempt >>= rest).Waits (times + more) := by
  refine Program.Waits.bind first fun result => ?_
  cases result with
  | error err => exact trivial
  | ok value => exact second value

theorem Waits.after {rest : α → Attempt ε β} (first : attempt.Waits 0) (second : ∀ value, (rest value).Waits times) :
    (attempt >>= rest).Waits times := Nat.zero_add times ▸ first.bind second

theorem Waits.adapt (waits : attempt.Waits times) (f : ε → δ) :
    Waits (ExceptT.adapt f attempt : Attempt δ α) times := Program.Waits.map waits

theorem waits_orFail (program : Program (Except δ α)) (waits : program.Waits times) (f : δ → ε) :
    Waits (orFail program f) times := waits.map

theorem waits_lift {program : Program α} (waits : program.Waits times) :
    Waits (ExceptT.lift program : Attempt ε α) times := waits.map

theorem Direct.waits (direct : attempt.Direct) : attempt.Waits 0 := by
  induction direct with
  | pure value => exact trivial
  | ask call f => exact waits_orFail (Program.ask call) (fun _ => trivial) f
  | prove witness f => exact waits_orFail (Program.prove witness) (fun _ => trivial) f
  | bind _ _ first next => exact first.bind next
  | adapt _ f waits => exact waits.adapt f

end Attempt

namespace Schedule

/-- The job whose turn it is lets others go first, is done, or goes on until it waits again. -/
inductive Turn : Schedule → World → Schedule → World → Prop where
  | pauses {job : Job} {rest : List Job} {world : World} (pausing : 0 < job.pauses) :
      Turn ⟨job :: rest⟩ world ⟨insert { job with pauses := job.pauses - 1, turns := job.turns - 1 } rest⟩ world
  | finishes {job : Job} {rest : List Job} {world after : World} (ready : job.pauses = 0)
      (ended : job.program.advance world = (.finished (), after)) : Turn ⟨job :: rest⟩ world ⟨rest⟩ after
  | waits {job : Job} {rest : List Job} {world after : World} {span : Duration} {pauses : Nat} {program : Program Unit}
      (ready : job.pauses = 0) (waiting : job.program.advance world = (.waiting span pauses program, after)) :
      Turn ⟨job :: rest⟩ world
        ⟨insert ⟨job.time + span.nanoseconds, pauses, job.turns - 1, program⟩ rest⟩ after

variable {schedule next : Schedule} {world after : World} {deadline : Option Nat} {turns : Nat}

theorem run_succ (deadline : Option Nat) (turns : Nat) (schedule : Schedule) (world : World) :
    (run deadline (turns + 1) schedule world = (schedule, world) ∧ (deadline = none → schedule.jobs = [])) ∨
      ∃ next after, Turn schedule world next after ∧
        run deadline (turns + 1) schedule world = run deadline turns next after := by
  obtain ⟨_ | ⟨job, rest⟩⟩ := schedule
  · exact .inl ⟨rfl, fun _ => rfl⟩
  rw [run]
  simp only
  split
  · rename_i late
    refine .inl ⟨rfl, ?_⟩
    rintro rfl
    cases late
  right
  split
  · exact ⟨_, _, .pauses ‹_›, rfl⟩
  · have ready : job.pauses = 0 := Nat.eq_zero_of_not_pos ‹_›
    cases went : job.program.advance world with
    | mk progress after =>
      cases progress with
      | finished => exact ⟨_, _, .finishes ready went, rfl⟩
      | waiting span pauses program => exact ⟨_, _, .waits ready went, rfl⟩

theorem run_induction (holds : Schedule → World → Prop)
    (step : ∀ {schedule world next after}, Turn schedule world next after → holds schedule world → holds next after)
    (start : holds schedule world) :
    holds (run deadline turns schedule world).1 (run deadline turns schedule world).2 := by
  induction turns generalizing schedule world with
  | zero => exact start
  | succ turns ih =>
    rcases run_succ deadline turns schedule world with ⟨ended, -⟩ | ⟨next, after, turn, onward⟩
    · rwa [ended]
    · rw [onward]
      exact ih (step turn start)

theorem insert_perm (job : Job) (jobs : List Job) : (insert job jobs).Perm (job :: jobs) := by
  induction jobs with
  | nil => exact .refl _
  | cons head rest ih =>
    rw [insert]
    split
    · exact (ih.cons head).trans (.swap job head rest)
    · exact .refl _

/-- The turns of a job are enough for its pauses and its waits. -/
def Affords (job : Job) : Prop := ∃ times, job.program.Waits times ∧ job.pauses + times + 1 ≤ job.turns

def turnsLeft (schedule : Schedule) : Nat := (schedule.jobs.map (·.turns)).sum

theorem turnsLeft_insert (job : Job) (jobs : List Job) : turnsLeft ⟨insert job jobs⟩ = job.turns + turnsLeft ⟨jobs⟩ :=
  ((insert_perm job jobs).map _).sum_eq.trans (List.sum_cons)

theorem affords_insert {job : Job} {jobs : List Job} :
    (∀ other ∈ insert job jobs, Affords other) ↔ Affords job ∧ ∀ other ∈ jobs, Affords other := by
  simp only [(insert_perm job jobs).mem_iff, List.forall_mem_cons]

theorem Turn.affords (turn : Turn schedule world next after) (affords : ∀ job ∈ schedule.jobs, Affords job) :
    (∀ job ∈ next.jobs, Affords job) ∧ next.turnsLeft < schedule.turnsLeft := by
  cases turn with
  | @pauses job rest _ pausing =>
    obtain ⟨⟨times, waits, enough⟩, others⟩ := List.forall_mem_cons.mp affords
    refine ⟨affords_insert.mpr ⟨⟨times, waits, ?_⟩, others⟩, ?_⟩
    · simp only
      omega
    · rw [turnsLeft_insert]
      simp only [turnsLeft, List.map_cons, List.sum_cons]
      omega
  | @finishes job rest _ _ ready ended =>
    obtain ⟨⟨times, waits, enough⟩, others⟩ := List.forall_mem_cons.mp affords
    refine ⟨others, ?_⟩
    simp only [turnsLeft, List.map_cons, List.sum_cons]
    omega
  | @waits job rest _ _ span pauses program ready waiting =>
    obtain ⟨⟨times, waits, enough⟩, others⟩ := List.forall_mem_cons.mp affords
    obtain ⟨left, fewer, onward⟩ := waits.advance (congrArg Prod.fst waiting)
    refine ⟨affords_insert.mpr ⟨⟨left, onward, ?_⟩, others⟩, ?_⟩
    · simp only
      omega
    · rw [turnsLeft_insert]
      simp only [turnsLeft, List.map_cons, List.sum_cons]
      omega

theorem run_ends (affords : ∀ job ∈ schedule.jobs, Affords job) (enough : schedule.turnsLeft ≤ turns) :
    (run none turns schedule world).1.jobs = [] := by
  induction turns generalizing schedule world with
  | zero =>
    obtain ⟨_ | ⟨job, rest⟩⟩ := schedule
    · rfl
    · obtain ⟨times, -, some_turn⟩ := affords job List.mem_cons_self
      simp only [turnsLeft, List.map_cons, List.sum_cons] at enough
      omega
  | succ turns ih =>
    rcases run_succ none turns schedule world with ⟨ended, empty⟩ | ⟨next, after, turn, onward⟩
    · rw [ended]
      exact empty rfl
    · obtain ⟨still, fewer⟩ := turn.affords affords
      rw [onward]
      exact ih still (by omega)

theorem runUntil_ends (affords : ∀ job ∈ schedule.jobs, Affords job) (world : World) :
    (schedule.runUntil none world).1.jobs = [] := by
  apply run_ends affords
  rw [turnsLeft, List.sum_eq_foldl, List.foldl_map]

theorem Turn.plays (turn : Turn schedule world next after) :
    ∃ heard, Plays (environment inOrder) heard world after := by
  cases turn with
  | pauses => exact ⟨[], .done _⟩
  | @finishes job _ _ _ _ went | @waits job _ _ _ _ _ _ _ went =>
    obtain ⟨heard, -, plays⟩ := Program.path_advance job.program world
    have same : (job.program.advance world).2 = after := congrArg Prod.snd went
    rw [same] at plays
    exact ⟨heard, plays⟩

end Schedule

end Availability
