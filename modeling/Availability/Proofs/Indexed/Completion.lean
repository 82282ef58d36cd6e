import Mathlib.Logic.Relation
import Availability.Proofs.Indexed

namespace Availability.Indexed

variable {ι ω ψ ε α : Type}

structure Crew (ι ω : Type) where
  working : List (Nat × ι)
  ended : List (Nat × ω)

namespace Crew

def start (items : List ι) : Crew ι ω where
  working := items.zipIdx.map fun (item, position) => (position, item)
  ended := []

/-- Any of the workers ends next. -/
inductive Step (work : Nat → ι → ω) : Crew ι ω → Crew ι ω → Prop where
  | ends (before : List (Nat × ι)) (position : Nat) (item : ι) (after : List (Nat × ι)) (ended : List (Nat × ω)) :
    Step work ⟨before ++ (position, item) :: after, ended⟩
      ⟨before ++ after, ended ++ [(position, work position item)]⟩

abbrev Run (work : Nat → ι → ω) : Crew ι ω → Crew ι ω → Prop := Relation.ReflTransGen (Step work)

def endings (work : Nat → ι → ω) (crew : Crew ι ω) : List (Nat × ω) :=
  crew.ended ++ crew.working.map fun (position, item) => (position, work position item)

variable {work : Nat → ι → ω} {crew next : Crew ι ω}

/-- A worker that ends moves from one list to the other: none is lost, and none ends twice. -/
theorem Step.endings (step : Step work crew next) : (next.endings work).Perm (crew.endings work) := by
  obtain ⟨before, position, item, after, ended⟩ := step
  simp only [Crew.endings, List.map_append, List.map_cons, List.append_assoc, List.singleton_append]
  exact List.perm_middle.symm.append_left ended

theorem Step.fewer (step : Step work crew next) : next.working.length + 1 = crew.working.length := by
  obtain ⟨before, position, item, after, ended⟩ := step
  simp only [List.length_append, List.length_cons]
  omega

theorem Run.endings (run : Run work crew next) : (next.endings work).Perm (crew.endings work) := by
  induction run with
  | refl => exact .refl _
  | tail _ step ih => exact step.endings.trans ih

theorem step_or_over (work : Nat → ι → ω) (crew : Crew ι ω) : (∃ next, Step work crew next) ∨ crew.working = [] := by
  obtain ⟨working, ended⟩ := crew
  cases working with
  | nil => exact .inr rfl
  | cons worker rest => exact .inl ⟨_, .ends [] worker.1 worker.2 rest ended⟩

theorem exists_run {working order : List (Nat × ι)} (permuted : order.Perm working) (ended : List (Nat × ω)) :
    Run work ⟨working, ended⟩ ⟨[], ended ++ order.map fun (position, item) => (position, work position item)⟩ := by
  induction order generalizing working ended with
  | nil =>
    obtain rfl := permuted.nil_eq
    rw [List.map_nil, List.append_nil]
  | cons worker rest ih =>
    obtain ⟨before, after, rfl⟩ := List.append_of_mem (permuted.mem_iff.mp List.mem_cons_self)
    have others : rest.Perm (before ++ after) := (permuted.trans List.perm_middle).cons_inv
    have ends : Step work _ _ := .ends before worker.1 worker.2 after ended
    have later := ih others (ended ++ [(worker.1, work worker.1 worker.2)])
    rw [List.append_assoc] at later
    exact .head ends later

theorem ended_of_run {items : List ι} (run : Run work (start items) crew) (idle : crew.working = []) :
    crew.ended.Perm (items.zipIdx.map fun (item, position) => (position, work position item)) := by
  have same := run.endings
  rw [Crew.endings, idle, List.map_nil, List.append_nil] at same
  rwa [Crew.endings, start, List.nil_append, List.map_map] at same

end Crew

open Crew

section

variable {work : Nat → ι → Ending ψ ε α} {crew : Crew ι (Ending ψ ε α)} {items : List ι}

def expected (work : Nat → ι → Ending ψ ε α) (ofPanic : ψ → ε) (items : List ι) : List (Nat × Except ε α) :=
  items.zipIdx.map fun (item, position) => (position, (work position item).result ofPanic)

theorem expected_positions (work : Nat → ι → Ending ψ ε α) (ofPanic : ψ → ε) (items : List ι) :
    (expected work ofPanic items).map (·.1) = List.range items.length := by
  simp only [expected, List.map_map, Function.comp_def, List.zipIdx_map_snd, List.range_eq_range']

theorem expected_ascending (work : Nat → ι → Ending ψ ε α) (ofPanic : ψ → ε) (items : List ι) :
    (expected work ofPanic items).Pairwise (·.1 < ·.1) := by
  rw [← List.pairwise_map, expected_positions]
  exact List.pairwise_lt_range

theorem getElem?_expected (work : Nat → ι → Ending ψ ε α) (ofPanic : ψ → ε) (items : List ι) (position : Nat) :
    ((expected work ofPanic items).map (·.2))[position]? =
      items[position]?.map fun item => (work position item).result ofPanic := by
  simp [expected, Function.comp_def]

theorem mem_expected {ofPanic : ψ → ε} {position : Nat} {result : Except ε α} :
    (position, result) ∈ expected work ofPanic items ↔
      ∃ item, items[position]? = some item ∧ (work position item).result ofPanic = result := by
  simp only [expected, List.mem_map, Prod.mk.injEq, Prod.exists, List.mem_zipIdx_iff_getElem?]
  constructor
  · rintro ⟨item, _, found, rfl, same⟩
    exact ⟨item, found, same⟩
  · rintro ⟨item, found, same⟩
    exact ⟨item, position, found, rfl, same⟩

/-- In whatever order the workers end, their results come in the order of the items. -/
theorem results_of_run (ofPanic : ψ → ε) (run : Run work (start items) crew) (idle : crew.working = []) :
    results ofPanic crew.ended = expected work ofPanic items := by
  have finished : (crew.ended.map fun entry => (entry.1, entry.2.result ofPanic)).Perm
      (expected work ofPanic items) := by
    have ended := (ended_of_run run idle).map fun entry => (entry.1, entry.2.result ofPanic)
    rwa [List.map_map] at ended
  have complete := finished.map (·.1)
  rw [expected_positions] at complete
  have ascending := expected_ascending work ofPanic items
  exact eq_of_mem_iff (collect_ascending complete) ascending fun _ => ((collect_perm _).trans finished).mem_iff

theorem Ending.result_eq_ok {ofPanic : ψ → ε} {ending : Ending ψ ε α} {value : α} :
    ending.result ofPanic = .ok value ↔ ending = .returned (.ok value) := by
  cases ending <;> simp [Ending.result]

theorem tolerate_expected (work : Nat → ι → Ending ψ ε α) (ofPanic : ψ → ε) (items : List ι) :
    ∃ values, join .tolerate (expected work ofPanic items) = .ok values ∧ values.Pairwise (·.1 < ·.1) ∧
      ∀ position value, (position, value) ∈ values ↔
        ∃ item, items[position]? = some item ∧ work position item = .returned (.ok value) := by
  refine ⟨_, join_tolerate _, succeeded_of_ascending (expected_ascending work ofPanic items), fun position value => ?_⟩
  simp only [mem_succeeded, mem_expected, Ending.result_eq_ok]

theorem abort_expected_eq_error {ofPanic : ψ → ε} {err : ε} :
    join .abort (expected work ofPanic items) = .error err ↔
      ∃ position item, items[position]? = some item ∧ (work position item).result ofPanic = .error err ∧
        ∀ earlier < position, ∃ other value,
          items[earlier]? = some other ∧ work earlier other = .returned (.ok value) := by
  simp only [join_abort_eq_error_iff, FirstFailure, getElem?_expected, Option.map_eq_some_iff, Ending.result_eq_ok]
  constructor
  · rintro ⟨position, ⟨item, found, failed⟩, before⟩
    refine ⟨position, item, found, failed, fun earlier behind => ?_⟩
    obtain ⟨value, other, here, returned⟩ := before earlier behind
    exact ⟨other, value, here, returned⟩
  · rintro ⟨position, item, found, failed, before⟩
    refine ⟨position, ⟨item, found, failed⟩, fun earlier behind => ?_⟩
    obtain ⟨other, value, here, returned⟩ := before earlier behind
    exact ⟨value, other, here, returned⟩

end

/-- The workers of a map run until none is left, whatever each of them does. Its results are then those of the
items in their order, a panic among them as the failure of its item; they are joined to the values in ascending
order, or to the failure at the lowest position, whichever worker ended first. -/
theorem map_unaffected_by_order {work : Nat → ι → Ending ψ ε α} {crew : Crew ι (Ending ψ ε α)} {items : List ι}
    (ofPanic : ψ → ε) (run : Run work (start items) crew) :
    (∀ next, Step work crew next → next.working.length + 1 = crew.working.length) ∧
    ((∃ next, Step work crew next) ∨ crew.working = []) ∧
    (crew.working = [] →
      results ofPanic crew.ended =
        (items.zipIdx.map fun (item, position) => (position, (work position item).result ofPanic)) ∧
      (∃ values, join .tolerate (results ofPanic crew.ended) = .ok values ∧ values.Pairwise (·.1 < ·.1) ∧
        ∀ position value, (position, value) ∈ values ↔
          ∃ item, items[position]? = some item ∧ work position item = .returned (.ok value)) ∧
      (∀ values, join .abort (results ofPanic crew.ended) = .ok values ↔
        results ofPanic crew.ended = values.map fun (position, value) => (position, .ok value)) ∧
      ∀ err, join .abort (results ofPanic crew.ended) = .error err ↔
        ∃ position item, items[position]? = some item ∧ (work position item).result ofPanic = .error err ∧
          ∀ earlier < position, ∃ other value,
            items[earlier]? = some other ∧ work earlier other = .returned (.ok value)) := by
  refine ⟨fun _ => Step.fewer, step_or_over work crew, fun idle => ?_⟩
  rw [results_of_run ofPanic run idle]
  exact ⟨rfl, tolerate_expected work ofPanic items, fun _ => join_abort_eq_ok_iff, fun _ => abort_expected_eq_error⟩

/-- Three workers, of which the last ends first and the one in the middle panics. -/
theorem map_unaffected_by_order_panic :
    let work (position _item : Nat) : Ending Unit String Nat :=
      if position = 1 then .panicked () else .returned (.ok (position * 10))
    let ended := [(2, .returned (.ok 20)), (1, .panicked ()), (0, .returned (.ok 0))]
    Run work (start [7, 8, 9]) ⟨[], ended⟩ ∧
      results (fun _ => "panic") ended = [(0, .ok 0), (1, .error "panic"), (2, .ok 20)] ∧
      join .abort (results (fun _ => "panic") ended) = .error "panic" := by
  intro work ended
  have order : [(2, 9), (1, 8), (0, 7)].Perm [(0, 7), (1, 8), (2, 9)] := List.reverse_perm [(0, 7), (1, 8), (2, 9)]
  have run : Run work (start [7, 8, 9]) ⟨[], ended⟩ := exists_run order []
  obtain ⟨-, -, whole⟩ := map_unaffected_by_order (fun _ => "panic") run
  obtain ⟨results, -, -, abort⟩ := whole rfl
  refine ⟨run, results, (abort _).mpr ⟨1, 8, rfl, rfl, fun earlier before => ?_⟩⟩
  obtain rfl : earlier = 0 := by omega
  exact ⟨7, 0, rfl, rfl⟩

end Availability.Indexed
