import Availability.Proofs.Indexed
import Availability.World

namespace Availability

namespace Program

variable {α β γ : Type}

theorem bind_done (program : Program α) : program.bind .done = program := by
  induction program with
  | done value => rfl
  | perform operation next ih => exact congrArg (perform operation) (funext ih)
  | storeAll protocol objects next ih => exact congrArg (storeAll protocol objects) (funext ih)
  | retrieveAll targets limit next ih => exact congrArg (retrieveAll targets limit) (funext ih)

theorem bind_bind (program : Program α) (first : α → Program β) (second : β → Program γ) :
    (program.bind first).bind second = program.bind fun value => (first value).bind second := by
  induction program with
  | done value => rfl
  | perform operation next ih => exact congrArg (perform operation) (funext ih)
  | storeAll protocol objects next ih => exact congrArg (storeAll protocol objects) (funext ih)
  | retrieveAll targets limit next ih => exact congrArg (retrieveAll targets limit) (funext ih)

instance : LawfulMonad Program :=
  LawfulMonad.mk' Program bind_done (fun _ _ => rfl) bind_bind

end Program

structure Order (workers : Nat) where
  positions : List Nat
  complete : positions.Perm (List.range workers)

namespace Order

variable {α : Type} {items : List α} {order : Order items.length}

def queue (order : Order items.length) : List (Nat × α) :=
  order.positions.filterMap fun position => items[position]?.map (position, ·)

theorem mem_queue {position : Nat} {item : α} : (position, item) ∈ order.queue ↔ items[position]? = some item := by
  simp only [queue, List.mem_filterMap, Option.map_eq_some_iff, Prod.mk.injEq]
  constructor
  · rintro ⟨_, _, _, found, rfl, rfl⟩
    exact found
  · intro found
    have inside : position < items.length := (List.getElem?_eq_some_iff.mp found).1
    exact ⟨position, order.complete.mem_iff.mpr (List.mem_range.mpr inside), item, found, rfl, rfl⟩

theorem queue_positions_eq (order : Order items.length) : order.queue.map (·.1) = order.positions := by
  rw [queue, List.map_filterMap]
  refine (List.filterMap_congr fun position member => ?_).trans List.filterMap_some
  have inside : position < items.length := List.mem_range.mp (order.complete.mem_iff.mp member)
  simp [inside]

end Order

/-- Whatever answers the operations of a program and lets its workers end in some order. -/
structure Environment (σ : Type) where
  perform : σ → (operation : Operation) → operation.Answer × σ
  order : σ → (workers : Nat) → Order workers

namespace Environment

variable {σ α β : Type}

def finish (work : α → σ → β × σ) : List (Nat × α) → σ → List (Nat × β) × σ
  | [], state => ([], state)
  | (position, item) :: rest, state =>
    let (result, state) := work item state
    let (results, state) := finish work rest state
    ((position, result) :: results, state)

def queue (env : Environment σ) (items : List α) (state : σ) : List (Nat × α) :=
  (env.order state items.length).positions.filterMap fun position => items[position]?.map (position, ·)

def store (env : Environment σ) (protocol : Protocol) (object : Bytes) (state : σ) :
    Except Storage.Error String × σ :=
  env.perform state (.store protocol object)

def retrieve (env : Environment σ) (limit : Duration) :
    Except Storage.Error (Protocol × String) → σ → Except Storage.Error Bytes × σ
  | .error err, state => (.error err, state)
  | .ok (protocol, uri), state => env.perform state (.retrieve protocol uri limit)

def storeAll (env : Environment σ) (protocol : Protocol) (objects : List Bytes) (state : σ) :
    List (Nat × Except Storage.Error String) × σ :=
  finish (env.store protocol) (env.queue objects state) state

def retrieveAll (env : Environment σ) (limit : Duration) (targets : List (Except Storage.Error (Protocol × String)))
    (state : σ) : List (Nat × Except Storage.Error Bytes) × σ :=
  finish (env.retrieve limit) (env.queue targets state) state

end Environment

/-- Runs a program to its end, with whatever else the environment does in between. -/
def Program.runIn {σ α : Type} (env : Environment σ) : Program α → σ → α × σ
  | .done value, state => (value, state)
  | .perform operation next, state =>
    let (answer, state) := env.perform state operation
    (next answer).runIn env state
  | .storeAll protocol objects next, state =>
    let (finished, state) := env.storeAll protocol objects state
    (next ((Indexed.collect finished).map (·.2))).runIn env state
  | .retrieveAll targets limit next, state =>
    let (finished, state) := env.retrieveAll limit targets state
    (next ((Indexed.collect finished).map (·.2))).runIn env state

namespace Environment

variable {σ α β : Type}

theorem finish_positions (work : α → σ → β × σ) (entries : List (Nat × α)) (state : σ) :
    (finish work entries state).1.map (·.1) = entries.map (·.1) := by
  induction entries generalizing state with
  | nil => rfl
  | cons entry rest ih =>
    simp only [finish, List.map_cons, ih]

theorem mem_queue {env : Environment σ} {items : List α} {state : σ} {position : Nat} {item : α} :
    (position, item) ∈ env.queue items state ↔ items[position]? = some item := Order.mem_queue

theorem queue_positions_eq (env : Environment σ) (items : List α) (state : σ) :
    (env.queue items state).map (·.1) = (env.order state items.length).positions := Order.queue_positions_eq _

theorem queue_positions (env : Environment σ) (items : List α) (state : σ) :
    ((env.queue items state).map (·.1)).Perm (List.range items.length) := by
  rw [queue_positions_eq]
  exact (env.order state items.length).complete

theorem storeAll_complete (env : Environment σ) (protocol : Protocol) (objects : List Bytes) (state : σ) :
    ((env.storeAll protocol objects state).1.map (·.1)).Perm (List.range objects.length) := by
  rw [storeAll, finish_positions]
  exact env.queue_positions objects state

theorem retrieveAll_complete (env : Environment σ) (limit : Duration)
    (targets : List (Except Storage.Error (Protocol × String))) (state : σ) :
    ((env.retrieveAll limit targets state).1.map (·.1)).Perm (List.range targets.length) := by
  rw [retrieveAll, finish_positions]
  exact env.queue_positions targets state

end Environment

namespace Program

variable {σ α β : Type}

theorem runIn_bind (env : Environment σ) (program : Program α) (rest : α → Program β) (state : σ) :
    (program >>= rest).runIn env state =
      (rest (program.runIn env state).1).runIn env (program.runIn env state).2 := by
  change (program.bind rest).runIn env state = _
  induction program generalizing state with
  | done value => rfl
  | perform operation next ih => exact ih _ _
  | storeAll protocol objects next ih => exact ih _ _
  | retrieveAll targets limit next ih => exact ih _ _

end Program

namespace Attempt

variable {σ ε δ α β : Type}

def runIn (env : Environment σ) (attempt : Attempt ε α) (state : σ) : Except ε α × σ := attempt.run.runIn env state

theorem run_runIn (env : Environment σ) (attempt : Attempt ε α) (state : σ) :
    attempt.run.runIn env state = Attempt.runIn env attempt state := rfl

theorem runIn_bind (env : Environment σ) (attempt : Attempt ε α) (rest : α → Attempt ε β) (state : σ) :
    Attempt.runIn env (attempt >>= rest) state =
      match Attempt.runIn env attempt state with
      | (.ok value, state) => Attempt.runIn env (rest value) state
      | (.error err, state) => (.error err, state) := by
  refine (Program.runIn_bind env attempt.run _ state).trans ?_
  rw [runIn]
  rcases attempt.run.runIn env state with ⟨result, after⟩
  cases result <;> rfl

theorem runIn_bind_eq_ok {env : Environment σ} {attempt : Attempt ε α} {rest : α → Attempt ε β} {state after : σ}
    {value : β} :
    Attempt.runIn env (attempt >>= rest) state = (.ok value, after) ↔
      ∃ first between, Attempt.runIn env attempt state = (.ok first, between) ∧
        Attempt.runIn env (rest first) between = (.ok value, after) := by
  rw [runIn_bind]
  rcases Attempt.runIn env attempt state with ⟨err | first, between⟩
  · simp
  · simp

@[simp] theorem runIn_pure (env : Environment σ) (value : α) (state : σ) :
    Attempt.runIn env (pure value : Attempt ε α) state = (.ok value, state) := rfl

@[simp] theorem runIn_bind_pure (env : Environment σ) (attempt : Attempt ε α) (g : α → β) (state : σ) :
    Attempt.runIn env (attempt >>= fun value => pure (g value)) state =
      ((Attempt.runIn env attempt state).1.map g, (Attempt.runIn env attempt state).2) := by
  rw [runIn_bind]
  rcases Attempt.runIn env attempt state with ⟨err | value, after⟩ <;> rfl

@[simp] theorem runIn_throw (env : Environment σ) (err : ε) (state : σ) :
    Attempt.runIn env (throw err : Attempt ε α) state = (.error err, state) := rfl

@[simp] theorem runIn_ofExcept (env : Environment σ) (result : Except ε α) (state : σ) :
    Attempt.runIn env (ofExcept result) state = (result, state) := rfl

@[simp] theorem runIn_lift (env : Environment σ) (program : Program α) (state : σ) :
    Attempt.runIn env (ExceptT.lift program : Attempt ε α) state =
      (.ok (program.runIn env state).1, (program.runIn env state).2) :=
  Program.runIn_bind env program _ state

@[simp] theorem runIn_orFail (env : Environment σ) (program : Program (Except δ α)) (f : δ → ε) (state : σ) :
    Attempt.runIn env (orFail program f) state =
      ((program.runIn env state).1.mapError f, (program.runIn env state).2) :=
  Program.runIn_bind env program _ state

@[simp] theorem runIn_adapt (env : Environment σ) (attempt : Attempt δ α) (f : δ → ε) (state : σ) :
    Attempt.runIn env (ExceptT.adapt f attempt : Attempt ε α) state =
      ((Attempt.runIn env attempt state).1.mapError f, (Attempt.runIn env attempt state).2) :=
  Program.runIn_bind env attempt.run _ state

theorem runIn_adapt_eq_ok {env : Environment σ} {attempt : Attempt δ α} {f : δ → ε} {state after : σ} {value : α} :
    Attempt.runIn env (ExceptT.adapt f attempt : Attempt ε α) state = (.ok value, after) ↔
      Attempt.runIn env attempt state = (.ok value, after) := by
  rw [runIn_adapt, Prod.mk.injEq, Except.mapError_eq_ok, ← Prod.mk.injEq]

end Attempt

end Availability
