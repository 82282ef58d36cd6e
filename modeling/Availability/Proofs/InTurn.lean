import Availability.Proofs.Environment

namespace Availability

variable {σ ε α β : Type}

def Attempt.inTurn (work : Nat → α → Attempt ε β) (index : Nat) : List α → Attempt ε (List β)
  | [] => pure []
  | item :: rest => do
    let value ← work index item
    let values ← inTurn work (index + 1) rest
    return value :: values

/-- Items that are worked through without a failure, each from where the one before has led. -/
inductive InTurn (env : Environment σ) (work : Nat → α → Attempt ε β) : Nat → List α → σ → List β → σ → Prop where
  | done (index : Nat) (state : σ) : InTurn env work index [] state [] state
  | next {index : Nat} {item : α} {rest : List α} {value : β} {values : List β} {state between after : σ}
      (ran : Attempt.runIn env (work index item) state = (.ok value, between))
      (others : InTurn env work (index + 1) rest between values after) :
      InTurn env work index (item :: rest) state (value :: values) after

inductive FailsAfter (env : Environment σ) (work : Nat → α → Attempt ε β) (index : Nat) :
    (items done : List α) → σ → ε → σ → Prop where
  | intro {done rest : List α} {item : α} {values : List β} {state between after : σ} {err : ε}
      (turn : InTurn env work index done state values between)
      (failed : Attempt.runIn env (work (index + done.length) item) between = (.error err, after)) :
      FailsAfter env work index (done ++ item :: rest) done state err after

section

variable {env : Environment σ} {work : Nat → α → Attempt ε β} {index : Nat} {items : List α} {values : List β}
  {state after : σ}

theorem InTurn.length (turn : InTurn env work index items state values after) : values.length = items.length := by
  induction turn with
  | done => rfl
  | next _ _ ih => rw [List.length_cons, List.length_cons, ih]

theorem InTurn.preserves (holds : σ → Prop) (turn : InTurn env work index items state values after)
    (step : ∀ place, ∀ item ∈ items, ∀ before value next,
      Attempt.runIn env (work place item) before = (.ok value, next) → holds before → holds next)
    (start : holds state) : holds after := by
  induction turn with
  | done => exact start
  | next ran _ ih =>
    refine ih (fun place item member => step place item (List.mem_cons_of_mem _ member)) ?_
    exact step _ _ List.mem_cons_self _ _ _ ran start

theorem runIn_inTurn_eq_ok_iff :
    Attempt.runIn env (Attempt.inTurn work index items) state = (.ok values, after) ↔
      InTurn env work index items state values after := by
  constructor
  · intro ran
    induction items generalizing index state values with
    | nil =>
      cases ran
      exact .done _ _
    | cons item rest ih =>
      obtain ⟨value, between, first, ran⟩ := Attempt.runIn_bind_eq_ok.mp ran
      obtain ⟨others, last, later, ran⟩ := Attempt.runIn_bind_eq_ok.mp ran
      cases ran
      exact .next first (ih later)
  · intro turn
    induction turn with
    | done => rfl
    | next ran _ ih =>
      exact Attempt.runIn_bind_eq_ok.mpr ⟨_, _, ran, Attempt.runIn_bind_eq_ok.mpr ⟨_, _, ih, rfl⟩⟩

theorem runIn_inTurn_eq_error_iff {err : ε} :
    Attempt.runIn env (Attempt.inTurn work index items) state = (.error err, after) ↔
      ∃ done, FailsAfter env work index items done state err after := by
  constructor
  · intro ran
    induction items generalizing index state with
    | nil => cases ran
    | cons item rest ih =>
      rw [Attempt.inTurn, Attempt.runIn_bind] at ran
      rcases first : Attempt.runIn env (work index item) state with ⟨failure | value, between⟩
      · rw [first] at ran
        cases ran
        exact ⟨[], .intro (.done index state) first⟩
      · simp only [first, Attempt.runIn_bind] at ran
        rcases later : Attempt.runIn env (Attempt.inTurn work (index + 1) rest) between with ⟨failure | others, last⟩
        · rw [later] at ran
          cases ran
          obtain ⟨done, turn, failed⟩ := ih later
          refine ⟨item :: done, .intro (.next first turn) ?_⟩
          rwa [List.length_cons, Nat.add_comm done.length, ← Nat.add_assoc]
        · rw [later] at ran
          cases ran
  · rintro ⟨done, turn, failed⟩
    induction turn with
    | done index state =>
      rw [List.nil_append, Attempt.inTurn, Attempt.runIn_bind]
      rw [List.length_nil, Nat.add_zero] at failed
      rw [failed]
    | next ran others ih =>
      rw [List.length_cons, Nat.add_comm _ 1, ← Nat.add_assoc] at failed
      rw [List.cons_append, Attempt.inTurn, Attempt.runIn_bind, ran]
      simp only [Attempt.runIn_bind, ih failed]

end

end Availability
