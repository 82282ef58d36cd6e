namespace Availability.Except

variable {ε δ α β : Type}

theorem map_eq_ok {f : α → β} {result : Except ε α} {value : β} :
    result.map f = .ok value ↔ ∃ found, result = .ok found ∧ f found = value := by
  cases result <;> simp [Except.map]

theorem map_eq_error {f : α → β} {result : Except ε α} {err : ε} :
    result.map f = .error err ↔ result = .error err := by
  cases result <;> simp [Except.map]

theorem bind_eq_ok {result : Except ε α} {next : α → Except ε β} {value : β} :
    (result >>= next) = .ok value ↔ ∃ first, result = .ok first ∧ next first = .ok value := by
  cases result with
  | error err => simp [bind, Except.bind]
  | ok first => simp [bind, Except.bind]

theorem mapError_eq_ok {f : ε → δ} {result : Except ε α} {value : α} :
    result.mapError f = .ok value ↔ result = .ok value := by
  cases result with
  | error err => exact ⟨nofun, nofun⟩
  | ok found => exact ⟨fun same => congrArg _ (Except.ok.inj same), fun same => congrArg _ (Except.ok.inj same)⟩

theorem mapError_eq_error {f : ε → δ} {result : Except ε α} {err : δ} :
    result.mapError f = .error err ↔ ∃ cause, result = .error cause ∧ f cause = err := by
  cases result with
  | error cause =>
    constructor
    · exact fun same => ⟨cause, rfl, Except.error.inj same⟩
    · rintro ⟨_, same, rfl⟩
      cases same
      rfl
  | ok value => exact ⟨nofun, nofun⟩

end Availability.Except
