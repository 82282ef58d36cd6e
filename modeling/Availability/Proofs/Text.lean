import Availability.Text

namespace Availability.Text

variable {separator : Char} {text front behind : List Char}

theorem split_eq_splitOn (separator : Char) (text : List Char) : split separator text = text.splitOn separator := by
  induction text with
  | nil => rfl
  | cons c rest ih =>
    rw [split, ih, List.splitOn_cons_eq_if_modifyHead]
    by_cases same : c = separator
    · rw [if_pos same, if_pos (beq_iff_eq.mpr same)]
    · rw [if_neg same, if_neg (mt beq_iff_eq.mp same)]
      cases pieces : rest.splitOn separator with
      | nil => exact absurd pieces (List.splitOn_ne_nil _ rest)
      | cons piece pieces => rfl

theorem cut?_append (free : separator ∉ front) (behind : List Char) :
    cut? separator (front ++ separator :: behind) = some (front, behind) := by
  induction front with
  | nil => exact if_pos rfl
  | cons c front ih =>
    obtain ⟨other, free⟩ := List.ne_and_not_mem_of_not_mem_cons free
    rw [List.cons_append, cut?, if_neg (Ne.symm other), ih free]
    rfl

theorem eq_append_of_cut? (found : cut? separator text = some (front, behind)) :
    text = front ++ separator :: behind := by
  induction text generalizing front with
  | nil => cases found
  | cons c rest ih =>
    rw [cut?] at found
    split at found
    · next same =>
      cases found
      rw [same, List.nil_append]
    · obtain ⟨⟨before, after⟩, first, pair⟩ := Option.map_eq_some_iff.mp found
      cases pair
      rw [ih first, List.cons_append]

section

variable {before body after : List Char}

theorem trimStart_append (blank : ∀ c ∈ before, isBlank c = true) (rest : List Char) :
    trimStart (before ++ rest) = trimStart rest := List.dropWhile_append_of_pos blank

theorem trimStart_of_solid (solid : ∀ c ∈ body, isBlank c = false) (filled : body ≠ []) (rest : List Char) :
    trimStart (body ++ rest) = body ++ rest := by
  obtain ⟨c, body, rfl⟩ := List.exists_cons_of_ne_nil filled
  exact List.dropWhile_cons_of_neg (by simp [solid c List.mem_cons_self])

theorem trim_padded (leading : ∀ c ∈ before, isBlank c = true) (solid : ∀ c ∈ body, isBlank c = false)
    (trailing : ∀ c ∈ after, isBlank c = true) (filled : body ≠ []) :
    trim (String.ofList (before ++ body ++ after)) = String.ofList body := by
  have turned : trimStart (body.reverse ++ []) = body.reverse ++ [] :=
    trimStart_of_solid (fun c member => solid c (List.mem_reverse.mp member)) (by simpa using filled) []
  rw [List.append_nil] at turned
  rw [trim, String.toList_ofList, List.append_assoc, trimStart_append leading, trimStart_of_solid solid filled,
    List.reverse_append, trimStart_append fun c member => trailing c (List.mem_reverse.mp member), turned,
    List.reverse_reverse]

end

end Availability.Text

namespace Availability

theorem Text.decimalDigit?_of_isDigit {c : Char} (digit : c.isDigit = true) :
    decimalDigit? c = some (c.toNat - '0'.toNat) := by
  rw [Char.isDigit, Bool.and_eq_true, decide_eq_true_eq, decide_eq_true_eq] at digit
  exact if_pos digit

namespace Decimal

variable {digits : List Char} {read : Nat}

theorem le_ofDigitChars (digits : List Char) (read : Nat) : read ≤ Nat.ofDigitChars 10 digits read := by
  induction digits generalizing read with
  | nil => exact Nat.le_refl read
  | cons c digits ih =>
    rw [Nat.ofDigitChars_cons]
    exact Nat.le_trans (by omega) (ih _)

theorem readDigits_of_digits (decimal : ∀ c ∈ digits, c.isDigit = true)
    (fits : Nat.ofDigitChars 10 digits read < UInt64.size) :
    readDigits read digits = .ok (Nat.ofDigitChars 10 digits read) := by
  induction digits generalizing read with
  | nil => rfl
  | cons c digits ih =>
    obtain ⟨first, others⟩ := List.forall_mem_cons.mp decimal
    rw [Nat.ofDigitChars_cons, Nat.mul_comm] at fits
    have small := Nat.lt_of_le_of_lt (le_ofDigitChars digits _) fits
    rw [Nat.ofDigitChars_cons, Nat.mul_comm, readDigits, Text.decimalDigit?_of_isDigit first]
    exact (if_neg (Nat.not_le.mpr small)).trans (ih others fits)

theorem readWord_of_digits {word : UInt64} (decimal : ∀ c ∈ digits, c.isDigit = true) (filled : digits ≠ [])
    (value : Nat.ofDigitChars 10 digits 0 = word.toNat) : readWord (String.ofList digits) = .ok word := by
  have read : readDigits 0 digits = .ok word.toNat := by
    rw [← value]
    exact readDigits_of_digits decimal (value ▸ word.toNat_lt)
  obtain ⟨c, digits, rfl⟩ := List.exists_cons_of_ne_nil filled
  have unsigned : c ≠ '+' := by
    rintro rfl
    exact absurd (decimal '+' List.mem_cons_self) (by decide)
  rw [readWord, String.toList_ofList]
  split
  · next none => cases none
  · next signed => exact absurd (List.cons.inj signed).1 unsigned
  · next signed => exact absurd (List.cons.inj signed).1 unsigned
  · rw [read, Except.map, UInt64.ofNat_toNat]

end Decimal

end Availability
