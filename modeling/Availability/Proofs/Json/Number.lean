import Mathlib.Data.List.Basic
import Mathlib.Data.List.TakeDrop
import Mathlib.Data.Option.Basic
import Availability.Proofs.Json.Reader

namespace Availability.Json

namespace Number

def numeral (n : Nat) : Bytes := (Nat.toDigits 10 n).map fun c => UInt8.ofNat c.toNat

def valueFrom (read : Nat) (digits : Bytes) : Nat :=
  digits.foldl (fun value byte => value * 10 + digitValue byte) read

def starts (byte : UInt8) : Bool := isDigit byte || byte = 0x2d

def Ends (rest : Bytes) : Prop := ∀ byte ∈ rest.head?, isDigit byte = false ∧ byte ≠ 0x2e ∧ byte ≠ 0x65 ∧ byte ≠ 0x45

section

variable {c : Char}

theorem utf8EncodeChar_digit (digit : c.isDigit = true) : String.utf8EncodeChar c = [UInt8.ofNat c.toNat] := by
  rw [Char.isDigit_iff_toNat] at digit
  exact if_pos (Nat.le_trans digit.2 (by decide))

theorem toNat_digit (digit : c.isDigit = true) : (UInt8.ofNat c.toNat).toNat = c.toNat := by
  rw [Char.isDigit_iff_toNat] at digit
  exact UInt8.toNat_ofNat_of_lt' (Nat.lt_of_le_of_lt digit.2 (by decide))

end

section

variable {n : Nat}

theorem isDigit_of_mem_toDigits {c : Char} (member : c ∈ Nat.toDigits 10 n) : c.isDigit = true :=
  Nat.isDigit_of_mem_toDigits (by decide) (by decide) member

theorem ofText_toString (n : Nat) : Bytes.ofText (toString n) = numeral n := by
  rw [Nat.toString_eq_ofList_toDigits, Bytes.ofText_ofList, numeral, List.map_eq_flatMap]
  exact List.flatMap_congr fun c member => utf8EncodeChar_digit (isDigit_of_mem_toDigits member)

theorem isDigit_of_mem {byte : UInt8} (member : byte ∈ numeral n) : isDigit byte = true := by
  obtain ⟨c, inside, rfl⟩ := List.mem_map.mp member
  have digit := isDigit_of_mem_toDigits inside
  have value := toNat_digit digit
  rw [Char.isDigit_iff_toNat] at digit
  simp only [isDigit, Bool.and_eq_true, decide_eq_true_eq, UInt8.le_iff_toNat_le, value]
  exact digit

theorem numeral_ne_nil (n : Nat) : numeral n ≠ [] := by
  rw [numeral, ne_eq, List.map_eq_nil_iff]
  exact Nat.toDigits_ne_nil

theorem valueFrom_map {cs : List Char} (decimal : ∀ c ∈ cs, c.isDigit = true) (read : Nat) :
    valueFrom read (cs.map fun c => UInt8.ofNat c.toNat) = Nat.ofDigitChars 10 cs read := by
  induction cs generalizing read with
  | nil => rfl
  | cons c cs ih =>
    obtain ⟨first, others⟩ := List.forall_mem_cons.mp decimal
    have step : read * 10 + digitValue (UInt8.ofNat c.toNat) = 10 * read + (c.toNat - '0'.toNat) := by
      rw [digitValue, toNat_digit first, Nat.mul_comm]
      rfl
    rw [Nat.ofDigitChars_cons, ← step]
    exact ih others _

theorem digitsValue_numeral (n : Nat) : digitsValue (numeral n) = n :=
  (valueFrom_map (fun _ member => isDigit_of_mem_toDigits member) 0).trans Nat.ofDigitChars_ten_toDigits

theorem numeral_of_lt (small : n < 10) : numeral n = [UInt8.ofNat n.digitChar.toNat] := by
  rw [numeral, Nat.toDigits_of_lt_base small]
  rfl

theorem head?_numeral (positive : 0 < n) : (numeral n).head? ≠ some 0x30 := by
  induction n using Nat.strongRecOn with
  | ind n ih =>
    by_cases small : n < 10
    · -- All digits but the last are those of a tenth of the number, so the first one is settled by the small numbers.
      have leading : ∀ n < 10, 0 < n → [UInt8.ofNat n.digitChar.toNat].head? ≠ some 0x30 := by decide
      rw [numeral_of_lt small]
      exact leading n small positive
    · have shorter := ih (n / 10) (by omega) (by omega)
      have last : numeral n = numeral (n / 10) ++ [UInt8.ofNat (n % 10).digitChar.toNat] := by
        rw [numeral, Nat.toDigits_of_base_le (by decide) (Nat.le_of_not_lt small), List.map_append]
        rfl
      rwa [last, List.head?_append_of_ne_nil _ (numeral_ne_nil (n / 10))]

theorem numeral_canonical (n : Nat) : (numeral n).length = 1 ∨ (numeral n).head? ≠ some 0x30 := by
  rcases Nat.eq_zero_or_pos n with rfl | positive
  · exact .inl rfl
  · exact .inr (head?_numeral positive)

end

section

variable {digits rest : Bytes}

theorem readDigits_append (decimal : ∀ byte ∈ digits, isDigit byte = true) (filled : digits ≠ []) (ends : Ends rest) :
    readDigits (digits ++ rest) = some (digits, rest) := by
  have stopped : rest.takeWhile isDigit = [] ∧ rest.dropWhile isDigit = rest := by
    cases rest with
    | nil => exact ⟨rfl, rfl⟩
    | cons byte rest =>
      have other := (ends byte rfl).1
      exact ⟨List.takeWhile_cons_of_neg (by simp [other]), List.dropWhile_cons_of_neg (by simp [other])⟩
  obtain ⟨byte, digits, rfl⟩ := List.exists_cons_of_ne_nil filled
  rw [readDigits, List.span_eq_takeWhile_dropWhile, List.takeWhile_append_of_pos decimal,
    List.dropWhile_append_of_pos decimal, stopped.1, stopped.2, List.append_nil]

theorem readFraction_of_ends (ends : Ends rest) : readFraction rest = some ([], rest) := by
  unfold readFraction
  split
  · exact absurd rfl (ends 0x2e rfl).2.1
  · rfl

theorem readExponent_of_ends (ends : Ends rest) : readExponent rest = some ([], rest) := by
  cases rest with
  | nil => rfl
  | cons byte rest =>
    obtain ⟨-, -, lower, upper⟩ := ends byte rfl
    exact if_neg (by simp [lower, upper])

theorem readLiteral_numeral (negative : Bool) (n : Nat) (ends : Ends rest) :
    readLiteral ((if negative then [0x2d] else []) ++ numeral n ++ rest) =
      some (⟨negative, numeral n, [], []⟩, rest) := by
  have digits := readDigits_append (fun _ => isDigit_of_mem) (numeral_ne_nil n) ends
  have canonical := numeral_canonical n
  cases negative with
  | true =>
    rw [if_pos rfl, List.singleton_append, List.cons_append, readLiteral]
    simp only [digits, canonical, readFraction_of_ends ends, readExponent_of_ends ends, Option.bind_eq_bind,
      Option.bind_some, guard_true, Option.pure_def]
  | false =>
    rw [if_neg Bool.false_ne_true, List.nil_append, readLiteral]
    · simp only [digits, canonical, readFraction_of_ends ends, readExponent_of_ends ends, Option.bind_eq_bind,
        Option.bind_some, guard_true, Option.pure_def]
    · intro tail signed
      obtain ⟨byte, others, split⟩ := List.exists_cons_of_ne_nil (numeral_ne_nil n)
      have digit : isDigit byte = true := isDigit_of_mem (split ▸ List.mem_cons_self)
      rw [split, List.cons_append] at signed
      rw [(List.cons.inj signed).1] at digit
      cases digit

end

section

variable {digits : Bytes} {read : Nat}

theorem le_valueFrom (digits : Bytes) (read : Nat) : read ≤ valueFrom read digits := by
  induction digits generalizing read with
  | nil => exact Nat.le_refl read
  | cons byte digits ih => exact Nat.le_trans (by omega) (ih (read * 10 + digitValue byte))

theorem scaleWhole_of_fits (fits : valueFrom read digits < UInt64.size) :
    scaleWhole ⟨read, 0⟩ digits = ⟨valueFrom read digits, 0⟩ := by
  induction digits generalizing read with
  | nil => rfl
  | cons byte digits ih =>
    have small := Nat.lt_of_le_of_lt (le_valueFrom digits (read * 10 + digitValue byte)) fits
    exact (if_pos (decide_eq_true small)).trans (ih fits)

end

theorem roundToDouble_le (n : Nat) : roundToDouble n ≤ 2 * n := by
  rcases Nat.eq_zero_or_pos n with rfl | positive
  · decide
  have kept : n / 2 ^ (n.log2 - 52) * 2 ^ (n.log2 - 52) ≤ n := Nat.div_mul_le_self n _
  have unit : 2 ^ (n.log2 - 52) ≤ n :=
    Nat.le_trans (Nat.pow_le_pow_right (by decide) (Nat.sub_le ..)) (Nat.log2_self_le (Nat.ne_of_gt positive))
  have up : (n / 2 ^ (n.log2 - 52) + 1) * 2 ^ (n.log2 - 52) ≤ 2 * n := by
    rw [Nat.succ_mul]
    omega
  simp only [roundToDouble, Nat.shiftRight_eq_div_pow, Nat.shiftLeft_eq]
  split
  · omega
  · split
    · exact up
    · omega

theorem inRange_word {n : Nat} (small : n < UInt64.size) : Scaled.inRange ⟨n, 0⟩ = true := by
  have one : roundToDouble (Nat.pow 10 (Int.toNat 0)) = 1 := by decide
  have far : 2 * UInt64.size < doubleLimit := by decide
  have within : roundToDouble n * roundToDouble (Nat.pow 10 (Int.toNat 0)) < doubleLimit := by
    have rounded := roundToDouble_le n
    rw [one]
    omega
  simp only [Scaled.inRange, decide_eq_true within, Bool.and_true, Bool.or_eq_true, decide_eq_true_eq]
  exact .inr (by decide)

theorem scaled_numeral (negative : Bool) {n : Nat} (small : n < UInt64.size) :
    Literal.scaled ⟨negative, numeral n, [], []⟩ = ⟨n, 0⟩ := by
  have value : valueFrom 0 (numeral n) = n := digitsValue_numeral n
  have fits : valueFrom 0 (numeral n) < UInt64.size := value.symm ▸ small
  rw [Literal.scaled, scaleWhole_of_fits fits, value]
  rfl

def Whole (value : Int) : Prop := -9223372036854775808 ≤ value ∧ value < UInt64.size

theorem ofText_int (value : Int) :
    Bytes.ofText (toString value) = (if value < 0 then [0x2d] else []) ++ numeral value.natAbs := by
  rw [Int.toString_eq_repr, Int.repr_eq_if]
  have minus : Bytes.ofText "-" = [0x2d] := by decide +kernel
  split
  · next positive =>
    rw [if_neg (by omega), List.nil_append, ← ofText_toString, show value.natAbs = value.toNat by omega]
    rfl
  · next negative =>
    rw [if_pos (by omega), ← ofText_toString, Bytes.ofText_append, minus, show value.natAbs = (-value).toNat by omega]
    rfl

theorem ofText_eq_cons (value : Int) :
    ∃ byte tail, Bytes.ofText (toString value) = byte :: tail ∧ starts byte = true := by
  rw [ofText_int]
  split
  · exact ⟨_, _, rfl, rfl⟩
  · obtain ⟨byte, tail, split⟩ := List.exists_cons_of_ne_nil (numeral_ne_nil value.natAbs)
    have digit : isDigit byte = true := isDigit_of_mem (split ▸ List.mem_cons_self)
    exact ⟨byte, tail, split, by rw [starts, digit, Bool.true_or]⟩

theorem ne_of_starts {byte other : UInt8} (first : starts byte = true) (none : starts other = false) : byte ≠ other := by
  rintro rfl
  exact Bool.false_ne_true (none.symm.trans first)

theorem isBlank_of_starts {byte : UInt8} (first : starts byte = true) : isBlank byte = false := by
  simp only [isBlank, Bool.or_eq_false_iff, decide_eq_false_iff_not]
  exact ⟨⟨⟨ne_of_starts first rfl, ne_of_starts first rfl⟩, ne_of_starts first rfl⟩, ne_of_starts first rfl⟩

theorem toJson_numeral {value : Int} (whole : Whole value) :
    Literal.toJson ⟨decide (value < 0), numeral value.natAbs, [], []⟩ = .int value := by
  obtain ⟨low, high⟩ := whole
  simp only [Literal.toJson, digitsValue_numeral, ne_eq, not_true_eq_false, or_self, if_false, decide_eq_true_eq]
  split
  · rw [if_neg (by omega)]
    congr 1
    omega
  · rw [if_pos (by omega)]
    congr 1
    omega

end Number

open Number in
theorem readValue_number {byte : UInt8} (first : starts byte = true) (fuel : Nat) (tail : Bytes) :
    readValue (fuel + 1) (byte :: tail) = numberFragment (byte :: tail) := by
  rw [readValue, skipBlanks_cons (isBlank_of_starts first)]
  split
  case h_7 => rfl
  all_goals
    next same => exact absurd (List.cons.inj same).1 (ne_of_starts first rfl)

open Number in
theorem numberFragment_int {value : Int} {rest : Bytes} (whole : Whole value) (ends : Ends rest) :
    numberFragment (Bytes.ofText (toString value) ++ rest) = (.whole (.int value), some rest) := by
  have read := readLiteral_numeral (decide (value < 0)) value.natAbs ends
  simp only [decide_eq_true_eq] at read
  have small : value.natAbs < UInt64.size := by
    obtain ⟨low, high⟩ := whole
    have size : UInt64.size = 18446744073709551616 := rfl
    omega
  rw [ofText_int, numberFragment, read]
  simp only [scaled_numeral _ small, inRange_word small, toJson_numeral whole, if_true]

end Availability.Json
