import Mathlib.LinearAlgebra.Matrix.NonsingularInverse
import Mathlib.LinearAlgebra.Vandermonde
import Availability.Proofs.Erasure.Interpolation

namespace Availability.Erasure

open Polynomial

def powers (total dataShardCount : Nat) : Matrix (Fin total) (Fin dataShardCount) Symbol :=
  Matrix.of fun row column => Symbol.ofIndex row ^ column.val

def dataPowers (dataShardCount : Nat) : Matrix (Fin dataShardCount) (Fin dataShardCount) Symbol :=
  Matrix.vandermonde fun row : Fin dataShardCount => Symbol.ofIndex row

/-- The systematic form of the matrix of powers: its data rows are those of the identity. -/
noncomputable def codingMatrix (total dataShardCount : Nat) : Matrix (Fin total) (Fin dataShardCount) Symbol :=
  powers total dataShardCount * (dataPowers dataShardCount)⁻¹

theorem vandermonde_isUnit {count : Nat} {rows : Fin count → Nat} (distinct : Function.Injective rows)
    (bound : ∀ row, rows row < maxTotalShards) :
    IsUnit (Matrix.vandermonde fun row => Symbol.ofIndex (rows row)).det := by
  rw [isUnit_iff_ne_zero, Matrix.det_vandermonde_ne_zero_iff]
  intro a b same
  have small : ∀ node ∈ Finset.univ.image rows, node < maxTotalShards := by
    intro node member
    obtain ⟨row, _, rfl⟩ := Finset.mem_image.mp member
    exact bound row
  exact distinct (ofIndex_injOn small (by simp) (by simp) same)

theorem dataPowers_isUnit {count : Nat} (few : count ≤ maxTotalShards) : IsUnit (dataPowers count).det :=
  vandermonde_isUnit Fin.val_injective fun row => lt_of_lt_of_le row.isLt few

theorem sum_basis_power {count : Nat} (few : count ≤ maxTotalShards) (target : Nat) (power : Fin count) :
    ∑ column : Fin count, basis (List.range count) column target * Symbol.ofIndex column ^ power.val =
      Symbol.ofIndex target ^ power.val := by
  have injective : Set.InjOn Symbol.ofIndex (Finset.range count) :=
    ofIndex_injOn fun _ member => lt_of_lt_of_le (Finset.mem_range.mp member) few
  have degree : (X ^ power.val : Symbol[X]).degree < (Finset.range count).card := by
    rw [degree_X_pow, Finset.card_range]
    exact_mod_cast power.isLt
  have recovered := congrArg (eval (Symbol.ofIndex target)) (Lagrange.eq_interpolate injective degree)
  rw [Lagrange.interpolate_apply, eval_finsetSum, eval_pow, eval_X, Finset.sum_range] at recovered
  rw [recovered]
  apply Finset.sum_congr rfl
  intro column _
  rw [basis_eq_eval List.nodup_range, List.toFinset_range, eval_mul, eval_C, eval_pow, eval_X, mul_comm]

theorem codingMatrix_apply {total count : Nat} (few : count ≤ maxTotalShards) (row : Fin total)
    (column : Fin count) : codingMatrix total count row column = basis (List.range count) column row := by
  let factors : Matrix (Fin total) (Fin count) Symbol :=
    Matrix.of fun row column => basis (List.range count) column row
  have reproduced : factors * dataPowers count = powers total count := by
    ext target power
    exact sum_basis_power few target power
  have systematic : codingMatrix total count = factors := by
    rw [codingMatrix, ← reproduced, Matrix.mul_nonsing_inv_cancel_right _ _ (dataPowers_isUnit few)]
  rw [systematic]
  rfl

/-- No choice of as many rows as there are data shards gives a singular matrix. -/
theorem codingMatrix_rows_isUnit {total count : Nat} (few : count ≤ total) (bound : total ≤ maxTotalShards)
    {rows : Fin count → Fin total} (distinct : Function.Injective rows) :
    IsUnit ((codingMatrix total count).submatrix rows id).det := by
  have chosen : (codingMatrix total count).submatrix rows id =
      Matrix.vandermonde (fun row => Symbol.ofIndex (rows row)) * (dataPowers count)⁻¹ := by
    rw [codingMatrix, Matrix.submatrix_mul _ _ _ id _ Function.bijective_id]
    rfl
  rw [chosen, Matrix.det_mul]
  apply IsUnit.mul
  · have separate : Function.Injective fun row => (rows row).val := fun a b same => distinct (Fin.ext same)
    exact vandermonde_isUnit separate fun row => lt_of_lt_of_le (rows row).isLt bound
  · rw [Matrix.det_nonsing_inv]
    exact (dataPowers_isUnit (few.trans bound)).ringInverse

theorem eval_interpolate_eq_sum {total count : Nat} (few : count ≤ maxTotalShards) (symbols : Nat → Symbol)
    (row : Fin total) :
    (Lagrange.interpolate (Finset.range count) Symbol.ofIndex symbols).eval (Symbol.ofIndex row) =
      ∑ column : Fin count, codingMatrix total count row column * symbols column := by
  rw [Lagrange.interpolate_apply, eval_finsetSum, Finset.sum_range]
  apply Finset.sum_congr rfl
  intro column _
  rw [codingMatrix_apply few, basis_eq_eval List.nodup_range, List.toFinset_range, eval_mul, eval_C, mul_comm]

/-- Every shard of a codeword is its row of the coding matrix applied to the data shards. -/
theorem symbolAt_codeword_eq_sum {size total : Nat} {dataShards : List Bytes}
    (few : dataShards.length ≤ maxTotalShards) (lengths : ∀ shard ∈ dataShards, shard.length = size)
    (row : Fin total) (position : Nat) :
    symbolAt (codeword size dataShards row) position =
      ∑ column : Fin dataShards.length,
        codingMatrix total dataShards.length row column * symbolAt dataShards[column] position := by
  rw [symbolAt_codeword few lengths, symbolPolynomial, eval_interpolate_eq_sum few]
  simp

/-- Interpolation from chosen shards, whatever they hold, solves for the data shards that the rows of the
coding matrix give them. -/
theorem symbolAt_interpolate_eq_solution {size total count : Nat} (few : count ≤ total)
    (bound : total ≤ maxTotalShards) {rows : Fin count → Fin total} (distinct : Function.Injective rows)
    {known : Fin count → Bytes} (lengths : ∀ row, (known row).length = size) (target : Fin count)
    (position : Nat) :
    symbolAt (interpolate size (List.ofFn fun row => (rows row).val) (List.ofFn known) target) position =
      ∑ row : Fin count,
        ((codingMatrix total count).submatrix rows id)⁻¹ target row * symbolAt (known row) position := by
  let chosen := (codingMatrix total count).submatrix rows id
  let values : Fin count → Symbol := fun row => symbolAt (known row) position
  let solution : Fin count → Symbol := chosen⁻¹.mulVec values
  let extended : Nat → Symbol := fun index => if inside : index < count then solution ⟨index, inside⟩ else 0
  let polynomial : Symbol[X] := Lagrange.interpolate (Finset.range count) Symbol.ofIndex extended
  have injective : Set.InjOn Symbol.ofIndex (Finset.range count) :=
    ofIndex_injOn fun _ member => lt_of_lt_of_le (Finset.mem_range.mp member) (few.trans bound)
  have solved : chosen.mulVec solution = values := by
    rw [Matrix.mulVec_mulVec, Matrix.mul_nonsing_inv _ (codingMatrix_rows_isUnit few bound distinct),
      Matrix.one_mulVec]
  have through (row : Fin count) : values row = polynomial.eval (Symbol.ofIndex (rows row)) := by
    rw [← congrFun solved row, eval_interpolate_eq_sum (few.trans bound)]
    simp only [extended, Fin.is_lt, dif_pos]
    rfl
  have degree : polynomial.degree < count := by
    have small := Lagrange.degree_interpolate_lt extended injective
    rwa [Finset.card_range] at small
  have extrapolated : symbolAt (interpolate size (List.ofFn fun row => (rows row).val) (List.ofFn known) target)
      position = polynomial.eval (Symbol.ofIndex target) := by
    apply symbolAt_interpolate_of_eval _ _ _ (by simp)
    · simpa using degree
    · intro entry member
      obtain ⟨index, inside, rfl⟩ := List.mem_iff_getElem.mp member
      simpa using through ⟨index, by simpa using inside⟩
    · exact List.nodup_ofFn.mpr fun a b same => distinct (Fin.ext same)
    · intro node member
      obtain ⟨row, rfl⟩ := List.mem_ofFn.mp member
      exact lt_of_lt_of_le (rows row).isLt bound
    · intro shard member
      obtain ⟨row, rfl⟩ := List.mem_ofFn.mp member
      exact lengths row
  rw [extrapolated, Lagrange.eval_interpolate_at_node _ injective (Finset.mem_range.mpr target.isLt)]
  simp only [extended, target.isLt, dif_pos]
  rfl

end Availability.Erasure
