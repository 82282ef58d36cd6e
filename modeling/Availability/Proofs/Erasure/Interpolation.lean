import Mathlib.LinearAlgebra.Lagrange
import Availability.Erasure
import Availability.Proofs.Erasure.Field

namespace Availability.Erasure

open Polynomial

theorem ofIndex_injOn {nodes : Finset Nat} (bound : ∀ node ∈ nodes, node < maxTotalShards) :
    Set.InjOn Symbol.ofIndex nodes := by
  intro a first b second same
  have low := bound a first
  have high := bound b second
  have bytes := congrArg (fun symbol : Symbol => symbol.byte.toNat) same
  simp only [Symbol.ofIndex, UInt8.toNat_ofNat', maxTotalShards] at bytes low high
  omega

theorem product_eq_prod (factors : List Symbol) : product factors = factors.prod :=
  List.prod_eq_foldl.symm

theorem basis_eq_eval {nodes : List Nat} (distinct : nodes.Nodup) (node target : Nat) :
    basis nodes node target =
      (Lagrange.basis nodes.toFinset Symbol.ofIndex node).eval (Symbol.ofIndex target) := by
  have others : (nodes.filter (· ≠ node)).toFinset = nodes.toFinset.erase node := by
    rw [List.toFinset_filter]
    simp [Finset.filter_ne']
  have kept : (nodes.filter (· ≠ node)).Nodup := distinct.filter _
  simp only [basis, product_eq_prod, ← List.prod_toFinset _ kept, others]
  rw [Lagrange.basis, eval_prod, div_eq_mul_inv, ← Finset.prod_inv_distrib, ← Finset.prod_mul_distrib]
  apply Finset.prod_congr rfl
  intro other _
  simp only [Lagrange.basisDivisor, eval_mul, eval_C, eval_sub, eval_X]
  exact mul_comm _ _

def symbolAt (shard : Bytes) (position : Nat) : Symbol := ⟨shard.getD position 0⟩

theorem eq_of_symbolAt {first second : Bytes} (lengths : first.length = second.length)
    (same : ∀ position, symbolAt first position = symbolAt second position) : first = second := by
  apply List.ext_getElem lengths
  intro position low high
  have bytes := congrArg Symbol.byte (same position)
  simpa [symbolAt, low, high] using bytes

theorem symbolAt_replicate_zero (size position : Nat) : symbolAt (List.replicate size 0) position = 0 := by
  by_cases inside : position < size
  · simp [symbolAt, inside]
    rfl
  · simp [symbolAt, inside]
    rfl

theorem length_addScaled {sum shard : Bytes} (lengths : shard.length = sum.length) (factor : Symbol) :
    (addScaled factor sum shard).length = sum.length := by
  simp [addScaled, lengths]

theorem symbolAt_addScaled {sum shard : Bytes} (lengths : shard.length = sum.length) (factor : Symbol)
    (position : Nat) :
    symbolAt (addScaled factor sum shard) position =
      symbolAt sum position + factor * symbolAt shard position := by
  by_cases inside : position < sum.length
  · have reached : position < shard.length := by omega
    simp [symbolAt, addScaled, inside, reached]
  · have missed : ¬ position < shard.length := by omega
    simp only [symbolAt, List.getD_eq_getElem?_getD, List.getElem?_eq_none (not_lt.mp inside),
      List.getElem?_eq_none (not_lt.mp missed),
      List.getElem?_eq_none (not_lt.mp (length_addScaled lengths factor ▸ inside))]
    exact (zero_add _).symm.trans (congrArg (0 + ·) (mul_zero factor).symm)

theorem length_foldl_addScaled {terms : List (Symbol × Bytes)} {sum : Bytes}
    (lengths : ∀ term ∈ terms, term.2.length = sum.length) :
    (terms.foldl (fun sum (factor, shard) => addScaled factor sum shard) sum).length = sum.length := by
  induction terms generalizing sum with
  | nil => rfl
  | cons term terms ih =>
    have first := length_addScaled (lengths term (by simp)) term.1
    rw [List.foldl_cons, ih, first]
    intro other member
    rw [first]
    exact lengths other (List.mem_cons_of_mem _ member)

theorem symbolAt_foldl_addScaled {terms : List (Symbol × Bytes)} {sum : Bytes}
    (lengths : ∀ term ∈ terms, term.2.length = sum.length) (position : Nat) :
    symbolAt (terms.foldl (fun sum (factor, shard) => addScaled factor sum shard) sum) position =
      symbolAt sum position + (terms.map fun term => term.1 * symbolAt term.2 position).sum := by
  induction terms generalizing sum with
  | nil => simp
  | cons term terms ih =>
    have first := length_addScaled (lengths term (by simp)) term.1
    have rest : ∀ other ∈ terms, other.2.length = (addScaled term.1 sum term.2).length := by
      intro other member
      rw [first]
      exact lengths other (List.mem_cons_of_mem _ member)
    rw [List.foldl_cons, ih rest, symbolAt_addScaled (lengths term (by simp)), List.map_cons, List.sum_cons,
      add_assoc]

section

variable {size : Nat} {nodes : List Nat} {shards : List Bytes}

theorem length_interpolate (lengths : ∀ shard ∈ shards, shard.length = size) (target : Nat) :
    (interpolate size nodes shards target).length = size := by
  rw [interpolate, combine, length_foldl_addScaled, List.length_replicate]
  intro term member
  rw [List.length_replicate]
  exact lengths term.2 (List.of_mem_zip member).2

theorem symbolAt_interpolate (lengths : ∀ shard ∈ shards, shard.length = size) (target position : Nat) :
    symbolAt (interpolate size nodes shards target) position =
      ((nodes.zip shards).map fun (node, shard) => basis nodes node target * symbolAt shard position).sum := by
  have zipped : ∀ term ∈ (coefficients nodes target).zip shards,
      term.2.length = (List.replicate size (0 : UInt8)).length := by
    intro term member
    rw [List.length_replicate]
    exact lengths term.2 (List.of_mem_zip member).2
  rw [interpolate, combine, symbolAt_foldl_addScaled zipped, symbolAt_replicate_zero, zero_add, coefficients,
    List.zip_map_left, List.map_map]
  rfl

/-- Where the shards at the nodes are values of a polynomial of small degree, so is the shard at any target. -/
theorem symbolAt_interpolate_of_eval (distinct : nodes.Nodup) (bound : ∀ node ∈ nodes, node < maxTotalShards)
    (lengths : ∀ shard ∈ shards, shard.length = size) (count : nodes.length = shards.length)
    (position : Nat) (values : Symbol[X]) (degree : values.degree < nodes.length)
    (agree : ∀ entry ∈ nodes.zip shards, symbolAt entry.2 position = values.eval (Symbol.ofIndex entry.1))
    (target : Nat) :
    symbolAt (interpolate size nodes shards target) position = values.eval (Symbol.ofIndex target) := by
  have injective : Set.InjOn Symbol.ofIndex (nodes.toFinset : Finset Nat) :=
    ofIndex_injOn fun node member => bound node (List.mem_toFinset.mp member)
  have card : nodes.toFinset.card = nodes.length := List.toFinset_card_of_nodup distinct
  have terms : (nodes.zip shards).map (fun (node, shard) => basis nodes node target * symbolAt shard position) =
      nodes.map fun node => basis nodes node target * values.eval (Symbol.ofIndex node) := by
    calc (nodes.zip shards).map (fun (node, shard) => basis nodes node target * symbolAt shard position)
        = (nodes.zip shards).map ((fun node => basis nodes node target * values.eval (Symbol.ofIndex node)) ∘
            Prod.fst) := by
          apply List.map_congr_left
          intro entry member
          simp only [Function.comp, agree entry member]
      _ = _ := by rw [← List.map_map, List.map_fst_zip (le_of_eq count)]
  have recovered : values = Lagrange.interpolate nodes.toFinset Symbol.ofIndex
      fun node => values.eval (Symbol.ofIndex node) :=
    Lagrange.eq_interpolate injective (by rwa [card])
  rw [symbolAt_interpolate lengths, terms, ← List.sum_toFinset _ distinct]
  conv_rhs => rw [recovered]
  rw [Lagrange.interpolate_apply, eval_finsetSum]
  apply Finset.sum_congr rfl
  intro node _
  rw [eval_mul, eval_C, basis_eq_eval distinct, mul_comm]

end

def codeword (size : Nat) (dataShards : List Bytes) (position : Nat) : Bytes :=
  interpolate size (List.range dataShards.length) dataShards position

noncomputable def symbolPolynomial (dataShards : List Bytes) (position : Nat) : Symbol[X] :=
  Lagrange.interpolate (Finset.range dataShards.length) Symbol.ofIndex fun index =>
    symbolAt (dataShards.getD index []) position

section

variable {size : Nat} {dataShards : List Bytes}

theorem range_injOn (few : dataShards.length ≤ maxTotalShards) :
    Set.InjOn Symbol.ofIndex (Finset.range dataShards.length) :=
  ofIndex_injOn fun _ member => lt_of_lt_of_le (Finset.mem_range.mp member) few

theorem symbolPolynomial_degree (few : dataShards.length ≤ maxTotalShards) (position : Nat) :
    (symbolPolynomial dataShards position).degree < dataShards.length := by
  have small := Lagrange.degree_interpolate_lt
    (fun index => symbolAt (dataShards.getD index []) position) (range_injOn few)
  rwa [Finset.card_range] at small

theorem symbolPolynomial_eval (few : dataShards.length ≤ maxTotalShards) (position : Nat) {index : Nat}
    (inside : index < dataShards.length) :
    (symbolPolynomial dataShards position).eval (Symbol.ofIndex index) = symbolAt dataShards[index] position := by
  rw [symbolPolynomial, Lagrange.eval_interpolate_at_node _ (range_injOn few) (Finset.mem_range.mpr inside)]
  simp [inside]

theorem length_codeword (lengths : ∀ shard ∈ dataShards, shard.length = size) (target : Nat) :
    (codeword size dataShards target).length = size :=
  length_interpolate lengths target

theorem symbolAt_codeword (few : dataShards.length ≤ maxTotalShards)
    (lengths : ∀ shard ∈ dataShards, shard.length = size) (target position : Nat) :
    symbolAt (codeword size dataShards target) position =
      (symbolPolynomial dataShards position).eval (Symbol.ofIndex target) := by
  apply symbolAt_interpolate_of_eval List.nodup_range _ lengths List.length_range
  · rw [List.length_range]
    exact symbolPolynomial_degree few position
  · intro entry member
    obtain ⟨index, inside, rfl⟩ := List.mem_iff_getElem.mp member
    have reached : index < dataShards.length := by simpa using inside
    rw [List.getElem_zip, List.getElem_range, symbolPolynomial_eval few position reached]
  · intro node member
    exact lt_of_lt_of_le (List.mem_range.mp member) few

theorem codeword_data (few : dataShards.length ≤ maxTotalShards)
    (lengths : ∀ shard ∈ dataShards, shard.length = size) {index : Nat} (inside : index < dataShards.length) :
    codeword size dataShards index = dataShards[index] := by
  apply eq_of_symbolAt
  · rw [length_codeword lengths, lengths _ (List.getElem_mem inside)]
  · intro position
    rw [symbolAt_codeword few lengths, symbolPolynomial_eval few position inside]

/-- Any shards of a codeword, as many as it has data shards, determine all of it. -/
theorem interpolate_codeword (few : dataShards.length ≤ maxTotalShards)
    (lengths : ∀ shard ∈ dataShards, shard.length = size) {nodes : List Nat} (distinct : nodes.Nodup)
    (bound : ∀ node ∈ nodes, node < maxTotalShards) (enough : nodes.length = dataShards.length) (target : Nat) :
    interpolate size nodes (nodes.map (codeword size dataShards)) target = codeword size dataShards target := by
  have equal : ∀ shard ∈ nodes.map (codeword size dataShards), shard.length = size := by
    intro shard member
    obtain ⟨node, _, rfl⟩ := List.mem_map.mp member
    exact length_codeword lengths node
  apply eq_of_symbolAt
  · rw [length_interpolate equal, length_codeword lengths]
  · intro position
    rw [symbolAt_codeword few lengths]
    apply symbolAt_interpolate_of_eval distinct bound equal (by simp)
    · rw [enough]
      exact symbolPolynomial_degree few position
    · intro entry member
      obtain ⟨index, inside, rfl⟩ := List.mem_iff_getElem.mp member
      rw [List.getElem_zip, List.getElem_map, symbolAt_codeword few lengths]

end

end Availability.Erasure
