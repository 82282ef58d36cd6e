import Mathlib.Data.List.Permutation
import Mathlib.Data.Set.Card
import Availability.Proofs.Shuffle

namespace Availability.Shuffle

open Nat (factorial)

/-- One draw for each position from `last` down to 1, none beyond its position. -/
inductive Drawn : (last : Nat) → (draws : List Nat) → Prop where
  | rest : Drawn 0 []
  | swap {last draw : Nat} {draws : List Nat} (within : draw ≤ last + 1) (later : Drawn last draws) :
      Drawn (last + 1) (draw :: draws)

theorem drawn_drawsFrom (last : Nat) (source : Random.Source) : Drawn last (drawsFrom last source) := by
  induction last generalizing source with
  | zero => exact .rest
  | succ last ih =>
    have within := Random.Source.draw_le (last + 1) source
    unfold drawsFrom
    rcases drawn : source.draw (last + 1) with ⟨draw, rest⟩
    rw [drawn] at within
    exact .swap within (ih rest)

theorem drawn_draws (entropy : Digest) (length : Nat) : Drawn (length - 1) (draws entropy length) :=
  drawn_drawsFrom _ _

def arranged {α : Type} (elements : List α) (draws : List Nat) : List α :=
  (arrange (elements.length - 1) draws elements.toArray).toList

theorem shuffle_eq_arranged {α : Type} (entropy : Digest) (elements : List α) :
    shuffle entropy elements = arranged elements (draws entropy elements.length) := rfl

theorem arranged_perm {α : Type} (elements : List α) (draws : List Nat) : (arranged elements draws).Perm elements :=
  (arrange_perm _ _ elements.toArray).toList

section

variable {α : Type} {last draw : Nat} {draws : List Nat} {elements order : Array α}

theorem arrange_cons (inside : last + 1 < elements.size) (within : draw ≤ last + 1) :
    arrange (last + 1) (draw :: draws) elements =
      arrange last draws (elements.swap (last + 1) draw inside (within.trans_lt inside)) := by
  have there : draw < elements.size := within.trans_lt inside
  have swapped : elements.swapIfInBounds (last + 1) draw = elements.swap (last + 1) draw inside there := by
    simp [Array.swapIfInBounds, inside, there]
  rw [arrange, swapped]

theorem getElem?_arrange_of_lt (drawn : Drawn last draws) (inside : last ≤ elements.size - 1) {position : Nat}
    (behind : last < position) : (arrange last draws elements)[position]? = elements[position]? := by
  induction drawn generalizing elements with
  | rest => rfl
  | @swap last draw draws within later ih =>
    have here : last + 1 < elements.size := by omega
    rw [arrange_cons here within, ih (by rw [Array.size_swap]; omega) (by omega), Array.getElem?_swap,
      if_neg (by omega), if_neg (by omega)]

theorem getElem?_arrange_last (within : draw ≤ last + 1) (later : Drawn last draws)
    (inside : last + 1 < elements.size) :
    (arrange (last + 1) (draw :: draws) elements)[last + 1]? = elements[draw]? := by
  have there : draw < elements.size := within.trans_lt inside
  rw [arrange_cons inside within,
    getElem?_arrange_of_lt later (by rw [Array.size_swap]; omega) (Nat.lt_succ_self last), Array.getElem?_swap]
  split
  · rename_i same
    rw [same, Array.getElem?_eq_getElem inside]
  · rw [if_pos rfl, Array.getElem?_eq_getElem there]

theorem nodup_swap (distinct : elements.toList.Nodup) {first second : Nat} (here : first < elements.size)
    (there : second < elements.size) : (elements.swap first second here there).toList.Nodup :=
  (Array.swap_perm here there).toList.nodup_iff.mpr distinct

theorem position_unique (distinct : elements.toList.Nodup) {first second : Nat} (inside : first < elements.size)
    (same : elements[first]? = elements[second]?) : first = second := by
  rw [← Array.getElem?_toList, ← Array.getElem?_toList] at same
  exact (List.getElem?_inj (by simpa using inside) distinct).mp same

theorem draws_unique (distinct : elements.toList.Nodup) (inside : last ≤ elements.size - 1) {first second : List Nat}
    (one : Drawn last first) (other : Drawn last second)
    (same : arrange last first elements = arrange last second elements) : first = second := by
  -- The order tells the draws from the last position down, each of them by the element that ends up there.
  induction one generalizing elements second with
  | rest =>
    cases other
    rfl
  | @swap last draw draws within later ih =>
    cases other with
    | @swap _ draw' draws' within' later' =>
      have here : last + 1 < elements.size := by omega
      have named : elements[draw]? = elements[draw']? := by
        rw [← getElem?_arrange_last within later here, same, getElem?_arrange_last within' later' here]
      obtain rfl := position_unique distinct (within.trans_lt here) named
      rw [arrange_cons here within, arrange_cons here within] at same
      exact congrArg (draw :: ·) (ih (nodup_swap distinct here _) (by rw [Array.size_swap]; omega) later' same)

/-- Two orders of the same elements that agree behind the first position agree there too. -/
theorem eq_of_perm_of_tail (perm : order.Perm elements)
    (agree : ∀ position, 0 < position → order[position]? = elements[position]?) : order = elements := by
  obtain ⟨ordered⟩ := order
  obtain ⟨listed⟩ := elements
  have perm : ordered.Perm listed := perm.toList
  have tails : ordered.tail = listed.tail := by
    apply List.ext_getElem?
    intro position
    simpa [List.getElem?_tail] using agree (position + 1) position.succ_pos
  congr
  cases ordered with
  | nil => exact (List.nil_perm.mp perm).symm
  | cons first rest =>
    cases listed with
    | nil => exact List.perm_nil.mp perm
    | cons other others =>
      obtain rfl : rest = others := tails
      have firsts := (List.perm_append_right_iff rest).mp (show ([first] ++ rest).Perm ([other] ++ rest) from perm)
      rw [List.singleton_perm_singleton.mp firsts]

theorem exists_draws (distinct : elements.toList.Nodup) (inside : last ≤ elements.size - 1) (perm : order.Perm elements)
    (agree : ∀ position, last < position → order[position]? = elements[position]?) :
    ∃ draws, Drawn last draws ∧ arrange last draws elements = order := by
  induction last generalizing elements with
  | zero => exact ⟨[], .rest, (eq_of_perm_of_tail perm agree).symm⟩
  | succ last ih =>
    have here : last + 1 < elements.size := by omega
    have size : order.size = elements.size := by simpa using perm.toList.length_eq
    have member : order[last + 1] ∈ elements := perm.mem_iff.mp (Array.getElem_mem (by omega))
    obtain ⟨draw, there, found⟩ := Array.mem_iff_getElem.mp member
    have within : draw ≤ last + 1 := by
      -- Behind the last position the order has its elements in place, so its last element is not one of them.
      by_contra beyond
      have ordered : order.toList.Nodup := perm.toList.nodup_iff.mpr distinct
      have twice : order[draw]? = order[last + 1]? := by
        rw [agree draw (not_le.mp beyond), Array.getElem?_eq_getElem there, found, Array.getElem?_eq_getElem (by omega)]
      exact beyond (position_unique ordered (by omega) twice).le
    -- With its last element swapped there, the order is one of what is left.
    obtain ⟨draws, later, arranges⟩ := ih (nodup_swap distinct here there) (by rw [Array.size_swap]; omega)
      (perm.trans (Array.swap_perm here there).symm) fun position behind => by
        rw [Array.getElem?_swap]
        split
        · rename_i same
          subst same
          obtain rfl : draw = last + 1 := by omega
          rw [Array.getElem?_eq_getElem (by omega), found]
        split
        · rename_i same
          subst same
          rw [Array.getElem?_eq_getElem (by omega), found]
        · exact agree position (by omega)
    exact ⟨draw :: draws, .swap within later, by rw [arrange_cons here within, arranges]⟩

end

section

variable {α : Type} {elements : List α} (distinct : elements.Nodup)
include distinct

theorem bijOn_arranged :
    Set.BijOn (arranged elements) {draws | Drawn (elements.length - 1) draws} {order | order.Perm elements} := by
  have listed : elements.toArray.toList.Nodup := distinct
  refine ⟨fun draws _ => arranged_perm elements draws, fun first one second other same => ?_, fun order perm => ?_⟩
  · exact draws_unique listed le_rfl one other (Array.toList_inj.mp same)
  · have size : order.length = elements.length := perm.length_eq
    have rearranged : order.toArray.Perm elements.toArray := Array.perm_iff_toList_perm.mpr perm
    obtain ⟨draws, drawn, arranges⟩ := exists_draws listed le_rfl rearranged fun position behind => by
        have past : elements.length ≤ position := Nat.le_of_pred_lt behind
        rw [Array.getElem?_eq_none (size.trans_le past), Array.getElem?_eq_none past]
    exact ⟨draws, drawn, congrArg Array.toList arranges⟩

theorem ncard_orders : {order : List α | order.Perm elements}.ncard = factorial elements.length := by
  classical
  have listed : {order : List α | order.Perm elements} = elements.permutations.toFinset := by
    ext order
    simp
  rw [listed, Set.ncard_coe_finset, List.toFinset_card_of_nodup (List.nodup_permutations elements distinct),
    List.length_permutations]

end

/-- Every order of different elements comes from exactly one sequence of draws, and there are as many of either as the
factorial of their number. So a shuffle whose draws are uniform prefers no order. -/
theorem shuffle_unbiased {α : Type} {elements : List α} (distinct : elements.Nodup) :
    Set.BijOn (arranged elements) {draws | Drawn (elements.length - 1) draws} {order | order.Perm elements} ∧
      {draws | Drawn (elements.length - 1) draws}.ncard = factorial elements.length ∧
      {order : List α | order.Perm elements}.ncard = factorial elements.length ∧
      ∀ entropy, Drawn (elements.length - 1) (draws entropy elements.length) ∧
        shuffle entropy elements = arranged elements (draws entropy elements.length) := by
  have bijective := bijOn_arranged distinct
  have orders := ncard_orders distinct
  refine ⟨bijective, ?_, orders, fun entropy => ⟨drawn_draws entropy _, shuffle_eq_arranged entropy elements⟩⟩
  rw [← orders, ← bijective.image_eq, bijective.injOn.ncard_image]

theorem shuffle_unbiased_three : ([1, 2, 3] : List Nat).Nodup ∧ {draws | Drawn 2 draws}.ncard = 6 ∧
    ∃! draws, Drawn 2 draws ∧ arranged [1, 2, 3] draws = [2, 3, 1] := by
  have distinct : ([1, 2, 3] : List Nat).Nodup := by decide
  obtain ⟨bijective, count, -, -⟩ := shuffle_unbiased distinct
  have order : [2, 3, 1].Perm [1, 2, 3] := by decide
  obtain ⟨draws, drawn, arranges⟩ := bijective.surjOn order
  refine ⟨distinct, count, draws, ⟨drawn, arranges⟩, ?_⟩
  rintro other ⟨drawnToo, arrangesToo⟩
  exact bijective.injOn drawnToo drawn (arrangesToo.trans arranges.symm)

end Availability.Shuffle

namespace Availability

theorem length_sampleIndices (validator : String) (threshold shardCount : Nat) :
    (sampleIndices validator threshold shardCount).length = min threshold shardCount := by
  have length := (Shuffle.permutation_perm (hash (Bytes.ofText validator)) shardCount).length_eq
  rw [List.length_range] at length
  rw [sampleIndices, List.length_take, length, Nat.min_assoc, Nat.min_self]

theorem sampleIndices_prefix_permutation (validator : String) (threshold shardCount : Nat) :
    sampleIndices validator threshold shardCount <+: Shuffle.permutation (hash (Bytes.ofText validator)) shardCount :=
  List.take_prefix _ _

theorem sampleIndices_prefix {fewer more : Nat} (most : fewer ≤ more) (validator : String) (shardCount : Nat) :
    sampleIndices validator fewer shardCount <+: sampleIndices validator more shardCount :=
  List.take_prefix_take_left (min_le_min_right shardCount most)

/-- A validator is assigned the start of one permutation of the shards, which its name and their number determine: the
swaps of one draw for each shard but the first, none of which reaches beyond the shards, and any such draws would give
a permutation. -/
theorem sampleIndices_assigned (validator : String) (shardCount : Nat) :
    let entropy := hash (Bytes.ofText validator)
    (Shuffle.Drawn (shardCount - 1) (Shuffle.draws entropy shardCount) ∧
      Shuffle.permutation entropy shardCount =
        Shuffle.arranged (List.range shardCount) (Shuffle.draws entropy shardCount) ∧
      ∀ draws, (Shuffle.arranged (List.range shardCount) draws).Perm (List.range shardCount)) ∧
    (∀ threshold, (sampleIndices validator threshold shardCount).length = min threshold shardCount ∧
      (sampleIndices validator threshold shardCount).Nodup ∧
      (∀ index ∈ sampleIndices validator threshold shardCount, index < shardCount) ∧
      sampleIndices validator threshold shardCount <+: Shuffle.permutation entropy shardCount) ∧
    (∀ fewer more, fewer ≤ more →
      sampleIndices validator fewer shardCount <+: sampleIndices validator more shardCount) ∧
    ∀ threshold, shardCount ≤ threshold →
      (sampleIndices validator threshold shardCount).Perm (List.range shardCount) := by
  intro entropy
  refine ⟨⟨Shuffle.drawn_draws entropy shardCount, ?_, Shuffle.arranged_perm _⟩, fun threshold => ⟨?_, ?_, ?_, ?_⟩,
    fun fewer more most => sampleIndices_prefix most validator shardCount,
    fun threshold all => sampleIndices_perm all validator⟩
  · rw [Shuffle.permutation, Shuffle.shuffle_eq_arranged, List.length_range]
  · exact length_sampleIndices validator threshold shardCount
  · exact sampleIndices_nodup validator threshold shardCount
  · exact fun index => lt_of_mem_sampleIndices
  · exact sampleIndices_prefix_permutation validator threshold shardCount

end Availability
