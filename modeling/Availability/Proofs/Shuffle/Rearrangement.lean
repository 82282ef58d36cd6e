import Mathlib.Data.Fintype.EquivFin
import Availability.Proofs.Shuffle

namespace Availability.Shuffle

section

variable {α β : Type} (f : α → β)

theorem swapIfInBounds_map (elements : Array α) (first second : Nat) :
    (elements.map f).swapIfInBounds first second = (elements.swapIfInBounds first second).map f := by
  simp only [Array.swapIfInBounds_def, Array.size_map]
  split
  · split
    · simp only [Array.swap_def, Array.getElem_map, Array.map_set]
    · rfl
  · rfl

/-- Swaps move whatever stands at a position, so the same draws bring other elements into the same order. -/
theorem arrange_map (last : Nat) (draws : List Nat) (elements : Array α) :
    arrange last draws (elements.map f) = (arrange last draws elements).map f := by
  induction last generalizing draws elements with
  | zero => rfl
  | succ last ih =>
    cases draws with
    | nil => rfl
    | cons draw draws => rw [arrange, swapIfInBounds_map, ih, arrange]

theorem shuffle_map (entropy : Digest) (elements : List α) :
    shuffle entropy (elements.map f) = (shuffle entropy elements).map f := by
  unfold shuffle
  rw [List.length_map, ← List.map_toArray, arrange_map, Array.toList_map]

end

theorem map_getElem?_range {α : Type} (elements : List α) :
    (List.range elements.length).map (elements[·]?) = elements.map some := by
  apply List.ext_getElem (by simp)
  intro place _ inside
  simp [List.getElem?_eq_getElem (show place < elements.length by simpa using inside)]

theorem getElem?_shuffle {α : Type} (entropy : Digest) (elements : List α) (place : Nat) :
    (shuffle entropy elements)[place]? = (permutation entropy elements.length)[place]?.bind (elements[·]?) := by
  -- A list is its positions with each replaced by the element there, and both are shuffled alike.
  have moved : (shuffle entropy elements).map some = (permutation entropy elements.length).map (elements[·]?) := by
    rw [← shuffle_map, ← map_getElem?_range, shuffle_map, permutation]
  have there := congrArg (·[place]?) moved
  simp only [List.getElem?_map] at there
  cases named : (permutation entropy elements.length)[place]? with
  | none =>
    rw [named, Option.map_none, Option.map_eq_none_iff] at there
    exact there
  | some source =>
    rw [named, Option.map_some, Option.map_eq_some_iff] at there
    obtain ⟨element, found, same⟩ := there
    rw [found]
    exact same

section

variable (entropy : Digest) (length : Nat)

theorem length_permutation : (permutation entropy length).length = length :=
  (permutation_perm entropy length).length_eq.trans List.length_range

def origin (place : Fin length) : Fin length :=
  have inside : place < (permutation entropy length).length := by rw [length_permutation]; exact place.isLt
  ⟨(permutation entropy length)[place],
    List.mem_range.mp ((permutation_perm entropy length).mem_iff.mp (List.getElem_mem inside))⟩

theorem permutation_eq_ofFn :
    permutation entropy length = List.ofFn fun place => (origin entropy length place).val := by
  apply List.ext_getElem (by rw [length_permutation, List.length_ofFn])
  intro place _ _
  rw [List.getElem_ofFn]
  rfl

theorem origin_bijective : Function.Bijective (origin entropy length) := by
  have distinct : (permutation entropy length).Nodup :=
    (permutation_perm entropy length).nodup_iff.mpr List.nodup_range
  rw [permutation_eq_ofFn, List.nodup_ofFn] at distinct
  exact Finite.injective_iff_bijective.mp fun first second same => distinct (congrArg Fin.val same)

end

theorem shuffle_eq_ofFn {α : Type} (entropy : Digest) (elements : List α) :
    shuffle entropy elements = List.ofFn fun place => elements.get (origin entropy elements.length place) := by
  apply List.ext_getElem?
  intro place
  rw [getElem?_shuffle, permutation_eq_ofFn, List.getElem?_ofFn, List.getElem?_ofFn]
  split
  · rw [Option.bind_some, List.getElem?_eq_getElem (origin entropy elements.length _).isLt]
    rfl
  · rfl

/-- The entropy rearranges all lists of a length alike, whatever their elements are: each position of the shuffled list
holds the element from the position that the permutation names there, and each position is named once. -/
theorem shuffle_rearranges (entropy : Digest) :
    ∃ origin : (length : Nat) → Equiv.Perm (Fin length),
      (∀ length, permutation entropy length = List.ofFn fun place => (origin length place).val) ∧
      ∀ {α : Type} (elements : List α),
        (shuffle entropy elements = List.ofFn fun place => elements.get (origin elements.length place)) ∧
        (∀ place : Nat, (shuffle entropy elements)[place]? =
          (permutation entropy elements.length)[place]?.bind (elements[·]?)) ∧
        (shuffle entropy elements).Perm elements ∧
        ∀ {β : Type} (f : α → β), shuffle entropy (elements.map f) = (shuffle entropy elements).map f :=
  ⟨fun length => .ofBijective (origin entropy length) (origin_bijective entropy length), permutation_eq_ofFn entropy,
    fun elements => ⟨shuffle_eq_ofFn entropy elements, getElem?_shuffle entropy elements, shuffle_perm entropy elements,
      fun f => shuffle_map f entropy elements⟩⟩

end Availability.Shuffle
