import Availability.Shuffle

namespace Availability

namespace Shuffle

theorem arrange_perm {α : Type} (last : Nat) (draws : List Nat) (elements : Array α) :
    (arrange last draws elements).Perm elements := by
  induction last generalizing draws elements with
  | zero => exact .refl _
  | succ last ih =>
    cases draws with
    | nil => exact .refl _
    | cons draw draws =>
      have swapped : (elements.swapIfInBounds (last + 1) draw).Perm elements := by
        unfold Array.swapIfInBounds
        split
        · split
          · exact Array.swap_perm _ _
          · exact .refl _
        · exact .refl _
      exact (ih draws _).trans swapped

theorem shuffle_perm {α : Type} (entropy : Digest) (elements : List α) :
    (shuffle entropy elements).Perm elements :=
  (arrange_perm _ _ elements.toArray).toList

theorem permutation_perm (entropy : Digest) (length : Nat) :
    (permutation entropy length).Perm (List.range length) := shuffle_perm entropy (List.range length)

end Shuffle

theorem sampleIndices_nodup (validator : String) (threshold shardCount : Nat) :
    (sampleIndices validator threshold shardCount).Nodup := by
  have distinct := (Shuffle.permutation_perm (hash (Bytes.ofText validator)) shardCount).nodup_iff.mpr List.nodup_range
  exact distinct.sublist (List.take_sublist _ _)

theorem lt_of_mem_sampleIndices {validator : String} {threshold shardCount index : Nat}
    (member : index ∈ sampleIndices validator threshold shardCount) : index < shardCount := by
  have permuted := (Shuffle.permutation_perm (hash (Bytes.ofText validator)) shardCount).mem_iff.mp
    (List.mem_of_mem_take member)
  exact List.mem_range.mp permuted

theorem sampleIndices_perm {threshold shardCount : Nat} (all : shardCount ≤ threshold) (validator : String) :
    (sampleIndices validator threshold shardCount).Perm (List.range shardCount) := by
  have permuted := Shuffle.permutation_perm (hash (Bytes.ofText validator)) shardCount
  have length : (Shuffle.permutation (hash (Bytes.ofText validator)) shardCount).length = shardCount :=
    permuted.length_eq.trans List.length_range
  rwa [sampleIndices, Nat.min_eq_right all, List.take_of_length_le (Nat.le_of_eq length)]

theorem mem_sampleIndices_of_le {validator : String} {threshold shardCount index : Nat} (all : shardCount ≤ threshold)
    (inside : index < shardCount) : index ∈ sampleIndices validator threshold shardCount :=
  (sampleIndices_perm all validator).mem_iff.mpr (List.mem_range.mpr inside)

end Availability
