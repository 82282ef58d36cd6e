import Availability.Proofs.Erasure.Recovery
import Availability.Proofs.Indexed

namespace Availability.Erasure

open Polynomial

section

variable {size : Nat} {sized : List Bytes}

theorem lengths_of_checkSizes (checked : checkSizes (some size) sized = .ok ()) :
    ∀ shard ∈ sized, shard.length = size := by
  induction sized generalizing size with
  | nil => simp
  | cons shard rest ih =>
    unfold checkSizes at checked
    split at checked
    · cases checked
    split at checked
    · cases checked
    · rename_i same
      have first : size = shard.length := by simpa using same
      exact List.forall_mem_cons.mpr ⟨first.symm, first ▸ ih checked⟩

theorem checkSizes_eq_ok_iff :
    checkSizes none sized = .ok () ↔ ∃ size, 0 < size ∧ ∀ shard ∈ sized, shard.length = size := by
  constructor
  · intro checked
    cases sized with
    | nil => exact ⟨1, Nat.one_pos, by simp⟩
    | cons shard rest =>
      unfold checkSizes at checked
      split at checked
      · cases checked
      · rename_i filled
        have positive : 0 < shard.length := by simpa [List.length_pos_iff] using filled
        exact ⟨shard.length, positive, List.forall_mem_cons.mpr ⟨rfl, lengths_of_checkSizes checked⟩⟩
  · rintro ⟨size, positive, lengths⟩
    exact checkSizes_of_equal positive (by simp) lengths

end

section

variable {size : Nat} {entries : List (Nat × Bytes)} (ascending : entries.Pairwise (·.1 < ·.1))
  (bound : ∀ entry ∈ entries, entry.1 < maxTotalShards) (lengths : ∀ entry ∈ entries, entry.2.length = size)

include ascending in
theorem nodup_positions : (entries.map (·.1)).Nodup := (List.pairwise_map.mpr ascending).imp Nat.ne_of_lt

include bound in
theorem positions_lt : ∀ node ∈ entries.map (·.1), node < maxTotalShards := by
  intro node member
  obtain ⟨entry, known, rfl⟩ := List.mem_map.mp member
  exact bound entry known

include ascending bound in
theorem length_le_maxTotalShards : entries.length ≤ maxTotalShards := by
  have inside : (entries.map (·.1)).toFinset ⊆ Finset.range maxTotalShards := by
    intro node member
    exact Finset.mem_range.mpr (positions_lt bound node (List.mem_toFinset.mp member))
  have card := Finset.card_le_card inside
  rwa [List.toFinset_card_of_nodup (nodup_positions ascending), Finset.card_range, List.length_map] at card

include ascending bound lengths

theorem exists_polynomial (position : Nat) : ∃ values : Symbol[X], values.degree < entries.length ∧
    (∀ entry ∈ entries, values.eval (Symbol.ofIndex entry.1) = symbolAt entry.2 position) ∧
      ∀ target, symbolAt (interpolate size (entries.map (·.1)) (entries.map (·.2)) target) position =
        values.eval (Symbol.ofIndex target) := by
  let shardAt (node : Nat) : Bytes := ((entries.find? (·.1 == node)).map (·.2)).getD []
  let nodes := (entries.map (·.1)).toFinset
  have injective : Set.InjOn Symbol.ofIndex nodes :=
    ofIndex_injOn fun node member => positions_lt bound node (List.mem_toFinset.mp member)
  have degree : (Lagrange.interpolate nodes Symbol.ofIndex fun node => symbolAt (shardAt node) position).degree <
      entries.length := by
    have small := Lagrange.degree_interpolate_lt (fun node => symbolAt (shardAt node) position) injective
    rwa [List.toFinset_card_of_nodup (nodup_positions ascending), List.length_map] at small
  have through : ∀ entry ∈ entries, (Lagrange.interpolate nodes Symbol.ofIndex fun node =>
      symbolAt (shardAt node) position).eval (Symbol.ofIndex entry.1) = symbolAt entry.2 position := by
    intro entry member
    have found : (entries.find? (·.1 == entry.1)).map (·.2) = some entry.2 :=
      (Indexed.find?_eq_some_iff ascending).mpr member
    rw [Lagrange.eval_interpolate_at_node _ injective (List.mem_toFinset.mpr (List.mem_map_of_mem member))]
    simp only [shardAt, found, Option.getD_some]
  refine ⟨_, degree, through, fun target => ?_⟩
  apply symbolAt_interpolate_of_eval (nodup_positions ascending) (positions_lt bound) _ (by simp)
  · rwa [List.length_map]
  · intro entry member
    rw [List.zip_map', List.mem_map] at member
    obtain ⟨other, known, rfl⟩ := member
    exact (through other known).symm
  · intro shard member
    obtain ⟨entry, known, rfl⟩ := List.mem_map.mp member
    exact lengths entry known

theorem exists_encodes : ∃ dataShards, dataShards.length = entries.length ∧ Encodes size dataShards entries := by
  let dataShards := (List.range entries.length).map (interpolate size (entries.map (·.1)) (entries.map (·.2)))
  have count : dataShards.length = entries.length := by simp [dataShards]
  have few : dataShards.length ≤ maxTotalShards := count ▸ length_le_maxTotalShards ascending bound
  have equal : ∀ shard ∈ dataShards, shard.length = size := by
    intro shard member
    obtain ⟨index, _, rfl⟩ := List.mem_map.mp member
    refine length_interpolate (fun other known => ?_) index
    obtain ⟨entry, held, rfl⟩ := List.mem_map.mp known
    exact lengths entry held
  refine ⟨dataShards, count, equal, fun entry member => ?_⟩
  apply eq_of_symbolAt
  · rw [lengths entry member, length_codeword equal]
  · intro position
    obtain ⟨values, degree, through, everywhere⟩ := exists_polynomial ascending bound lengths position
    have polynomial : values = symbolPolynomial dataShards position := by
      apply Lagrange.eq_interpolate_of_eval_eq _ (range_injOn few)
      · rwa [Finset.card_range, count]
      · intro index member
        have inside : index < entries.length := count ▸ Finset.mem_range.mp member
        rw [← everywhere index]
        simp [dataShards, inside]
    rw [symbolAt_codeword few equal, ← polynomial, through entry member]

end

/-- The data shards that the shards at some positions determine: without parity shards they are the data shards
themselves, and otherwise the first of them decide. -/
inductive Determines (shardCount dataShardCount : Nat) (entries : List (Nat × Bytes)) : List Bytes → Prop where
  | plain (irredundant : dataShardCount = shardCount) : Determines shardCount dataShardCount entries (entries.map (·.2))
  | coded {size : Nat} {dataShards : List Bytes} (redundant : dataShardCount < shardCount)
      (few : shardCount ≤ maxTotalShards) (positive : 0 < size) (equal : ∀ entry ∈ entries, entry.2.length = size)
      (count : dataShards.length = dataShardCount) (encoded : Encodes size dataShards (entries.take dataShardCount)) :
      Determines shardCount dataShardCount entries dataShards

theorem present_shards (shards : List (Option Bytes)) : (present shards).map (·.2) = shards.filterMap id := by
  have whole : shards.zipIdx.map (·.1) = shards := List.zipIdx_map_fst 0 shards
  conv_rhs => rw [← whole]
  rw [present, List.filterMap_map, List.map_filterMap]
  exact List.filterMap_congr fun entry _ => by
    obtain ⟨shard, index⟩ := entry
    cases shard <;> rfl

section

variable {shards : List (Option Bytes)} {dataShardCount : Nat} (some_data : 0 < dataShardCount)
  (enough : dataShardCount ≤ (present shards).length)
include some_data enough

theorem reconstruct_determined (redundant : dataShardCount < shards.length) {dataShards : List Bytes}
    (determined : Determines shards.length dataShardCount (present shards) dataShards) :
    reconstruct shards dataShardCount = .ok (dataShards.map some) := by
  cases determined with
  | plain irredundant => exact absurd irredundant redundant.ne
  | coded _ few positive equal count encoded =>
    subst count
    exact reconstruct_encoded positive some_data redundant.le few equal encoded enough

/-- Shards of one length never fail to be restored: those that count are on a codeword, whatever they hold. -/
theorem reconstruct_of_equal (redundant : dataShardCount < shards.length) (few : shards.length ≤ maxTotalShards)
    {size : Nat} (positive : 0 < size) (equal : ∀ entry ∈ present shards, entry.2.length = size) :
    ∃ dataShards, dataShards.length = dataShardCount ∧
      Encodes size dataShards ((present shards).take dataShardCount) ∧
      reconstruct shards dataShardCount = .ok (dataShards.map some) := by
  have bound : ∀ entry ∈ (present shards).take dataShardCount, entry.1 < maxTotalShards := fun entry member => by
    have position := (present_positions_sublist shards).subset (List.mem_map_of_mem (List.mem_of_mem_take member))
    exact lt_of_lt_of_le (List.mem_range.mp position) few
  obtain ⟨dataShards, count, encoded⟩ := exists_encodes
    ((present_ascending shards).sublist (List.take_sublist dataShardCount _)) bound
    fun entry member => equal entry (List.mem_of_mem_take member)
  rw [List.length_take_of_le enough] at count
  exact ⟨dataShards, count, encoded,
    reconstruct_determined some_data enough redundant (.coded redundant few positive equal count encoded)⟩

theorem reconstruct_eq_ok_iff (redundant : dataShardCount < shards.length) {restored : List (Option Bytes)} :
    reconstruct shards dataShardCount = .ok restored ↔
      ∃ dataShards, Determines shards.length dataShardCount (present shards) dataShards ∧
        restored = dataShards.map some := by
  constructor
  · intro reconstructed
    have few : shards.length ≤ maxTotalShards := by
      by_contra many
      rw [reconstruct, if_pos (not_le.mp many)] at reconstructed
      cases reconstructed
    have checked : checkSizes none ((present shards).map (·.2)) = .ok () := by
      unfold reconstruct at reconstructed
      rw [if_neg (not_lt.mpr few)] at reconstructed
      simp only at reconstructed
      split at reconstructed
      · cases reconstructed
      · assumption
    obtain ⟨size, positive, lengths⟩ := checkSizes_eq_ok_iff.mp checked
    have equal : ∀ entry ∈ present shards, entry.2.length = size := fun entry member =>
      lengths entry.2 (List.mem_map_of_mem member)
    obtain ⟨dataShards, count, encoded, whole⟩ :=
      reconstruct_of_equal some_data enough redundant few positive equal
    rw [whole] at reconstructed
    exact ⟨dataShards, .coded redundant few positive equal count encoded, (Except.ok.inj reconstructed).symm⟩
  · rintro ⟨dataShards, determined, rfl⟩
    exact reconstruct_determined some_data enough redundant determined

theorem restored_eq_ok_iff {held : List Bytes} :
    (if dataShardCount < shards.length then reconstruct shards dataShardCount else .ok shards).map
        (·.filterMap id) = .ok held ↔ Determines shards.length dataShardCount (present shards) held := by
  have whole (dataShards : List Bytes) : (dataShards.map some).filterMap id = dataShards := by
    simp [List.filterMap_map]
  by_cases redundant : dataShardCount < shards.length
  · rw [if_pos redundant]
    constructor
    · intro restored
      cases reconstructed : reconstruct shards dataShardCount with
      | error err =>
        rw [reconstructed] at restored
        cases restored
      | ok filled =>
        obtain ⟨dataShards, determined, rfl⟩ :=
          (reconstruct_eq_ok_iff some_data enough redundant).mp reconstructed
        rw [reconstructed] at restored
        have same : dataShards = held := (whole dataShards).symm.trans (Except.ok.inj restored)
        exact same ▸ determined
    · intro determined
      rw [reconstruct_determined some_data enough redundant determined]
      exact congrArg Except.ok (whole held)
  · have irredundant : dataShardCount = shards.length :=
      le_antisymm (enough.trans (length_present_le shards)) (not_lt.mp redundant)
    rw [if_neg redundant]
    constructor
    · intro restored
      have same : shards.filterMap id = held := Except.ok.inj restored
      rw [← same, ← present_shards]
      exact .plain irredundant
    · intro determined
      cases determined with
      | plain _ => exact congrArg Except.ok (present_shards shards).symm
      | coded more => exact absurd more redundant

theorem decode_eq_ok_iff {blobSize : Nat} {blob : Bytes} :
    decode shards dataShardCount blobSize = .ok blob ↔
      ∃ dataShards, Determines shards.length dataShardCount (present shards) dataShards ∧
        blobSize ≤ dataShards.flatten.length ∧ blob = dataShards.flatten.take blobSize := by
  rw [decode_of_enough blobSize some_data enough]
  cases restored : (if dataShardCount < shards.length then reconstruct shards dataShardCount else .ok shards).map
      (·.filterMap id) with
  | error err =>
    constructor
    · intro decoded
      cases decoded
    · rintro ⟨dataShards, determined, -⟩
      rw [← restored_eq_ok_iff some_data enough, restored] at determined
      cases determined
  | ok held =>
    simp only [Except.bind]
    constructor
    · intro decoded
      split at decoded
      · cases decoded
      · rename_i fits
        cases decoded
        exact ⟨held, (restored_eq_ok_iff some_data enough).mp restored, not_lt.mp fits, rfl⟩
    · rintro ⟨dataShards, determined, fits, rfl⟩
      have same := restored.symm.trans ((restored_eq_ok_iff some_data enough).mpr determined)
      cases same
      rw [if_neg (not_lt.mpr fits)]

end

end Availability.Erasure
