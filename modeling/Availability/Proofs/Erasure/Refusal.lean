import Availability.Proofs.Erasure.Determined

namespace Availability.Erasure

def Misfit (entries : List (Nat × Bytes)) (entry : Nat × Bytes) : Prop :=
  entry.2 = [] ∨ ∃ other ∈ entries, other.1 < entry.1 ∧ other.2.length ≠ entry.2.length

instance (entries : List (Nat × Bytes)) : DecidablePred (Misfit entries) :=
  fun entry => inferInstanceAs (Decidable (entry.2 = [] ∨ _))

def misfit? (shards : List (Option Bytes)) : Option Bytes :=
  ((present shards).find? fun entry => Misfit (present shards) entry).map (·.2)

/-- The bytes of the data shards, the missing ones as long as the first shard that is there. -/
def capacity (shards : List (Option Bytes)) (dataShardCount : Nat) : Nat :=
  let size := ((present shards).head?.map (·.2.length)).getD 0
  ((shards.take dataShardCount).map fun shard => (shard.map List.length).getD size).sum

/-- The first fault of what is to be decoded. Only where there are parity shards does it matter how many shards there
are and how long they are. -/
def fault? (shards : List (Option Bytes)) (dataShardCount blobSize : Nat) : Option Error :=
  if dataShardCount = 0 then some .noDataShards
  else if (present shards).length < dataShardCount then
    some (.insufficientShards (present shards).length dataShardCount)
  else if dataShardCount < shards.length ∧ maxTotalShards < shards.length then some .tooManyShards
  else match if dataShardCount < shards.length then misfit? shards else none with
    | some shard => some (if shard = [] then .emptyShard else .incorrectShardSize)
    | none =>
      if capacity shards dataShardCount < blobSize then
        some (.blobSizeTooLarge blobSize (capacity shards dataShardCount))
      else none

theorem not_misfit_of_equal {before after : List (Nat × Bytes)} {entry : Nat × Bytes}
    (ascending : (before ++ entry :: after).Pairwise (·.1 < ·.1)) (filled : entry.2 ≠ [])
    (equal : ∀ other ∈ before, other.2.length = entry.2.length) : ¬ Misfit (before ++ entry :: after) entry := by
  obtain ⟨-, above, -⟩ := List.pairwise_append.mp ascending
  rintro (empty | ⟨other, member, lower, differs⟩)
  · exact filled empty
  · rcases List.mem_append.mp member with first | last
    · exact differs (equal other first)
    · rcases List.mem_cons.mp last with rfl | last
      · exact lt_irrefl _ lower
      · exact absurd lower (List.rel_of_pairwise_cons above last).not_gt

theorem checkSizes_eq {before after : List (Nat × Bytes)} (ascending : (before ++ after).Pairwise (·.1 < ·.1))
    {previous : Option Nat} (equal : ∀ entry ∈ before, previous = some entry.2.length)
    (known : ∀ length ∈ previous, ∃ entry ∈ before, entry.2.length = length) :
    checkSizes previous (after.map (·.2)) =
      match after.find? fun entry => Misfit (before ++ after) entry with
      | none => .ok ()
      | some entry => .error (if entry.2 = [] then .emptyShard else .incorrectShardSize) := by
  -- Up to the first misfit all shards are of one length, so it is enough to know that of the shard before.
  induction after generalizing before previous with
  | nil => rfl
  | cons entry after ih =>
    obtain ⟨-, -, earlier⟩ := List.pairwise_append.mp ascending
    rw [List.map_cons, checkSizes]
    by_cases empty : entry.2 = []
    · have misfit : Misfit (before ++ entry :: after) entry := .inl empty
      rw [if_pos (List.isEmpty_iff.mpr empty), List.find?_cons_of_pos (by simpa using misfit)]
      simp [empty]
    rw [if_neg (by simpa using empty)]
    by_cases same : ∀ length ∈ previous, length = entry.2.length
    · have fits := not_misfit_of_equal ascending empty fun other first => same _ (equal other first)
      have passed : ¬ previous.any (· ≠ entry.2.length) = true := by
        rw [Option.any_eq_true]
        rintro ⟨length, found, differs⟩
        exact absurd (same length found) (by simpa using differs)
      have shifted : before ++ entry :: after = (before ++ [entry]) ++ after := by simp
      rw [if_neg passed, List.find?_cons_of_neg (by simpa using fits), shifted]
      apply ih (shifted ▸ ascending)
      · intro other member
        rcases List.mem_append.mp member with first | last
        · rw [← same _ (equal other first)]
        · rw [List.mem_singleton.mp last]
      · intro length found
        cases found
        exact ⟨entry, by simp, rfl⟩
    · obtain ⟨length, found, differs⟩ : ∃ length ∈ previous, length ≠ entry.2.length := by simpa using same
      obtain ⟨other, member, rfl⟩ := known length found
      have misfit : Misfit (before ++ entry :: after) entry :=
        .inr ⟨other, List.mem_append_left _ member, earlier other member entry List.mem_cons_self, differs⟩
      have stopped : previous.any (· ≠ entry.2.length) = true :=
        (Option.any_eq_true _ _).mpr ⟨_, found, by simpa using differs⟩
      rw [if_pos stopped, List.find?_cons_of_pos (by simpa using misfit)]
      simp [empty]

section

variable {shards : List (Option Bytes)} {dataShardCount : Nat}

theorem checkSizes_present (shards : List (Option Bytes)) :
    checkSizes none ((present shards).map (·.2)) =
      match misfit? shards with
      | none => .ok ()
      | some shard => .error (if shard = [] then .emptyShard else .incorrectShardSize) := by
  have ascending : (([] : List (Nat × Bytes)) ++ present shards).Pairwise (·.1 < ·.1) := present_ascending shards
  rw [checkSizes_eq ascending (by simp) (by simp), misfit?, List.nil_append]
  cases (present shards).find? fun entry => Misfit (present shards) entry <;> rfl

theorem reconstruct_of_misfit (few : shards.length ≤ maxTotalShards) {shard : Bytes}
    (found : misfit? shards = some shard) :
    reconstruct shards dataShardCount = .error (if shard = [] then .emptyShard else .incorrectShardSize) := by
  unfold reconstruct
  simp only [if_neg (not_lt.mpr few), checkSizes_present, found]

theorem equal_of_fits (fits : misfit? shards = none) :
    ∃ size, 0 < size ∧ ∀ entry ∈ present shards, entry.2.length = size := by
  have checked := checkSizes_present shards
  rw [fits] at checked
  obtain ⟨size, positive, lengths⟩ := checkSizes_eq_ok_iff.mp checked
  exact ⟨size, positive, fun entry member => lengths entry.2 (List.mem_map_of_mem member)⟩

theorem take_codeword {size total : Nat} {dataShards : List Bytes} (count : dataShards.length ≤ total)
    (few : total ≤ maxTotalShards) (lengths : ∀ shard ∈ dataShards, shard.length = size) :
    ((List.range total).map (codeword size dataShards)).take dataShards.length = dataShards := by
  apply List.ext_getElem (by simp [count])
  intro index _ inside
  simp [codeword_data (count.trans few) lengths inside]

theorem exists_coded (some_data : 0 < dataShardCount) (enough : dataShardCount ≤ (present shards).length)
    (redundant : dataShardCount < shards.length) (few : shards.length ≤ maxTotalShards) (fits : misfit? shards = none) :
    ∃ whole : List Bytes, whole.length = shards.length ∧ Coded dataShardCount whole ∧
      (∀ shard ∈ whole, ∀ entry ∈ present shards, shard.length = entry.2.length) ∧
      (∀ entry ∈ (present shards).take dataShardCount, whole[entry.1]? = some entry.2) ∧
      reconstruct shards dataShardCount = .ok ((whole.take dataShardCount).map some) := by
  obtain ⟨size, positive, equal⟩ := equal_of_fits fits
  obtain ⟨dataShards, rfl, encoded, restored⟩ := reconstruct_of_equal some_data enough redundant few positive equal
  refine ⟨(List.range shards.length).map (codeword size dataShards), by simp,
    coded_codeword redundant.le few encoded.lengths, ?_, fun entry member => ?_, ?_⟩
  · intro shard listed entry member
    obtain ⟨index, _, rfl⟩ := List.mem_map.mp listed
    rw [length_codeword encoded.lengths, equal entry member]
  · have position := (present_positions_sublist shards).subset (List.mem_map_of_mem (List.mem_of_mem_take member))
    rw [List.getElem?_map, List.getElem?_range (List.mem_range.mp position), encoded.coded entry member]
    rfl
  · rw [take_codeword redundant.le few encoded.lengths, restored]

theorem capacity_of_equal (some_data : 0 < dataShardCount) (enough : dataShardCount ≤ (present shards).length)
    {size : Nat} (equal : ∀ entry ∈ present shards, entry.2.length = size) :
    capacity shards dataShardCount = dataShardCount * size := by
  have first : ((present shards).head?.map (·.2.length)).getD 0 = size := by
    cases here : present shards with
    | nil =>
      rw [here] at enough
      exact absurd some_data (not_lt.mpr enough)
    | cons entry rest => exact equal entry (by simp [here])
  have count : dataShardCount ≤ shards.length := enough.trans (length_present_le shards)
  have lengths : ∀ length ∈ (shards.take dataShardCount).map fun shard => (shard.map List.length).getD size,
      length = size := by
    intro length member
    obtain ⟨shard, listed, rfl⟩ := List.mem_map.mp member
    cases shard with
    | none => rfl
    | some shard =>
      obtain ⟨index, found⟩ := List.mem_iff_getElem?.mp (List.mem_of_mem_take listed)
      exact equal (index, shard) (mem_present.mpr found)
  rw [capacity, first, List.sum_eq_card_nsmul _ size lengths, List.length_map, List.length_take_of_le count, smul_eq_mul]

theorem sum_of_complete {shards : List (Option Bytes)} (complete : shards.length ≤ (shards.filterMap id).length)
    (size : Nat) :
    (shards.map fun shard => (shard.map List.length).getD size).sum = (shards.filterMap id).flatten.length := by
  induction shards with
  | nil => rfl
  | cons shard rest ih =>
    cases shard with
    | none =>
      have short : (rest.filterMap id).length ≤ rest.length := List.length_filterMap_le id rest
      exact absurd (complete.trans short) (Nat.not_succ_le_self _)
    | some shard =>
      have others := ih (Nat.le_of_succ_le_succ complete)
      simp only [List.map_cons, List.sum_cons, others, List.filterMap_cons, id, List.flatten_cons, List.length_append]
      rfl

theorem capacity_of_plain (enough : dataShardCount ≤ (present shards).length)
    (irredundant : shards.length ≤ dataShardCount) :
    capacity shards dataShardCount = (shards.filterMap id).flatten.length := by
  have complete : shards.length ≤ (shards.filterMap id).length := by
    rw [← present_shards, List.length_map]
    exact irredundant.trans enough
  rw [capacity, List.take_of_length_le irredundant, sum_of_complete complete]

theorem length_flatten_of_equal {size : Nat} {dataShards : List Bytes}
    (equal : ∀ shard ∈ dataShards, shard.length = size) : dataShards.flatten.length = dataShards.length * size := by
  have lengths : ∀ length ∈ dataShards.map List.length, length = size := by simpa using equal
  rw [List.length_flatten, List.sum_eq_card_nsmul _ size lengths, List.length_map, smul_eq_mul]

theorem restored_of_fits (some_data : 0 < dataShardCount) (enough : dataShardCount ≤ (present shards).length)
    (few : dataShardCount < shards.length → shards.length ≤ maxTotalShards)
    (fits : dataShardCount < shards.length → misfit? shards = none) :
    ∃ held, (if dataShardCount < shards.length then reconstruct shards dataShardCount else .ok shards).map
        (·.filterMap id) = .ok held ∧ held.flatten.length = capacity shards dataShardCount := by
  by_cases redundant : dataShardCount < shards.length
  · obtain ⟨size, positive, equal⟩ := equal_of_fits (fits redundant)
    obtain ⟨dataShards, count, encoded, restored⟩ :=
      reconstruct_of_equal some_data enough redundant (few redundant) positive equal
    refine ⟨dataShards, ?_, ?_⟩
    · rw [if_pos redundant, restored]
      simp [Except.map, List.filterMap_map]
    · rw [length_flatten_of_equal encoded.lengths, count, capacity_of_equal some_data enough equal]
  · refine ⟨shards.filterMap id, ?_, (capacity_of_plain enough (not_lt.mp redundant)).symm⟩
    rw [if_neg redundant]
    rfl

/-- What is to be decoded has a fault, which is reported, or is decoded to as many bytes as are asked for. -/
theorem decode_outcome (shards : List (Option Bytes)) (dataShardCount blobSize : Nat) :
    (∃ err, fault? shards dataShardCount blobSize = some err ∧ decode shards dataShardCount blobSize = .error err) ∨
      (fault? shards dataShardCount blobSize = none ∧
        ∃ blob, decode shards dataShardCount blobSize = .ok blob ∧ blob.length = blobSize) := by
  unfold fault?
  by_cases no_data : dataShardCount = 0
  · refine .inl ⟨.noDataShards, if_pos no_data, ?_⟩
    rw [decode, if_pos no_data]
    rfl
  by_cases few_left : (present shards).length < dataShardCount
  · refine .inl ⟨_, (if_neg no_data).trans (if_pos few_left), ?_⟩
    unfold decode
    simp only [if_neg no_data, if_pos (Or.inl few_left)]
    rfl
  have some_data : 0 < dataShardCount := Nat.pos_of_ne_zero no_data
  have enough : dataShardCount ≤ (present shards).length := not_lt.mp few_left
  rw [if_neg no_data, if_neg few_left, decode_of_enough blobSize some_data enough]
  by_cases many : dataShardCount < shards.length ∧ maxTotalShards < shards.length
  · refine .inl ⟨_, if_pos many, ?_⟩
    rw [if_pos many.1, reconstruct, if_pos many.2]
    rfl
  have few (redundant : dataShardCount < shards.length) : shards.length ≤ maxTotalShards :=
    not_lt.mp fun above => many ⟨redundant, above⟩
  rw [if_neg many]
  cases first : if dataShardCount < shards.length then misfit? shards else none with
  | some shard =>
    have redundant : dataShardCount < shards.length := by
      by_contra irredundant
      rw [if_neg irredundant] at first
      cases first
    rw [if_pos redundant] at first
    refine .inl ⟨_, rfl, ?_⟩
    rw [if_pos redundant, reconstruct_of_misfit (few redundant) first]
    rfl
  | none =>
    have fits (redundant : dataShardCount < shards.length) : misfit? shards = none := by rwa [if_pos redundant] at first
    obtain ⟨held, restored, length⟩ := restored_of_fits some_data enough few fits
    rw [restored, ← length]
    by_cases short : held.flatten.length < blobSize
    · exact .inl ⟨_, if_pos short, if_pos short⟩
    · exact .inr ⟨if_neg short, _, if_neg short, List.length_take_of_le (not_lt.mp short)⟩

end

/-- Decoding reports the first fault and nothing else; without one it gives as many bytes as are asked for. Shards that
fit are never too unlike a codeword: no choice of rows is singular, and those that count are on a codeword. -/
theorem decode_fails_exactly (shards : List (Option Bytes)) (dataShardCount blobSize : Nat) :
    (∀ err, decode shards dataShardCount blobSize = .error err ↔
      fault? shards dataShardCount blobSize = some err) ∧
    ((∃ blob, decode shards dataShardCount blobSize = .ok blob) ↔ fault? shards dataShardCount blobSize = none) ∧
    (∀ blob, decode shards dataShardCount blobSize = .ok blob → blob.length = blobSize) ∧
    (0 < dataShardCount → dataShardCount ≤ (present shards).length → dataShardCount < shards.length →
      shards.length ≤ maxTotalShards → misfit? shards = none →
        (∀ rows : Fin dataShardCount → Fin shards.length, Function.Injective rows →
          IsUnit ((codingMatrix shards.length dataShardCount).submatrix rows id).det) ∧
        ∃ whole : List Bytes, whole.length = shards.length ∧ Coded dataShardCount whole ∧
          (∀ shard ∈ whole, ∀ entry ∈ present shards, shard.length = entry.2.length) ∧
          (∀ entry ∈ (present shards).take dataShardCount, whole[entry.1]? = some entry.2) ∧
          reconstruct shards dataShardCount = .ok ((whole.take dataShardCount).map some)) := by
  have regular (some_data : 0 < dataShardCount) (enough : dataShardCount ≤ (present shards).length)
      (redundant : dataShardCount < shards.length) (few : shards.length ≤ maxTotalShards)
      (fits : misfit? shards = none) := And.intro
    (fun rows (distinct : Function.Injective rows) => codingMatrix_rows_isUnit redundant.le few distinct)
    (exists_coded some_data enough redundant few fits)
  rcases decode_outcome shards dataShardCount blobSize with ⟨err, faulty, failed⟩ | ⟨faultless, blob, decoded, length⟩
  · rw [failed, faulty]
    refine ⟨fun other => ?_, by simp, by simp, regular⟩
    rw [Except.error.injEq, Option.some.injEq]
  · rw [decoded, faultless]
    refine ⟨by simp, by simp, fun other same => ?_, regular⟩
    rw [← Except.ok.inj same, length]

/-- Four shards of which no codeword has all are reconstructed from the first two that are there. -/
theorem decode_fails_exactly_off_codeword : ∃ whole : List Bytes, whole.length = 4 ∧ Coded 2 whole ∧
    whole[1]? = some [1] ∧ whole[2]? = some [2] ∧
    reconstruct [none, some [1], some [2], some [2]] 2 = .ok ((whole.take 2).map some) := by
  obtain ⟨-, whole, length, coded, -, held, restored⟩ :=
    (decode_fails_exactly [none, some [1], some [2], some [2]] 2 1).2.2.2
      (by decide) (by decide) (by decide) (by decide) (by decide)
  exact ⟨whole, length, coded, held (1, [1]) (by decide), held (2, [2]) (by decide), restored⟩

example : fault? [some [1, 2], none, some [3]] 2 3 = some .incorrectShardSize ∧
    fault? [some [1, 2], some [3]] 2 3 = none := by decide

end Availability.Erasure
