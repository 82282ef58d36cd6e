import Availability.Proofs.Erasure.CodingMatrix

namespace Availability.Erasure

section

variable {size count : Nat}

@[simp] theorem length_split (size count : Nat) (blob : Bytes) : (split size count blob).length = count := by
  induction count generalizing blob with
  | zero => rfl
  | succ count ih => simp [split, ih]

theorem length_of_mem_split {blob shard : Bytes} (member : shard ∈ split size count blob) :
    shard.length = size := by
  induction count generalizing blob with
  | zero => simp [split] at member
  | succ count ih =>
    simp only [split, List.mem_cons] at member
    rcases member with rfl | member
    · simp only [List.length_append, List.length_replicate, List.length_take]
      omega
    · exact ih member

theorem flatten_split {blob : Bytes} (fits : blob.length ≤ size * count) :
    (split size count blob).flatten = blob ++ List.replicate (size * count - blob.length) 0 := by
  induction count generalizing blob with
  | zero => simpa [split] using fits
  | succ count ih =>
    have rest : (blob.drop size).length ≤ size * count := by
      rw [List.length_drop]
      rw [Nat.mul_succ] at fits
      omega
    rw [split, List.flatten_cons, ih rest, Nat.mul_succ, List.length_drop, List.length_take]
    by_cases long : size ≤ blob.length
    · have padding : size - min size blob.length = 0 := by omega
      have left : size * count - (blob.length - size) = size * count + size - blob.length := by omega
      rw [padding, left, List.replicate_zero, List.append_nil, ← List.append_assoc, List.take_append_drop]
    · have left : size * count + size - blob.length =
          (size - min size blob.length) + (size * count - (blob.length - size)) := by omega
      rw [List.take_of_length_le (by omega), List.drop_of_length_le (by omega), List.nil_append, left,
        List.replicate_add, List.append_assoc]

theorem shardSize_positive (length dataShardCount : Nat) : 0 < shardSize length dataShardCount :=
  lt_of_lt_of_le Nat.zero_lt_one (Nat.le_max_left _ _)

theorem le_shardSize_mul (length : Nat) {dataShardCount : Nat} (positive : 0 < dataShardCount) :
    length ≤ shardSize length dataShardCount * dataShardCount := by
  have ceiling : length ≤ (length + dataShardCount - 1) / dataShardCount * dataShardCount := by
    have remainder := Nat.div_add_mod (length + dataShardCount - 1) dataShardCount
    have small := Nat.mod_lt (length + dataShardCount - 1) positive
    rw [Nat.mul_comm] at remainder
    omega
  exact ceiling.trans (Nat.mul_le_mul_right _ (Nat.le_max_right _ _))

end

/-- The shards of a blob are the codeword that starts with its data shards. -/
theorem encode_eq_codeword (blob : Bytes) {dataShardCount parityShardCount : Nat} (positive : 0 < dataShardCount)
    (few : dataShardCount + parityShardCount ≤ maxTotalShards) :
    encode blob dataShardCount parityShardCount = .ok ⟨shardSize blob.length dataShardCount,
      (List.range (dataShardCount + parityShardCount)).map
        (codeword (shardSize blob.length dataShardCount)
          (split (shardSize blob.length dataShardCount) dataShardCount blob))⟩ := by
  let size := shardSize blob.length dataShardCount
  let dataShards := split size dataShardCount blob
  have within : dataShards.length ≤ maxTotalShards := by
    rw [length_split]
    omega
  have systematic : dataShards = (List.range dataShardCount).map (codeword size dataShards) := by
    apply List.ext_getElem (by simp [dataShards])
    intro index inside _
    rw [List.getElem_map, List.getElem_range,
      codeword_data within (fun shard member => length_of_mem_split member) inside]
  have redundant : parity size dataShardCount parityShardCount dataShards =
      (List.range parityShardCount).map fun index => codeword size dataShards (dataShardCount + index) := by
    simp only [parity, codeword, dataShards, length_split]
  have allowed : ¬ (0 < parityShardCount ∧ maxTotalShards < dataShardCount + parityShardCount) := by omega
  rw [encode, if_neg positive.ne', if_neg allowed]
  change Except.ok (Encoded.mk size (dataShards ++ parity size dataShardCount parityShardCount dataShards)) = _
  rw [redundant, List.range_add, List.map_append, List.map_map, ← systematic]
  rfl

theorem length_shards {blob : Bytes} {dataShardCount parityShardCount : Nat} {encoded : Encoded}
    (positive : 0 < dataShardCount) (few : dataShardCount + parityShardCount ≤ maxTotalShards)
    (encodes : encode blob dataShardCount parityShardCount = .ok encoded) :
    encoded.shards.length = dataShardCount + parityShardCount := by
  rw [encode_eq_codeword blob positive few] at encodes
  cases encodes
  rw [List.length_map, List.length_range]

theorem length_of_mem_shards {blob : Bytes} {dataShardCount parityShardCount : Nat} {encoded : Encoded}
    (positive : 0 < dataShardCount) (few : dataShardCount + parityShardCount ≤ maxTotalShards)
    (encodes : encode blob dataShardCount parityShardCount = .ok encoded) :
    ∀ shard ∈ encoded.shards, shard.length = encoded.shardSize := by
  rw [encode_eq_codeword blob positive few] at encodes
  cases encodes
  intro shard member
  obtain ⟨index, -, rfl⟩ := List.mem_map.mp member
  exact length_codeword (fun part inside => length_of_mem_split inside) index

theorem mem_present {shards : List (Option Bytes)} {index : Nat} {shard : Bytes} :
    (index, shard) ∈ present shards ↔ shards[index]? = some (some shard) := by
  simp only [present, List.mem_filterMap, Prod.exists]
  constructor
  · rintro ⟨found, position, member, same⟩
    obtain ⟨_, rfl, same⟩ := Option.map_eq_some_iff.mp same
    cases same
    exact List.mem_zipIdx_iff_getElem?.mp member
  · intro found
    exact ⟨some shard, index, List.mem_zipIdx_iff_getElem?.mpr found, rfl⟩

theorem present_positions_sublist (shards : List (Option Bytes)) :
    ((present shards).map (·.1)).Sublist (List.range shards.length) := by
  have positions : (present shards).map (·.1) = (shards.zipIdx.filter (·.1.isSome)).map (·.2) := by
    rw [present]
    induction shards.zipIdx with
    | nil => rfl
    | cons entry entries ih =>
      obtain ⟨shard, index⟩ := entry
      cases shard <;> simp [ih]
  rw [positions]
  have sublist := (List.filter_sublist (p := fun entry : Option Bytes × Nat => entry.1.isSome)
    (l := shards.zipIdx)).map (·.2)
  simpa [List.zipIdx_map_snd, List.range_eq_range'] using sublist

theorem length_present_le (shards : List (Option Bytes)) : (present shards).length ≤ shards.length := by
  have positions := (present_positions_sublist shards).length_le
  rwa [List.length_map, List.length_range] at positions

theorem present_positions_nodup (shards : List (Option Bytes)) : ((present shards).map (·.1)).Nodup :=
  (present_positions_sublist shards).nodup List.nodup_range

theorem present_ascending (shards : List (Option Bytes)) : (present shards).Pairwise (·.1 < ·.1) :=
  List.pairwise_map.mp (List.pairwise_lt_range.sublist (present_positions_sublist shards))

theorem le_getElem_of_ascending {positions : List Nat} (ascending : positions.Pairwise (· < ·)) {index : Nat}
    (inside : index < positions.length) : index ≤ positions[index] := by
  induction index with
  | zero => exact Nat.zero_le _
  | succ index ih =>
    have before := List.pairwise_iff_getElem.mp ascending index (index + 1) (by omega) inside (Nat.lt_succ_self index)
    have low := ih (by omega)
    omega

theorem mem_take_present {shards : List (Option Bytes)} {entry : Nat × Bytes} {count : Nat}
    (member : entry ∈ present shards) (low : entry.1 < count) : entry ∈ (present shards).take count := by
  obtain ⟨index, inside, rfl⟩ := List.mem_iff_getElem.mp member
  have placed : index < ((present shards).map (·.1)).length := by rwa [List.length_map]
  have behind := le_getElem_of_ascending (List.pairwise_map.mpr (present_ascending shards)) placed
  rw [List.getElem_map] at behind
  exact List.mem_take_iff_getElem.mpr ⟨index, by omega, rfl⟩

theorem length_present {shards : List (Option Bytes)} {positions : Finset Nat}
    (held : ∀ index, index ∈ positions ↔ ∃ shard, shards[index]? = some (some shard)) :
    (present shards).length = positions.card := by
  have same : ((present shards).map (·.1)).toFinset = positions := by
    ext index
    rw [List.mem_toFinset, List.mem_map, held]
    constructor
    · rintro ⟨entry, member, rfl⟩
      exact ⟨entry.2, mem_present.mp member⟩
    · rintro ⟨shard, found⟩
      exact ⟨(index, shard), mem_present.mpr found, rfl⟩
  rw [← same, List.toFinset_card_of_nodup (present_positions_nodup shards), List.length_map]

theorem checkSizes_of_equal {size : Nat} (positive : 0 < size) {previous : Option Nat}
    (before : ∀ length ∈ previous, length = size) {shards : List Bytes}
    (lengths : ∀ shard ∈ shards, shard.length = size) : checkSizes previous shards = .ok () := by
  induction shards generalizing previous with
  | nil => rfl
  | cons shard shards ih =>
    have first : shard.length = size := lengths shard (by simp)
    have filled : shard.isEmpty = false := by
      cases shard with
      | nil => simp at first; omega
      | cons => rfl
    have kept : previous.any (· ≠ shard.length) = false := by
      cases previous with
      | none => rfl
      | some length => simp [first, before length rfl]
    rw [checkSizes, filled, if_neg (by simp), kept, if_neg (by simp)]
    exact ih (fun length same => by cases same; exact first)
      fun other member => lengths other (List.mem_cons_of_mem _ member)

section

variable {size : Nat} {dataShards : List Bytes} {shards : List (Option Bytes)}

structure Encodes (size : Nat) (dataShards : List Bytes) (entries : List (Nat × Bytes)) : Prop where
  lengths : ∀ shard ∈ dataShards, shard.length = size
  coded : ∀ entry ∈ entries, entry.2 = codeword size dataShards entry.1

/-- The first shards that are there decide: the others need to be as long and nothing else. -/
theorem reconstruct_encoded (positive : 0 < size) (some_data : 0 < dataShards.length)
    (count : dataShards.length ≤ shards.length) (bound : shards.length ≤ maxTotalShards)
    (equal : ∀ entry ∈ present shards, entry.2.length = size)
    (encoded : Encodes size dataShards ((present shards).take dataShards.length))
    (enough : dataShards.length ≤ (present shards).length) :
    reconstruct shards dataShards.length = .ok (dataShards.map some) := by
  have few : dataShards.length ≤ maxTotalShards := count.trans bound
  have checked : checkSizes none ((present shards).map (·.2)) = .ok () := by
    apply checkSizes_of_equal positive (by simp)
    intro shard member
    obtain ⟨entry, known, rfl⟩ := List.mem_map.mp member
    exact equal entry known
  let used := (present shards).take dataShards.length
  have used_count : used.length = dataShards.length := by simp [used, enough]
  have used_size : (used.head?.map (·.2.length)).getD 0 = size := by
    cases first : used with
    | nil => simp [first] at used_count; omega
    | cons entry _ => exact equal entry (List.mem_of_mem_take (first ▸ List.mem_cons_self))
  have used_shards : used.map (·.2) = (used.map (·.1)).map (codeword size dataShards) := by
    rw [List.map_map]
    exact List.map_congr_left encoded.coded
  have distinct : (used.map (·.1)).Nodup := by
    rw [List.map_take]
    exact (present_positions_nodup shards).sublist (List.take_sublist _ _)
  have inside : ∀ node ∈ used.map (·.1), node < maxTotalShards := by
    intro node member
    rw [List.map_take] at member
    have position := (present_positions_sublist shards).subset (List.mem_of_mem_take member)
    exact lt_of_lt_of_le (List.mem_range.mp position) bound
  have filled (index : Nat) :
      interpolate size (used.map (·.1)) (used.map (·.2)) index = codeword size dataShards index := by
    rw [used_shards]
    exact interpolate_codeword few encoded.lengths distinct inside (by simpa using used_count) index
  have restored : (shards.take dataShards.length).zipIdx.map (fun entry =>
      entry.1.or (some (interpolate size (used.map (·.1)) (used.map (·.2)) entry.2))) = dataShards.map some := by
    apply List.ext_getElem (by simp [count])
    intro index _ low
    have position : index < dataShards.length := by simpa using low
    simp only [List.getElem_map, List.getElem_zipIdx, List.getElem_take, filled, Nat.zero_add,
      ← codeword_data few encoded.lengths position]
    cases found : shards[index] with
    | none => rfl
    | some shard =>
      have known : (index, shard) ∈ present shards :=
        mem_present.mpr (by rw [List.getElem?_eq_getElem (by omega), found])
      exact congrArg some (encoded.coded _ (mem_take_present known position))
  rw [reconstruct, if_neg (by omega)]
  simp only [checked]
  rw [used_size, restored]

theorem reconstruct_codeword (positive : 0 < size) (lengths : ∀ shard ∈ dataShards, shard.length = size)
    (some_data : 0 < dataShards.length) (count : dataShards.length ≤ shards.length)
    (bound : shards.length ≤ maxTotalShards)
    (agree : ∀ index shard, shards[index]? = some (some shard) → shard = codeword size dataShards index)
    (enough : dataShards.length ≤ (present shards).length) :
    reconstruct shards dataShards.length = .ok (dataShards.map some) := by
  have coded : ∀ entry ∈ present shards, entry.2 = codeword size dataShards entry.1 :=
    fun entry member => agree entry.1 entry.2 (mem_present.mp member)
  refine reconstruct_encoded positive some_data count bound ?_ ⟨lengths, ?_⟩ enough
  · intro entry member
    rw [coded entry member, length_codeword lengths]
  · exact fun entry member => coded entry (List.mem_of_mem_take member)

theorem decode_of_enough {dataShardCount : Nat} (blobSize : Nat) (some_data : 0 < dataShardCount)
    (enough : dataShardCount ≤ (present shards).length) :
    decode shards dataShardCount blobSize =
      ((if dataShardCount < shards.length then reconstruct shards dataShardCount else .ok shards).map
        (·.filterMap id)).bind fun held =>
          if held.flatten.length < blobSize then .error (.blobSizeTooLarge blobSize held.flatten.length)
          else .ok (held.flatten.take blobSize) := by
  have count : dataShardCount ≤ shards.length := enough.trans (length_present_le shards)
  unfold decode
  simp only [Bind.bind, Except.bind, Pure.pure, Except.pure, some_data.ne', not_lt.mpr enough, not_lt.mpr count,
    or_self, if_false]
  split
  · cases reconstruct shards dataShardCount <;> rfl
  · rfl

theorem decode_codeword (positive : 0 < size) (lengths : ∀ shard ∈ dataShards, shard.length = size)
    (some_data : 0 < dataShards.length) (bound : shards.length ≤ maxTotalShards)
    (agree : ∀ index shard, shards[index]? = some (some shard) → shard = codeword size dataShards index)
    (enough : dataShards.length ≤ (present shards).length) {blobSize : Nat}
    (fits : blobSize ≤ dataShards.flatten.length) :
    decode shards dataShards.length blobSize = .ok (dataShards.flatten.take blobSize) := by
  have count : dataShards.length ≤ shards.length := enough.trans (length_present_le shards)
  have recovered : (if dataShards.length < shards.length then reconstruct shards dataShards.length
      else .ok shards) = Except.ok (dataShards.map some) := by
    split
    · exact reconstruct_codeword positive lengths some_data count bound agree enough
    · -- Without parity shards nothing can be missing, and nothing is reconstructed.
      have equal : dataShards.length = shards.length := by omega
      have complete := (present_positions_sublist shards).eq_of_length_le
        (by rw [List.length_map, List.length_range]; omega)
      have data : shards = dataShards.map some := by
        apply List.ext_getElem (by simp [equal])
        intro index inside _
        have member : index ∈ (present shards).map (·.1) := complete ▸ List.mem_range.mpr inside
        obtain ⟨entry, known, rfl⟩ := List.mem_map.mp member
        have found := mem_present.mp known
        rw [List.getElem?_eq_getElem inside] at found
        have position : entry.1 < dataShards.length := by omega
        rw [Option.some_inj.mp found, agree entry.1 entry.2 (mem_present.mp known),
          codeword_data (equal ▸ bound) lengths position, List.getElem_map]
      exact congrArg Except.ok data
  have held : (dataShards.map some).filterMap id = dataShards := by simp [List.filterMap_map]
  rw [decode_of_enough blobSize some_data enough, recovered]
  simp only [Except.map, Except.bind, held, if_neg (not_lt.mpr fits)]

end

theorem decode_of_held {blob : Bytes} {dataShardCount parityShardCount : Nat} {encoded : Encoded}
    {shards : List (Option Bytes)} (positive : 0 < dataShardCount)
    (few : dataShardCount + parityShardCount ≤ maxTotalShards)
    (encodes : encode blob dataShardCount parityShardCount = .ok encoded)
    (count : shards.length = dataShardCount + parityShardCount)
    (agree : ∀ {index : Nat} {shard}, shards[index]? = some (some shard) → encoded.shards[index]? = some shard)
    (enough : dataShardCount ≤ (present shards).length) :
    decode shards dataShardCount blob.length = .ok blob := by
  let size := shardSize blob.length dataShardCount
  let dataShards := split size dataShardCount blob
  have data_count : dataShards.length = dataShardCount := length_split size dataShardCount blob
  have lengths : ∀ shard ∈ dataShards, shard.length = size := fun shard member => length_of_mem_split member
  have flat : dataShards.flatten = blob ++ List.replicate (size * dataShardCount - blob.length) 0 :=
    flatten_split (le_shardSize_mul blob.length positive)
  rw [encode_eq_codeword blob positive few] at encodes
  cases encodes
  have decoded : decode shards dataShards.length blob.length = .ok (dataShards.flatten.take blob.length) := by
    apply decode_codeword (shardSize_positive blob.length dataShardCount) lengths
    · rwa [data_count]
    · rwa [count]
    · intro index shard found
      obtain ⟨_, same⟩ := List.getElem?_eq_some_iff.mp (agree found)
      rw [← same, List.getElem_map, List.getElem_range]
    · rwa [data_count]
    · rw [flat, List.length_append]
      omega
  rwa [data_count, flat, List.take_left] at decoded

def erase (erased : Finset Nat) (shards : List Bytes) : List (Option Bytes) :=
  shards.mapIdx fun index shard => if index ∈ erased then none else some shard

theorem getElem?_erase {erased : Finset Nat} {shards : List Bytes} {index : Nat} {shard : Bytes} :
    (erase erased shards)[index]? = some (some shard) ↔ index ∉ erased ∧ shards[index]? = some shard := by
  rw [erase, List.getElem?_mapIdx]
  by_cases gone : index ∈ erased <;> simp [gone]

def Coded (dataShardCount : Nat) (shards : List Bytes) : Prop :=
  ∀ (row : Fin shards.length) (position : Nat), symbolAt (shards.get row) position =
    ∑ column : Fin dataShardCount,
      codingMatrix shards.length dataShardCount row column * symbolAt (shards.getD column []) position

theorem coded_codeword {size total : Nat} {dataShards : List Bytes} (count : dataShards.length ≤ total)
    (bound : total ≤ maxTotalShards) (lengths : ∀ shard ∈ dataShards, shard.length = size) :
    Coded dataShards.length ((List.range total).map (codeword size dataShards)) := by
  intro row position
  have few : dataShards.length ≤ maxTotalShards := count.trans bound
  rw [List.get_eq_getElem, List.getElem_map, List.getElem_range, symbolAt_codeword_eq_sum few lengths row position]
  apply Finset.sum_congr rfl
  intro column _
  have inside : column.val < total := lt_of_lt_of_le column.isLt count
  simp [inside, codeword_data few lengths column.isLt]

/-- Every blob survives the loss of any shards but as many as its data shards. -/
theorem decode_erase_encode (blob : Bytes) (dataShardCount parityShardCount : Nat) (positive : 0 < dataShardCount)
    (few : dataShardCount + parityShardCount ≤ maxTotalShards) :
    ∃ encoded, encode blob dataShardCount parityShardCount = .ok encoded ∧
      encoded.shards.length = dataShardCount + parityShardCount ∧ Coded dataShardCount encoded.shards ∧
      ∀ erased : Finset Nat,
        dataShardCount ≤ (Finset.range (dataShardCount + parityShardCount) \ erased).card →
          decode (erase erased encoded.shards) dataShardCount blob.length = .ok blob := by
  let size := shardSize blob.length dataShardCount
  let dataShards := split size dataShardCount blob
  let shards := (List.range (dataShardCount + parityShardCount)).map (codeword size dataShards)
  have encodes : encode blob dataShardCount parityShardCount = .ok ⟨size, shards⟩ :=
    encode_eq_codeword blob positive few
  have count : shards.length = dataShardCount + parityShardCount := by simp [shards]
  refine ⟨⟨size, shards⟩, encodes, count, ?_, ?_⟩
  · have data_count : dataShards.length = dataShardCount := length_split size dataShardCount blob
    rw [← data_count]
    exact coded_codeword (by omega) few fun shard member => length_of_mem_split member
  · intro erased enough
    have available : (present (erase erased shards)).length =
        (Finset.range (dataShardCount + parityShardCount) \ erased).card := by
      apply length_present
      intro index
      rw [Finset.mem_sdiff, Finset.mem_range, ← count, and_comm]
      constructor
      · rintro ⟨kept, inside⟩
        exact ⟨shards[index], getElem?_erase.mpr ⟨kept, List.getElem?_eq_getElem inside⟩⟩
      · rintro ⟨shard, found⟩
        obtain ⟨kept, listed⟩ := getElem?_erase.mp found
        exact ⟨kept, (List.getElem?_eq_some_iff.mp listed).1⟩
    apply decode_of_held positive few encodes
    · rw [erase, List.length_mapIdx, count]
    · exact fun found => (getElem?_erase.mp found).2
    · rwa [available]

theorem decode_erase_encode_without_data_shards : ∃ encoded, encode [1, 2, 3, 4, 5] 2 2 = .ok encoded ∧
    decode (erase {0, 1} encoded.shards) 2 5 = .ok [1, 2, 3, 4, 5] := by
  obtain ⟨encoded, encodes, _, _, recovers⟩ := decode_erase_encode [1, 2, 3, 4, 5] 2 2 (by decide) (by decide)
  exact ⟨encoded, encodes, recovers {0, 1} (by decide)⟩

end Availability.Erasure
