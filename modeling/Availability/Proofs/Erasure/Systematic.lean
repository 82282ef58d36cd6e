import Mathlib.Order.Bounds.Basic
import Availability.Proofs.Erasure.Recovery

namespace Availability.Erasure

def padded (size : Nat) (part : Bytes) : Bytes := part ++ List.replicate (size - part.length) 0

theorem take_drop_eq_extract (size index : Nat) (blob : Bytes) :
    (blob.drop (index * size)).take size =
      blob.extract (min (index * size) blob.length) (min ((index + 1) * size) blob.length) := by
  rw [List.extract_eq_take_drop, Nat.succ_mul]
  by_cases inside : index * size ≤ blob.length
  · rw [Nat.min_eq_left inside, List.take_eq_take_iff, List.length_drop]
    omega
  · have beyond : blob.length ≤ index * size := Nat.le_of_not_le inside
    have stop : min (index * size + size) blob.length - blob.length = 0 := by omega
    rw [Nat.min_eq_right beyond, List.drop_eq_nil_of_le beyond, stop, List.take_nil, List.take_zero]

theorem getElem?_split (size : Nat) {count index : Nat} (inside : index < count) (blob : Bytes) :
    (split size count blob)[index]? = some (padded size ((blob.drop (index * size)).take size)) := by
  induction count generalizing index blob with
  | zero => exact absurd inside (Nat.not_lt_zero index)
  | succ count ih =>
    cases index with
    | zero => rw [Nat.zero_mul, List.drop_zero]; rfl
    | succ index =>
      rw [split, List.getElem?_cons_succ, ih (Nat.lt_of_succ_lt_succ inside), List.drop_drop, Nat.succ_mul,
        Nat.add_comm size]

theorem shardSize_isLeast (length : Nat) {dataShardCount : Nat} (positive : 0 < dataShardCount) :
    IsLeast {size | 1 ≤ size ∧ length ≤ size * dataShardCount} (shardSize length dataShardCount) := by
  refine ⟨⟨shardSize_positive length dataShardCount, le_shardSize_mul length positive⟩, ?_⟩
  rintro size ⟨filled, holds⟩
  refine Nat.max_le.mpr ⟨filled, ?_⟩
  have rounded : (length + dataShardCount - 1) / dataShardCount < size + 1 := by
    rw [Nat.div_lt_iff_lt_mul positive, Nat.succ_mul]
    omega
  exact Nat.le_of_lt_succ rounded

/-- What stands for a blob: equally long shards of the least size, the blob in the first of them. -/
structure Systematic (blob : Bytes) (dataShardCount parityShardCount : Nat) (encoded : Encoded) : Prop where
  minimal : IsLeast {size | 1 ≤ size ∧ blob.length ≤ size * dataShardCount} encoded.shardSize
  count : encoded.shards.length = dataShardCount + parityShardCount
  uniform : ∀ shard ∈ encoded.shards, shard.length = encoded.shardSize
  sliced : ∀ index < dataShardCount, ∃ start stop,
    start = min (index * encoded.shardSize) blob.length ∧
      stop = min ((index + 1) * encoded.shardSize) blob.length ∧ start ≤ stop ∧ stop ≤ blob.length ∧
      encoded.shards[index]? = some (padded encoded.shardSize (blob.extract start stop))
  joined : (encoded.shards.take dataShardCount).flatten =
    blob ++ List.replicate (encoded.shardSize * dataShardCount - blob.length) 0
  coded : Coded dataShardCount encoded.shards

section

variable {blob : Bytes} {dataShardCount parityShardCount : Nat} {encoded : Encoded}

theorem shardSize_of_encode (encodes : encode blob dataShardCount parityShardCount = .ok encoded) :
    encoded.shardSize = shardSize blob.length dataShardCount := by
  unfold encode at encodes
  split at encodes
  · cases encodes
  · split at encodes
    · cases encodes
    · cases encodes
      rfl

theorem take_of_encode (encodes : encode blob dataShardCount parityShardCount = .ok encoded) :
    encoded.shards.take dataShardCount = split (shardSize blob.length dataShardCount) dataShardCount blob := by
  unfold encode at encodes
  split at encodes
  · cases encodes
  · split at encodes
    · cases encodes
    · cases encodes
      exact List.take_left' (length_split _ _ blob)

theorem coded_of_encode (positive : 0 < dataShardCount) (few : dataShardCount + parityShardCount ≤ maxTotalShards)
    (encodes : encode blob dataShardCount parityShardCount = .ok encoded) : Coded dataShardCount encoded.shards := by
  rw [encode_eq_codeword blob positive few] at encodes
  cases encodes
  have lengths : ∀ shard ∈ split (shardSize blob.length dataShardCount) dataShardCount blob,
      shard.length = shardSize blob.length dataShardCount := fun _ member => length_of_mem_split member
  have coded := coded_codeword (by rw [length_split]; omega) few lengths
  rwa [length_split] at coded

end

/-- Every blob is encoded in the least shards that hold it, whose data shards do not depend on the parity shards. -/
theorem encode_systematic (blob : Bytes) (dataShardCount parityShardCount : Nat) (positive : 1 ≤ dataShardCount)
    (few : dataShardCount + parityShardCount ≤ maxTotalShards) :
    ∃ encoded, encode blob dataShardCount parityShardCount = .ok encoded ∧
      Systematic blob dataShardCount parityShardCount encoded ∧
      ∀ otherCount other, encode blob dataShardCount otherCount = .ok other →
        other.shards.take dataShardCount = encoded.shards.take dataShardCount := by
  obtain ⟨encoded, encodes⟩ : ∃ encoded, encode blob dataShardCount parityShardCount = .ok encoded :=
    ⟨_, encode_eq_codeword blob positive few⟩
  have size := shardSize_of_encode encodes
  have data := take_of_encode encodes
  refine ⟨encoded, encodes, ⟨?minimal, length_shards positive few encodes, length_of_mem_shards positive few encodes,
    ?sliced, ?joined, coded_of_encode positive few encodes⟩, ?independent⟩
  case minimal =>
    rw [size]
    exact shardSize_isLeast blob.length positive
  case sliced =>
    intro index inside
    have rising : index * encoded.shardSize ≤ (index + 1) * encoded.shardSize :=
      Nat.mul_le_mul_right _ (Nat.le_succ index)
    refine ⟨_, _, rfl, rfl, by omega, Nat.min_le_right _ _, ?_⟩
    rw [← take_drop_eq_extract, ← List.getElem?_take_of_lt inside, data, size]
    exact getElem?_split _ inside blob
  case joined =>
    rw [data, size]
    exact flatten_split (le_shardSize_mul blob.length positive)
  case independent =>
    intro otherCount other also
    rw [take_of_encode also, data]

/-- More data shards than bytes: the last two hold nothing of the blob. -/
theorem encode_systematic_beyond_blob : 1 ≤ 3 ∧ 3 + 2 ≤ maxTotalShards ∧
    ∃ encoded, encode [7] 3 2 = .ok encoded ∧ encoded.shards.length = 5 ∧ encoded.shardSize = 1 ∧
      (encoded.shards.take 3).flatten = [7, 0, 0] := by
  obtain ⟨encoded, encodes, systematic, -⟩ := encode_systematic [7] 3 2 (by decide) (by decide)
  have size : encoded.shardSize = 1 :=
    systematic.minimal.unique ⟨⟨le_rfl, by decide⟩, fun _ holds => holds.1⟩
  have joined := systematic.joined
  rw [size] at joined
  exact ⟨by decide, by decide, encoded, encodes, systematic.count, size, joined⟩

end Availability.Erasure
