import Availability.Bytes
import Availability.Erasure.Field

namespace Availability.Erasure

def product (factors : List Symbol) : Symbol := factors.foldl (· * ·) 1

/-- The factor of the value at `node` in the value at `target` of the least polynomial through the `nodes`. -/
def basis (nodes : List Nat) (node target : Nat) : Symbol :=
  let others := nodes.filter (· ≠ node)
  product (others.map fun other => Symbol.ofIndex target - Symbol.ofIndex other) /
    product (others.map fun other => Symbol.ofIndex node - Symbol.ofIndex other)

def coefficients (nodes : List Nat) (target : Nat) : List Symbol := nodes.map (basis nodes · target)

def addScaled (factor : Symbol) (sum shard : Bytes) : Bytes :=
  List.zipWith (fun total byte => ((⟨total⟩ : Symbol) + factor * ⟨byte⟩).byte) sum shard

def combine (size : Nat) (factors : List Symbol) (shards : List Bytes) : Bytes :=
  (factors.zip shards).foldl (fun sum (factor, shard) => addScaled factor sum shard) (List.replicate size 0)

def interpolate (size : Nat) (nodes : List Nat) (shards : List Bytes) (target : Nat) : Bytes :=
  combine size (coefficients nodes target) shards

inductive Error where
  | noDataShards
  | insufficientShards (available required : Nat)
  | blobSizeTooLarge (blobSize capacity : Nat)
  | tooManyShards
  | emptyShard
  | incorrectShardSize
deriving DecidableEq

def Error.message : Error → String
  | .noDataShards => "Data shard count must be positive"
  | .insufficientShards available required => s!"Not enough shards to reconstruct: {available} of {required}"
  | .blobSizeTooLarge blobSize capacity =>
    s!"Original size {blobSize} exceeds the {capacity} bytes held by the data shards"
  | .tooManyShards => "The number of provided shards is greater than the one in codec"
  | .emptyShard => "The first shard provided is of zero length"
  | .incorrectShardSize => "At least one of the provided shards is not of the correct size"

/-- A codeword has one shard for each element of the field at most. -/
def maxTotalShards : Nat := 256

structure Encoded where
  shardSize : Nat
  shards : List Bytes
deriving DecidableEq

/-- The least positive size at which `dataShardCount` shards hold `length` bytes. -/
def shardSize (length dataShardCount : Nat) : Nat := max 1 ((length + dataShardCount - 1) / dataShardCount)

def split (size : Nat) : (count : Nat) → (blob : Bytes) → List Bytes
  | 0, _ => []
  | count + 1, blob =>
    let part := blob.take size
    (part ++ List.replicate (size - part.length) 0) :: split size count (blob.drop size)

def parity (size dataShardCount parityShardCount : Nat) (dataShards : List Bytes) : List Bytes :=
  (List.range parityShardCount).map fun index =>
    interpolate size (List.range dataShardCount) dataShards (dataShardCount + index)

def encode (blob : Bytes) (dataShardCount parityShardCount : Nat) : Except Error Encoded :=
  if dataShardCount = 0 then .error .noDataShards
  else if 0 < parityShardCount ∧ maxTotalShards < dataShardCount + parityShardCount then .error .tooManyShards
  else
    let size := shardSize blob.length dataShardCount
    let dataShards := split size dataShardCount blob
    .ok ⟨size, dataShards ++ parity size dataShardCount parityShardCount dataShards⟩

def present (shards : List (Option Bytes)) : List (Nat × Bytes) :=
  shards.zipIdx.filterMap fun (shard, index) => shard.map (index, ·)

/-- The first shard in position order that is empty or differs in length from the one before it. -/
def checkSizes (previous : Option Nat) : List Bytes → Except Error Unit
  | [] => .ok ()
  | shard :: rest =>
    if shard.isEmpty then .error .emptyShard
    else if previous.any (· ≠ shard.length) then .error .incorrectShardSize
    else checkSizes (some shard.length) rest

/-- Fills in the missing data shards from the first `dataShardCount` shards that are there. -/
def reconstruct (shards : List (Option Bytes)) (dataShardCount : Nat) : Except Error (List (Option Bytes)) :=
  if maxTotalShards < shards.length then .error .tooManyShards
  else
    let known := present shards
    match checkSizes none (known.map (·.2)) with
    | .error err => .error err
    | .ok () =>
      let used := known.take dataShardCount
      let size := (used.head?.map (·.2.length)).getD 0
      .ok ((shards.take dataShardCount).zipIdx.map fun (shard, index) =>
        shard.or (some (interpolate size (used.map (·.1)) (used.map (·.2)) index)))

def decode (shards : List (Option Bytes)) (dataShardCount blobSize : Nat) : Except Error Bytes := do
  if dataShardCount = 0 then .error .noDataShards
  let available := (present shards).length
  if available < dataShardCount ∨ shards.length < dataShardCount then
    .error (.insufficientShards available dataShardCount)
  let dataShards ←
    if dataShardCount < shards.length then reconstruct shards dataShardCount else pure shards
  let held := (dataShards.filterMap id).flatten
  if held.length < blobSize then .error (.blobSizeTooLarge blobSize held.length)
  return held.take blobSize

end Availability.Erasure
