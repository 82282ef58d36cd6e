import Availability.Erasure
import Availability.Store

namespace Availability.Retrieve

inductive Error where
  | storage (error : Storage.Error)
  | invalidMetadata (shardCount parityShardCount : Nat)
  | insufficientShards (available required : Nat)
  | recoveredDataMismatch
  | codec (error : Erasure.Error)
deriving DecidableEq

def Error.message : Error → String
  | .storage error => error.message
  | .invalidMetadata shardCount parityShardCount =>
    s!"Metadata lists {shardCount} shards but {parityShardCount} parity shards"
  | .insufficientShards available required => s!"Not enough shards to reconstruct: {available} of {required}"
  | .recoveredDataMismatch => "Reconstructed data does not match its recovered data hash"
  | .codec error => "Erasure decoding failed: " ++ error.message

/-- The commitments on chain, if there are as many as the metadata lists shards. A failed query counts
as none. -/
def commitments (metadataUri : String) (shardCount : Nat) : Program (Option (List Digest)) := do
  match ← Program.ask (.publishedData metadataUri) with
  | .ok (some record) =>
    return if record.shardDoubleHashes.length = shardCount then some record.shardDoubleHashes else none
  | .ok none => return none
  | .error _ => return none

def matchesCommitment (commitments : Option (List Digest)) (index : Nat) (shard : Bytes) : Bool :=
  match commitments with
  | some digests => digests[index]? = some (doubleHash shard)
  | none => true

/-- The shards by position; those that miss their commitment count as missing. -/
def place (commitments : Option (List Digest)) (shardCount : Nat) (fetched : List (Nat × Bytes)) :
    List (Option Bytes) :=
  let usable := fetched.filter fun (index, shard) => matchesCommitment commitments index shard
  (List.range shardCount).map fun index => (usable.find? (·.1 == index)).map (·.2)

def rebuild (metadata : Metadata) (dataShardCount : Nat) (shards : List (Option Bytes)) : Except Error Bytes := do
  let available := (Erasure.present shards).length
  if available < dataShardCount then .error (.insufficientShards available dataShardCount)
  let blob ← (Erasure.decode shards dataShardCount metadata.recoveredDataSize.toNat).mapError .codec
  if recoveredDataHash blob ≠ metadata.recoveredDataHash then .error .recoveredDataMismatch
  return blob

def retrieve (store : Store) (metadataUri : String) : Attempt Error Bytes := do
  let metadata ← (store.fetchMetadata metadataUri).adapt .storage
  let shardCount := metadata.shardCount
  let some dataShardCount := metadata.dataShardCount?
    | throw (.invalidMetadata shardCount metadata.parityShardCount.toNat)
  let commitments ← ExceptT.lift (commitments metadataUri shardCount)
  let fetched ← (store.fetchShards metadata.shardUris (List.range shardCount) .tolerate).adapt .storage
  Attempt.ofExcept (rebuild metadata dataShardCount (place commitments shardCount fetched))

inductive HashKind where
  | single
  | double
deriving DecidableEq

def HashKind.ofName? : String → Option HashKind
  | "single" => some .single
  | "double" => some .double
  | _ => none

def HashKind.ofJson? (value : Json) : Option HashKind := value.bareAlternative?.bind ofName?

def HashKind.apply : HashKind → Bytes → Digest
  | .single => hash
  | .double => doubleHash

/-- `hashes[i]` belongs to shard `indices[i]`. -/
structure ShardHashes where
  shardSize : UInt64
  shardUris : List String
  indices : List Nat
  hashes : List Digest
deriving DecidableEq

/-- Hashes of the shards at the indices, in that order; indices past the last shard are skipped. -/
def shardHashes (store : Store) (metadataUri : String) (indices : List Nat) (kind : HashKind) :
    Attempt Error ShardHashes := do
  let metadata ← (store.fetchMetadata metadataUri).adapt .storage
  let requested := indices.filter (· < metadata.shardCount)
  let fetched ← (store.fetchShards metadata.shardUris requested .abort).adapt .storage
  return {
    shardSize := metadata.shardSize
    shardUris := metadata.shardUris
    indices := fetched.map (·.1)
    hashes := fetched.map fun (_, shard) => kind.apply shard }

end Availability.Retrieve
