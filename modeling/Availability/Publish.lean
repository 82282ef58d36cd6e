import Availability.Bytes
import Availability.Erasure
import Availability.Store

namespace Availability.Publish

inductive Error where
  | storage (error : Storage.Error)
  | chain (error : Chain.Error)
  | noDataShards
  | shardCountOutOfBounds (total min max : Nat)
  | shardSizeExceeded (shardSize max : Nat)
  | codec (error : Erasure.Error)
deriving DecidableEq

def Error.message : Error → String
  | .storage error => error.message
  | .chain error => error.message
  | .noDataShards => "Data shard count must be positive"
  | .shardCountOutOfBounds total min max => s!"Shard count {total} is outside the allowed range [{min}, {max}]"
  | .shardSizeExceeded shardSize max => s!"Shard size {shardSize} exceeds the maximum of {max}"
  | .codec error => "Erasure coding failed: " ++ error.message

structure Publisher where
  store : Store
  sender : String
  /-- An address auditors can dial to reach the publisher's storage node. -/
  dataSourceInfo : String := ""

structure Published where
  transactionHash : String
  metadataUri : String
deriving DecidableEq

def checkShardCount (params : Chain.Params) (dataShardCount parityShardCount : UInt64) : Except Error Unit :=
  let max := Nat.min params.maxShardCount.toNat Erasure.maxTotalShards
  let total := (Word.saturatingAdd dataShardCount parityShardCount).toNat
  if total < params.minShardCount.toNat ∨ max < total then
    .error (.shardCountOutOfBounds total params.minShardCount.toNat max)
  else .ok ()

def encode (params : Chain.Params) (blob : Bytes) (dataShardCount parityShardCount : UInt64) :
    Except Error Erasure.Encoded := do
  checkShardCount params dataShardCount parityShardCount
  let encoded ← (Erasure.encode blob dataShardCount.toNat parityShardCount.toNat).mapError .codec
  if params.maxShardSize.toNat < encoded.shardSize then
    .error (.shardSizeExceeded encoded.shardSize params.maxShardSize.toNat)
  return encoded

/-- Stores the shards, then the metadata, and only then commits to both on chain. Nothing is written
anywhere until every check has passed. -/
def publish (publisher : Publisher) (blob : Bytes) (dataShardCount parityShardCount : UInt64)
    (protocolTag : String) : Attempt Error Published := do
  let protocol ← Attempt.ofExcept ((Storage.protocolOfTag protocolTag).mapError .storage)
  let _ ← Attempt.ofExcept ((publisher.store.registry.backend protocol).mapError .storage)
  if dataShardCount = 0 then throw .noDataShards
  let params ← Attempt.orFail (Program.ask .params) .chain
  let encoded ← Attempt.ofExcept (encode params blob dataShardCount parityShardCount)
  let shardUris ← (publisher.store.publishShards protocol encoded.shards).adapt .storage
  let metadata : Metadata := {
    shardSize := UInt64.ofNat encoded.shardSize
    parityShardCount
    recoveredDataHash := recoveredDataHash blob
    recoveredDataSize := UInt64.ofNat blob.length
    shardUris }
  let metadataUri ← (publisher.store.publishMetadata protocol metadata).adapt .storage
  let publication : Publication := {
    sender := publisher.sender
    metadataUri
    parityShardCount
    shardDoubleHashes := encoded.shards.map doubleHash
    dataSourceInfo := publisher.dataSourceInfo }
  let transactionHash ← Attempt.orFail (Program.ask (.broadcast (.publishData publication))) .chain
  return ⟨transactionHash, metadataUri⟩

end Availability.Publish
