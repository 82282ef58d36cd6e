import Availability.Message

namespace Availability.Chain

structure Params where
  minShardCount : UInt64
  maxShardCount : UInt64
  maxShardSize : UInt64
deriving DecidableEq

def Params.fieldNames : List String := ["min_shard_count", "max_shard_count", "max_shard_size"]

def Params.ofJson? (value : Json) : Option Params := do
  let fields ← value.fields? fieldNames
  return {
    minShardCount := ← fields.required "min_shard_count" Json.word?
    maxShardCount := ← fields.required "max_shard_count" Json.word?
    maxShardSize := ← fields.required "max_shard_size" Json.word? }

def Params.toJson (params : Params) : Json :=
  .object [
    ("min_shard_count", Json.ofWord params.minShardCount),
    ("max_shard_count", Json.ofWord params.maxShardCount),
    ("max_shard_size", Json.ofWord params.maxShardSize)]

inductive Error where
  | query (reason : String)
  | rejected (reason : String)
  | transport (reason : String)
deriving DecidableEq

def Error.message : Error → String
  | .query reason => "Chain query failed: " ++ reason
  | .rejected reason => "Transaction rejected: " ++ reason
  | .transport reason => reason

inductive Method where
  | params
  | publishedData
  | proofThreshold
  | proofDeputy
  | hasValidityProof
  | broadcast
  | latestHeight
  | blockMessages
deriving DecidableEq

inductive Call where
  | params
  | publishedData (metadataUri : String)
  /-- How many shards a validator must prove for a record of that many shards. -/
  | proofThreshold (shardCount : Nat)
  | proofDeputy (validator : String)
  | hasValidityProof (metadataUri validator : String)
  | broadcast (message : Message)
  | latestHeight
  | blockMessages (height : UInt64)
deriving DecidableEq

namespace Call

def method : Call → Method
  | .params => .params
  | .publishedData _ => .publishedData
  | .proofThreshold _ => .proofThreshold
  | .proofDeputy _ => .proofDeputy
  | .hasValidityProof .. => .hasValidityProof
  | .broadcast _ => .broadcast
  | .latestHeight => .latestHeight
  | .blockMessages _ => .blockMessages

abbrev Answer : Call → Type
  | .params => Params
  | .publishedData _ => Option Record
  | .proofThreshold _ => Nat
  | .proofDeputy _ => Option String
  | .hasValidityProof .. => Bool
  | .broadcast _ => String
  | .latestHeight => UInt64
  | .blockMessages _ => List Message

end Call

end Availability.Chain
