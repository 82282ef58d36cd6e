import Availability.Json.Fields
import Availability.Wire

namespace Availability

/-- How many of `total` shards hold data, when at least one does. -/
def dataShardCount? (total parity : Nat) : Option Nat :=
  if parity < total then some (total - parity) else none

/-- The directory record stored beside the shards: `shardUris[i]` locates shard `i`. -/
structure Metadata where
  shardSize : UInt64
  parityShardCount : UInt64
  recoveredDataHash : Digest
  recoveredDataSize : UInt64
  shardUris : List String
deriving DecidableEq

namespace Metadata

def shardCount (metadata : Metadata) : Nat := metadata.shardUris.length

def dataShardCount? (metadata : Metadata) : Option Nat :=
  Availability.dataShardCount? metadata.shardCount metadata.parityShardCount.toNat

open Wire.Format in
def format : Wire.Format Metadata :=
  (pair word (pair word (pair digest (pair word (list text))))).map
    (fun (shardSize, parityShardCount, recoveredDataHash, recoveredDataSize, shardUris) =>
      ⟨shardSize, parityShardCount, recoveredDataHash, recoveredDataSize, shardUris⟩)
    (fun m => (m.shardSize, m.parityShardCount, m.recoveredDataHash, m.recoveredDataSize, m.shardUris))

def toBytes (metadata : Metadata) : Except Wire.Error Bytes := format.serialize metadata

def ofBytes (bytes : Bytes) : Except Wire.Error Metadata := format.deserialize bytes

end Metadata

inductive Status where
  | pending
  | voteExtensionPassed
  | challenging
  | resolved
deriving DecidableEq

namespace Status

def all : List Status := [.pending, .voteExtensionPassed, .challenging, .resolved]

def name : Status → String
  | .pending => "pending"
  | .voteExtensionPassed => "vote_extension_passed"
  | .challenging => "challenging"
  | .resolved => "resolved"

def ofName? (name : String) : Option Status := all.find? (·.name == name)

def ofJson? (value : Json) : Option Status := value.bareAlternative?.bind ofName?

/-- Records are only audited once the vote extension period is over. -/
def auditable : Status → Bool
  | .voteExtensionPassed | .challenging => true
  | .pending | .resolved => false

end Status

structure Record where
  metadataUri : String
  shardDoubleHashes : List Digest
  parityShardCount : UInt64
  dataSourceInfo : String
  status : Status
deriving DecidableEq

structure ByteNotation where
  write : Bytes → Json
  read? : Json → Option Bytes

namespace ByteNotation

def numbers : ByteNotation := ⟨Json.ofBytes, Json.bytes?⟩

def digest? (bytes : ByteNotation) (value : Json) : Option Digest := (bytes.read? value).bind Digest.ofBytes?

def digests (bytes : ByteNotation) (items : List Digest) : Json :=
  .list (items.map fun digest => bytes.write digest.toBytes)

def digests? (bytes : ByteNotation) : Json → Option (List Digest) := Json.toList? bytes.digest?

end ByteNotation

namespace Record

def dataShardCount? (record : Record) : Option Nat :=
  Availability.dataShardCount? record.shardDoubleHashes.length record.parityShardCount.toNat

def fieldNames : List String :=
  ["metadata_uri", "shard_double_hashes", "parity_shard_count", "data_source_info", "status"]

def ofJson? (bytes : ByteNotation) (value : Json) : Option Record := do
  let fields ← value.fields? fieldNames
  return {
    metadataUri := ← fields.required "metadata_uri" Json.toText?
    shardDoubleHashes := ← fields.required "shard_double_hashes" bytes.digests?
    parityShardCount := ← fields.required "parity_shard_count" Json.word?
    dataSourceInfo := ← fields.required "data_source_info" Json.toText?
    status := ← fields.required "status" Status.ofJson? }

def toJson (bytes : ByteNotation) (record : Record) : Json :=
  .object [
    ("metadata_uri", .text record.metadataUri),
    ("shard_double_hashes", bytes.digests record.shardDoubleHashes),
    ("parity_shard_count", Json.ofWord record.parityShardCount),
    ("data_source_info", .text record.dataSourceInfo),
    ("status", .text record.status.name)]

end Record

end Availability
