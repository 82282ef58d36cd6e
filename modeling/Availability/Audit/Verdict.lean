import Availability.Store

namespace Availability.Audit

structure Task where
  metadataUri : String
  shardDoubleHashes : List Digest
  parityShardCount : UInt64
  dataSourceInfo : String
deriving DecidableEq

namespace Task

def ofMessage? (message : Message) : Option Task :=
  message.publication?.map fun publication => {
    metadataUri := publication.metadataUri
    shardDoubleHashes := publication.shardDoubleHashes
    parityShardCount := publication.parityShardCount
    dataSourceInfo := publication.dataSourceInfo }

def shardCount (task : Task) : Nat := task.shardDoubleHashes.length

def dataShardCount? (task : Task) : Option Nat :=
  Availability.dataShardCount? task.shardCount task.parityShardCount.toNat

end Task

inductive FraudReason where
  | metadataUnavailable (error : Storage.Error)
  | invalidShardLayout (shardCount parityShardCount : Nat)
  | shardCountMismatch (committed listed : Nat)
  | parityCountMismatch (committed listed : Nat)
  | insufficientValidShards (valid required : Nat)
deriving DecidableEq

def FraudReason.message : FraudReason → String
  | .metadataUnavailable error => "metadata unavailable: " ++ error.message
  | .invalidShardLayout shardCount parityShardCount =>
    s!"{parityShardCount} parity shards leave no data shard out of {shardCount}"
  | .shardCountMismatch committed listed => s!"{committed} shards committed but {listed} listed in metadata"
  | .parityCountMismatch committed listed =>
    s!"{committed} parity shards committed but {listed} listed in metadata"
  | .insufficientValidShards valid required => s!"only {valid} shards verify, {required} required"

/-- Shards that were fetched and matched their commitment, in the order of their indices. -/
structure Evidence where
  shardCount : Nat
  validShards : List (Nat × Bytes)
deriving DecidableEq

namespace Evidence

def shard? (evidence : Evidence) (index : Nat) : Option Bytes :=
  (evidence.validShards.find? (·.1 == index)).map (·.2)

def isValid (evidence : Evidence) (index : Nat) : Bool := (evidence.shard? index).isSome

end Evidence

inductive Verdict where
  | fraud (reason : FraudReason) (evidence : Evidence)
  | valid (evidence : Evidence)
deriving DecidableEq

namespace Verdict

def evidence : Verdict → Evidence
  | .fraud _ evidence => evidence
  | .valid evidence => evidence

end Verdict

/-- Whether the metadata can describe what the task commits to, and how many shards must be valid. -/
def requirement (task : Task) (metadata : Metadata) : Except FraudReason Nat :=
  let committedParity := task.parityShardCount.toNat
  match task.dataShardCount? with
  | none => .error (.invalidShardLayout task.shardCount committedParity)
  | some required =>
    if metadata.shardCount ≠ task.shardCount then
      .error (.shardCountMismatch task.shardCount metadata.shardCount)
    else if metadata.parityShardCount ≠ task.parityShardCount then
      .error (.parityCountMismatch committedParity metadata.parityShardCount.toNat)
    else .ok required

def verified (task : Task) (fetched : List (Nat × Bytes)) : List (Nat × Bytes) :=
  fetched.filter fun (index, shard) => task.shardDoubleHashes[index]? = some (doubleHash shard)

def judge (task : Task) (required : Nat) (validShards : List (Nat × Bytes)) : Verdict :=
  let evidence : Evidence := ⟨task.shardCount, validShards⟩
  if validShards.length < required then
    .fraud (.insufficientValidShards validShards.length required) evidence
  else .valid evidence

/-- Decides from independently fetched bytes whether a commitment is backed by recoverable data. -/
def decide (store : Store) (task : Task) : Program Verdict := do
  let fraud (reason : FraudReason) : Verdict := .fraud reason ⟨task.shardCount, []⟩
  match ← (store.fetchMetadata task.metadataUri).run with
  | .error err => return fraud (.metadataUnavailable err)
  | .ok metadata =>
    match requirement task metadata with
    | .error reason => return fraud reason
    | .ok required =>
      match ← (store.fetchShards metadata.shardUris (List.range task.shardCount) .tolerate).run with
      | .error err => return fraud (.metadataUnavailable err)
      | .ok fetched => return judge task required (verified task fetched)

end Availability.Audit
