import Availability.Chain
import Availability.Hex
import Availability.Table

namespace Availability.Chain

/-- A chain held in memory, which puts every broadcast into the block at the current height. -/
structure Ledger where
  params : Params
  proofThreshold : Nat := 2
  statusOnPublish : Status := .voteExtensionPassed
  published : Table Record := []
  deputies : Table String := []
  validityProofs : List (String × String) := []
  broadcasts : Array Message := #[]
  blocks : Array (UInt64 × Message) := #[]
  height : UInt64 := 0
  calls : Nat := 0

namespace Ledger

def record (ledger : Ledger) (record : Record) : Ledger :=
  { ledger with published := ledger.published.put record.metadataUri record }

def setStatus (ledger : Ledger) (metadataUri : String) (status : Status) : Ledger :=
  { ledger with published := ledger.published.adjust metadataUri fun record => { record with status } }

def pushMessage (ledger : Ledger) (height : UInt64) (message : Message) : Ledger :=
  { ledger with blocks := ledger.blocks.push (height, message) }

def blockMessages (ledger : Ledger) (height : UInt64) : List Message :=
  (ledger.blocks.toList.filter (·.1 == height)).map (·.2)

def transactionHash (count : Nat) : String := Hex.encode (hash (Bytes.littleEndian 8 count)).toBytes

def apply (ledger : Ledger) : Message → Ledger
  | .publishData publication =>
    ledger.record {
      metadataUri := publication.metadataUri
      shardDoubleHashes := publication.shardDoubleHashes
      parityShardCount := publication.parityShardCount
      dataSourceInfo := publication.dataSourceInfo
      status := ledger.statusOnPublish }
  | .submitValidityProof _ validator uri _ _ =>
    { ledger with validityProofs := (uri, validator) :: ledger.validityProofs }
  | .challengeForFraud .. | .submitInvalidity .. => ledger

def broadcast (ledger : Ledger) (message : Message) : String × Ledger :=
  let applied := (ledger.apply message).pushMessage ledger.height message
  (transactionHash ledger.broadcasts.size, { applied with broadcasts := applied.broadcasts.push message })

def answer (ledger : Ledger) (call : Call) : call.Answer × Ledger :=
  let ledger := { ledger with calls := ledger.calls + 1 }
  match call with
  | .params => (ledger.params, ledger)
  | .publishedData uri => (ledger.published.get? uri, ledger)
  | .proofThreshold shardCount => (min ledger.proofThreshold shardCount, ledger)
  | .proofDeputy validator => (ledger.deputies.get? validator, ledger)
  | .hasValidityProof uri validator => (ledger.validityProofs.contains (uri, validator), ledger)
  | .broadcast message => ledger.broadcast message
  | .latestHeight => (ledger.height, ledger)
  | .blockMessages height => (ledger.blockMessages height, ledger)

end Ledger

end Availability.Chain
