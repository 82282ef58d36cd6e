import Availability.Record

namespace Availability

abbrev Proof := Bytes

structure Publication where
  sender : String
  metadataUri : String
  parityShardCount : UInt64
  shardDoubleHashes : List Digest
  dataSourceInfo : String
deriving DecidableEq

inductive Message where
  | publishData (publication : Publication)
  | challengeForFraud (sender metadataUri : String)
  | submitInvalidity (sender metadataUri : String) (indices : List Nat)
  | submitValidityProof (sender validatorAddress metadataUri : String) (indices : List Nat)
      (proofs : List Proof)
deriving DecidableEq

namespace Message

def metadataUri : Message → String
  | .publishData publication => publication.metadataUri
  | .challengeForFraud _ uri => uri
  | .submitInvalidity _ uri _ => uri
  | .submitValidityProof _ _ uri _ _ => uri

def sender : Message → String
  | .publishData publication => publication.sender
  | .challengeForFraud sender _ => sender
  | .submitInvalidity sender _ _ => sender
  | .submitValidityProof sender _ _ _ _ => sender

def publication? : Message → Option Publication
  | .publishData publication => some publication
  | _ => none

def typeTag : Message → String
  | .publishData _ => "publish_data"
  | .challengeForFraud .. => "challenge_for_fraud"
  | .submitInvalidity .. => "submit_invalidity"
  | .submitValidityProof .. => "submit_validity_proof"

def members (bytes : ByteNotation) : Message → List (String × Json)
  | .publishData publication => [
      ("sender", .text publication.sender),
      ("metadata_uri", .text publication.metadataUri),
      ("parity_shard_count", Json.ofWord publication.parityShardCount),
      ("shard_double_hashes", bytes.digests publication.shardDoubleHashes),
      ("data_source_info", .text publication.dataSourceInfo)]
  | .challengeForFraud sender uri => [("sender", .text sender), ("metadata_uri", .text uri)]
  | .submitInvalidity sender uri indices =>
    [("sender", .text sender), ("metadata_uri", .text uri), ("indices", Json.nats indices)]
  | .submitValidityProof sender validator uri indices proofs => [
      ("sender", .text sender),
      ("validator_address", .text validator),
      ("metadata_uri", .text uri),
      ("indices", Json.nats indices),
      ("proofs", .list (proofs.map bytes.write))]

/-- The type tag comes first, and any order is read. -/
def toJson (bytes : ByteNotation) (message : Message) : Json :=
  .object (("type", .text message.typeTag) :: message.members bytes)

def ofFields? (bytes : ByteNotation) (typeTag : String) (body : Json) : Option Message :=
  match typeTag with
  | "publish_data" => do
    let fields ← body.fields?
      ["sender", "metadata_uri", "parity_shard_count", "shard_double_hashes", "data_source_info"]
    return .publishData {
      sender := ← fields.required "sender" Json.toText?
      metadataUri := ← fields.required "metadata_uri" Json.toText?
      parityShardCount := ← fields.required "parity_shard_count" Json.word?
      shardDoubleHashes := ← fields.required "shard_double_hashes" bytes.digests?
      dataSourceInfo := ← fields.required "data_source_info" Json.toText? }
  | "challenge_for_fraud" => do
    let fields ← body.fields? ["sender", "metadata_uri"]
    return .challengeForFraud (← fields.required "sender" Json.toText?)
      (← fields.required "metadata_uri" Json.toText?)
  | "submit_invalidity" => do
    let fields ← body.fields? ["sender", "metadata_uri", "indices"]
    return .submitInvalidity (← fields.required "sender" Json.toText?)
      (← fields.required "metadata_uri" Json.toText?)
      (← fields.required "indices" (Json.toList? Json.toWord?))
  | "submit_validity_proof" => do
    let fields ← body.fields? ["sender", "validator_address", "metadata_uri", "indices", "proofs"]
    return .submitValidityProof (← fields.required "sender" Json.toText?)
      (← fields.required "validator_address" Json.toText?)
      (← fields.required "metadata_uri" Json.toText?)
      (← fields.required "indices" (Json.toList? Json.toWord?))
      (← fields.required "proofs" (Json.toList? bytes.read?))
  | _ => none

/-- An object with its type tag among its members, or a list that starts with the tag. -/
def ofJson? (bytes : ByteNotation) : Json → Option Message
  | .object members =>
    match members.filter (·.1 == "type") with
    | [(_, .text typeTag)] => ofFields? bytes typeTag (.object (members.filter (·.1 != "type")))
    | _ => none
  | .list (.text typeTag :: values) => ofFields? bytes typeTag (.list values)
  | _ => none

end Message

end Availability
