import Availability.Hex
import Availability.Publish
import Availability.Retrieve
import Availability.Utf8

/-! Commitments handed to rollups: a type byte, a version byte, and the metadata uri. -/

namespace Availability.Commitment

def genericType : UInt8 := 0x01

def version : UInt8 := 0x0c

inductive Error where
  | tooShort (length : Nat)
  | unknownType (byte : UInt8)
  | unknownVersion (byte : UInt8)
  | invalidUri
deriving DecidableEq

def Error.message : Error → String
  | .tooShort length => s!"Commitment too short: {length} bytes"
  | .unknownType byte => "Unknown commitment type 0x" ++ Hex.encode [byte]
  | .unknownVersion byte => "Unknown commitment version 0x" ++ Hex.encode [byte]
  | .invalidUri => "Commitment payload is not a valid uri"

def encode (metadataUri : String) : Bytes := genericType :: version :: Bytes.ofText metadataUri

def decode : Bytes → Except Error String
  | kind :: revision :: uri =>
    if kind ≠ genericType then .error (.unknownType kind)
    else if revision ≠ version then .error (.unknownVersion revision)
    else if uri.isEmpty then .error (.tooShort 2)
    else match Utf8.decode? uri with
      | some text => .ok text
      | none => .error .invalidUri
  | short => .error (.tooShort short.length)

end Availability.Commitment

namespace Availability.AltDa

structure Settings where
  dataShardCount : UInt64 := 4
  parityShardCount : UInt64 := 2
deriving DecidableEq

inductive Error where
  | commitment (error : Commitment.Error)
  | publish (error : Publish.Error)
  | retrieve (error : Retrieve.Error)
deriving DecidableEq

def Error.message : Error → String
  | .commitment error => error.message
  | .publish error => error.message
  | .retrieve error => error.message

def put (publisher : Publish.Publisher) (settings : Settings) (blob : Bytes) : Attempt Error Bytes := do
  let published ←
    (Publish.publish publisher blob settings.dataShardCount settings.parityShardCount
      Protocol.ipfs.tag).adapt .publish
  return Commitment.encode published.metadataUri

def get (store : Store) (commitment : Bytes) : Attempt Error Bytes := do
  let uri ← Attempt.ofExcept ((Commitment.decode commitment).mapError .commitment)
  (Retrieve.retrieve store uri).adapt .retrieve

end Availability.AltDa

/-! Batches of rollup blobs. The id of a blob is its metadata uri as bytes. -/

namespace Availability.Rollkit

def defaultMaxBlobSize : UInt64 := 64 * 64 * 500

structure Settings where
  dataShardCount : UInt64 := 4
  parityShardCount : UInt64 := 2
  maxBlobSize : UInt64 := defaultMaxBlobSize
deriving DecidableEq

inductive Error where
  | blobTooLarge (index size max : Nat)
  | invalidId (index : Nat)
  | publish (error : Publish.Error)
  | retrieve (error : Retrieve.Error)
deriving DecidableEq

def Error.message : Error → String
  | .blobTooLarge index size max => s!"Blob {index} is {size} bytes, the limit is {max}"
  | .invalidId index => s!"Blob id {index} is not a metadata uri"
  | .publish error => error.message
  | .retrieve error => error.message

def checkSizes (max : Nat) (index : Nat) : List Bytes → Except Error Unit
  | [] => .ok ()
  | blob :: rest =>
    if max < blob.length then .error (.blobTooLarge index blob.length max) else checkSizes max (index + 1) rest

def publishInOrder (publisher : Publish.Publisher) (settings : Settings) : List Bytes → Attempt Error (List Bytes)
  | [] => return []
  | blob :: rest => do
    let published ←
      (Publish.publish publisher blob settings.dataShardCount settings.parityShardCount Protocol.ipfs.tag).adapt
        .publish
    let ids ← publishInOrder publisher settings rest
    return Bytes.ofText published.metadataUri :: ids

/-- Publishes the blobs on ipfs in order, unless one of them is too large. -/
def submit (publisher : Publish.Publisher) (settings : Settings) (blobs : List Bytes) :
    Attempt Error (List Bytes) := do
  Attempt.ofExcept (checkSizes settings.maxBlobSize.toNat 0 blobs)
  publishInOrder publisher settings blobs

def getFrom (store : Store) (index : Nat) : List Bytes → Attempt Error (List Bytes)
  | [] => return []
  | id :: rest => do
    let some uri := Utf8.decode? id | throw (.invalidId index)
    let blob ← (Retrieve.retrieve store uri).adapt .retrieve
    let blobs ← getFrom store (index + 1) rest
    return blob :: blobs

def get (store : Store) (ids : List Bytes) : Attempt Error (List Bytes) := getFrom store 0 ids

end Availability.Rollkit

namespace Availability

structure Node where
  publisher : Publish.Publisher
  altDa : AltDa.Settings := {}
  rollkit : Rollkit.Settings := {}

def Node.store (node : Node) : Store := node.publisher.store

end Availability
