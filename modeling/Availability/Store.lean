import Availability.Indexed
import Availability.Program
import Availability.Record

namespace Availability

structure Store where
  registry : Storage.Registry
  retrieveTimeout : Duration := .ofSeconds 60

namespace Store

open Storage (Error)

/-- Uploads all shards at the same time. The uris are in shard order, and one failed upload fails the call. -/
def publishShards (store : Store) (protocol : Protocol) (shards : List Bytes) : Attempt Error (List String) := do
  let protocol ← Attempt.ofExcept (store.registry.backend protocol)
  let answers ← ExceptT.lift (Program.storeAll protocol shards .done)
  let uris ← Attempt.ofExcept (Indexed.join .abort (answers.zipIdx.map fun (answer, index) => (index, answer)))
  return uris.map (·.2)

def publishMetadata (store : Store) (protocol : Protocol) (metadata : Metadata) : Attempt Error String := do
  let protocol ← Attempt.ofExcept (store.registry.backend protocol)
  let bytes ← Attempt.ofExcept (metadata.toBytes.mapError .wire)
  ExceptT.mk (.perform (.store protocol bytes) .done)

def retrieve (store : Store) (uri : String) : Attempt Error Bytes := do
  let protocol ← Attempt.ofExcept (store.registry.backendForUri uri)
  ExceptT.mk (.perform (.retrieve protocol uri store.retrieveTimeout) .done)

def fetchMetadata (store : Store) (uri : String) : Attempt Error Metadata := do
  let bytes ← store.retrieve uri
  Attempt.ofExcept ((Metadata.ofBytes bytes).mapError .wire)

def locate (shardUris : List String) : List Nat → Except Error (List (Nat × String))
  | [] => .ok []
  | index :: rest =>
    match shardUris[index]? with
    | some uri => (locate shardUris rest).map ((index, uri) :: ·)
    | none => .error (.notFound s!"shard {index}")

/-- Fetches shards at the same time, in the order of the indices. Tolerated failures are left out. -/
def fetchShards (store : Store) (shardUris : List String) (indices : List Nat) (policy : Indexed.Policy) :
    Attempt Error (List (Nat × Bytes)) := do
  let located ← Attempt.ofExcept (locate shardUris indices)
  let targets := located.map fun (_, uri) => (store.registry.backendForUri uri).map (·, uri)
  let answers ← ExceptT.lift (Program.retrieveAll targets store.retrieveTimeout .done)
  Attempt.ofExcept (Indexed.join policy (indices.zip answers))

def connectSource (store : Store) (uri source : String) : Attempt Error Unit := do
  if source.isEmpty then return ()
  let protocol ← Attempt.ofExcept (store.registry.backendForUri uri)
  ExceptT.mk (.perform (.dial protocol source) .done)

end Store

end Availability
