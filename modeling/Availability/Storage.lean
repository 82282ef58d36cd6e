import Availability.Duration
import Availability.Json.Fields
import Availability.Wire

namespace Availability

inductive Protocol where
  | ipfs
  | arweave
deriving DecidableEq

namespace Protocol

def all : List Protocol := [.ipfs, .arweave]

def tag : Protocol → String
  | .ipfs => "ipfs"
  | .arweave => "arweave"

def scheme : Protocol → String
  | .ipfs => "ipfs://"
  | .arweave => "ar://"

def ofTag? (tag : String) : Option Protocol := all.find? (·.tag == tag)

def ofJson? (value : Json) : Option Protocol := value.bareAlternative?.bind ofTag?

def uriFor (protocol : Protocol) (id : String) : String := protocol.scheme ++ id

def afterScheme? (scheme uri : String) : Option String :=
  if scheme.toList.isPrefixOf uri.toList then some (String.ofList (uri.toList.drop scheme.length)) else none

def ofUri? (uri : String) : Option Protocol := all.find? fun protocol => (afterScheme? protocol.scheme uri).isSome

def objectId? (protocol : Protocol) (uri : String) : Option String :=
  (afterScheme? protocol.scheme uri).filter (· ≠ "")

end Protocol

end Availability

namespace Availability.Storage

inductive Error where
  | unsupportedProtocol (text : String)
  | backendUnavailable (protocol : Protocol)
  | invalidUri (uri : String)
  | notFound (target : String)
  | timeout (uri : String) (limit : Duration)
  | backend (reason : String)
  | request (reason : String)
  | url (reason : String)
  | wire (error : Wire.Error)
  | worker
deriving DecidableEq

def Error.message : Error → String
  | .unsupportedProtocol text => "Unsupported protocol: " ++ text
  | .backendUnavailable protocol => "No backend configured for " ++ protocol.tag
  | .invalidUri uri => "Invalid uri: " ++ uri
  | .notFound target => "Object not found: " ++ target
  | .timeout uri limit => s!"Retrieving {uri} timed out after {limit.describe}"
  | .backend reason => "Backend error: " ++ reason
  | .request reason => reason
  | .url reason => reason
  | .wire error => error.message
  | .worker => "Storage worker failed"

def protocolOfTag (tag : String) : Except Error Protocol :=
  match Protocol.ofTag? tag with
  | some protocol => .ok protocol
  | none => .error (.unsupportedProtocol tag)

def protocolOfUri (uri : String) : Except Error Protocol :=
  match Protocol.ofUri? uri with
  | some protocol => .ok protocol
  | none => .error (.unsupportedProtocol uri)

def objectId (protocol : Protocol) (uri : String) : Except Error String :=
  match protocol.objectId? uri with
  | some id => .ok id
  | none => .error (.invalidUri uri)

abbrev Registry := List Protocol

namespace Registry

def backend (registry : Registry) (protocol : Protocol) : Except Error Protocol :=
  if protocol ∈ registry then .ok protocol else .error (.backendUnavailable protocol)

def backendForUri (registry : Registry) (uri : String) : Except Error Protocol := do
  registry.backend (← protocolOfUri uri)

end Registry

end Availability.Storage
