import Availability.Client
import Availability.Storage
import Availability.Url.Reader

/-! The storage networks behind the services that give access to them. -/

namespace Availability.Client

def unread (fault : Fault) : Storage.Error := .request fault.message

def accept (target : String) : Except Fault Response → Except Storage.Error Response
  | .error fault => .error (unread fault)
  | .ok response =>
    match response.status with
    | 200 => .ok response
    | 404 => .error (.notFound target)
    | _ => .error (.backend response.unexpected)

def readStored (protocol : Protocol) (name target : String) (reply : Except Fault Response) :
    Except Storage.Error String := do
  let response ← accept target reply
  let id ← (response.member name Json.toText?).mapError unread
  return protocol.uriFor id

def readObject (uri : String) (reply : Except Fault Response) : Except Storage.Error Bytes :=
  (accept uri reply).map (·.body)

def askAt {α : Type} (url : Except Storage.Error Url) (request : Url → Request)
    (read : Except Fault Response → Except Storage.Error α) : Exchange Storage.Error α :=
  match url with
  | .ok url => .ask (request url) read
  | .error err => .settled (.error err)

def joined (base : Url) (reference : String) : Except Storage.Error Url :=
  (base.join reference).mapError fun err => .url err.message

namespace Ipfs

variable (settings : IpfsSettings)

def endpoint (path : String) (query : List (String × String)) : Except Storage.Error Url :=
  (joined settings.apiUrl path).map (·.withPairs query)

def store (object : Bytes) : Exchange Storage.Error String :=
  askAt (endpoint settings "api/v0/add" [("pin", "true"), ("cid-version", "1")])
    (fun url => { method := .post, url, payload := .file "file" "data" object })
    (readStored .ipfs "Hash" "api/v0/add")

def retrieve (uri : String) : Exchange Storage.Error Bytes :=
  askAt (do endpoint settings "api/v0/cat" [("arg", ← Storage.objectId .ipfs uri)])
    (fun url => { method := .post, url }) (readObject uri)

def dial (source : String) : Exchange Storage.Error Unit :=
  askAt (endpoint settings "api/v0/swarm/connect" [("arg", source)])
    (fun url => { method := .post, url }) fun reply => (accept source reply).map fun _ => ()

end Ipfs

namespace Arweave

variable (settings : ArweaveSettings)

def store (object : Bytes) : Exchange Storage.Error String :=
  .ask { method := .post, url := settings.uploadUrl, bearer := settings.apiKey, payload := .octets object }
    (readStored .arweave "id" settings.uploadUrl.toText)

def retrieve (uri : String) : Exchange Storage.Error Bytes :=
  askAt (do joined settings.gatewayUrl (← Storage.objectId .arweave uri))
    (fun url => { method := .get, url }) (readObject uri)

def dial (_source : String) : Exchange Storage.Error Unit := .settled (.ok ())

end Arweave

inductive Network where
  | ipfs (settings : IpfsSettings)
  | arweave (settings : ArweaveSettings)

namespace Network

def protocol : Network → Protocol
  | .ipfs _ => .ipfs
  | .arweave _ => .arweave

def store : Network → Bytes → Exchange Storage.Error String
  | .ipfs settings => Ipfs.store settings
  | .arweave settings => Arweave.store settings

def retrieve : Network → String → Exchange Storage.Error Bytes
  | .ipfs settings => Ipfs.retrieve settings
  | .arweave settings => Arweave.retrieve settings

def dial : Network → String → Exchange Storage.Error Unit
  | .ipfs settings => Ipfs.dial settings
  | .arweave _ => Arweave.dial

end Network

end Availability.Client
