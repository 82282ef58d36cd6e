import Availability.Chain
import Availability.Client
import Availability.Url.Reader

/-! The chain behind a gateway, which signs what is broadcast for the account that it comes from. -/

namespace Availability.Client.Gateway

def readReply {α : Type} (value? : Bytes → Option α) :
    Except Fault Response → Except Chain.Error (Option α)
  | .error fault => .error (.transport fault.message)
  | .ok response =>
    match response.status with
    | 200 =>
      match value? (Bytes.ofText response.text) with
      | some value => .ok (some value)
      | none => .error (.query "Failed to parse response:")
    | 404 => .ok none
    | 400 | 422 => .error (.rejected response.text)
    | 500 => .error (.query response.text)
    | _ => .error (.query response.unexpected)

variable (settings : GatewaySettings)

def exchange {α : Type} (path : String) (request : Url → Request)
    (read : Except Fault Response → Except Chain.Error α) : Exchange Chain.Error α :=
  match settings.url.join path with
  | .ok url => .ask (request url) read
  | .error err => .settled (.error (.transport err.message))

def present {α : Type} (what : String) : Except Chain.Error (Option α) → Except Chain.Error α
  | .ok (some value) => .ok value
  | .ok none => .error (.query (what ++ " returned no content"))
  | .error err => .error err

def getOptional {α : Type} (path : String) (query : List (String × String)) (value? : Bytes → Option α) :
    Exchange Chain.Error (Option α) :=
  exchange settings path (fun url => { method := .get, url := url.withPairs query }) (readReply value?)

def get {α : Type} (path : String) (query : List (String × String)) (value? : Bytes → Option α) :
    Exchange Chain.Error α :=
  exchange settings path (fun url => { method := .get, url := url.withPairs query })
    fun reply => present ("/" ++ path) (readReply value? reply)

def params? (bytes : Bytes) : Option Chain.Params :=
  (Json.structure? Chain.Params.fieldNames bytes).bind Chain.Params.ofJson?

def record? (bytes : Bytes) : Option Record :=
  (Json.structure? Record.fieldNames bytes).bind (Record.ofJson? .numbers)

/-- Messages are read in full, what they do not need included. -/
def messages? (bytes : Bytes) : Option (List Message) :=
  (Json.document? bytes).bind (Json.toList? (Message.ofJson? .numbers))

def broadcastFrom (sender : String) (message : Message) : Exchange Chain.Error String :=
  let body := Json.object
    [("from", .text sender), ("fees", .text settings.fees), ("message", message.toJson .numbers)]
  exchange settings "tx/broadcast" (fun url => { method := .post, url, payload := .json body })
    fun reply => present "broadcast" (readReply (Json.soleMember? "tx_hash" Json.toText?) reply)

def call : (call : Chain.Call) → Exchange Chain.Error call.Answer
  | .params => get settings "da/params" [] params?
  | .publishedData uri =>
    getOptional settings "da/published_data" [("metadata_uri", uri)] record?
  | .proofThreshold shardCount =>
    get settings "da/proof_threshold" [("shard_count", toString shardCount)] (Json.soleMember? "threshold" Json.toWord?)
  | .proofDeputy validator =>
    getOptional settings "da/proof_deputy" [("validator", validator)] (Json.soleMember? "deputy" Json.toText?)
  | .hasValidityProof uri validator =>
    (getOptional settings "da/validity_proof" [("metadata_uri", uri), ("validator", validator)]
      (Json.soleMember? "exists" Json.toBool?)).map (·.getD false)
  | .broadcast message => broadcastFrom settings message.sender message
  | .latestHeight => get settings "status" [] (Json.soleMember? "latest_block_height" Json.word?)
  | .blockMessages height =>
    (getOptional settings "da/block_messages" [("height", toString height.toNat)]
      messages?).map (·.getD [])

end Availability.Client.Gateway
