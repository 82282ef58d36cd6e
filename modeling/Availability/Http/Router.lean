import Availability.Base64
import Availability.Http.Input
import Availability.Rollup

namespace Availability.Http.Status

/-- Requests that name what there is not are at fault themselves. -/
def ofStorage : Storage.Error → Nat
  | .unsupportedProtocol _ | .backendUnavailable _ | .invalidUri _ => 400
  | .notFound _ => 404
  | _ => 500

def ofPublish : Publish.Error → Nat
  | .storage error => ofStorage error
  | .noDataShards | .shardCountOutOfBounds .. | .shardSizeExceeded .. => 400
  | _ => 500

def ofRetrieve : Retrieve.Error → Nat
  | .storage error => ofStorage error
  | _ => 500

def ofAltDa : AltDa.Error → Nat
  | .commitment _ => 400
  | .publish error => ofPublish error
  | .retrieve error => ofRetrieve error

def ofRollkit : Rollkit.Error → Nat
  | .blobTooLarge .. | .invalidId _ => 400
  | .publish error => ofPublish error
  | .retrieve error => ofRetrieve error

end Availability.Http.Status

namespace Availability.Http

inductive Route where
  | welcome
  | publish
  | publishFile
  | blob
  | shardHashes
  | putCommitment
  | getCommitment (segment : String)
  | submitBatch
  | getBatch
  | maxBlobSize
deriving DecidableEq

namespace Route

def fixed : List (String × Route) := [
  ("/api", .welcome),
  ("/api/publish", .publish),
  ("/api/publish_file", .publishFile),
  ("/api/get_blob", .blob),
  ("/api/shard_hashes", .shardHashes),
  ("/put", .putCommitment),
  ("/rollkit/submit", .submitBatch),
  ("/rollkit/get", .getBatch),
  ("/rollkit/max_blob_size", .maxBlobSize)]

def ofPath? (path : String) : Option Route :=
  match fixed.lookup path with
  | some route => some route
  | none =>
    match path.toList with
    | '/' :: 'g' :: 'e' :: 't' :: '/' :: segment =>
      if segment.isEmpty || segment.contains '/' then none else some (.getCommitment (String.ofList segment))
    | _ => none

def isPost : Route → Bool
  | .publish | .publishFile | .putCommitment | .submitBatch | .getBatch => true
  | .welcome | .blob | .shardHashes | .getCommitment _ | .maxBlobSize => false

def accepts (route : Route) (method : String) : Bool :=
  if route.isPost then method == "POST" else method == "GET" || method == "HEAD"

end Route

def respond {ε α : Type} (attempt : Attempt ε α) (status : ε → Nat) (message : ε → String)
    (response : α → Response) : Program Response := do
  match ← attempt.run with
  | .ok value => return response value
  | .error err => return .text (status err) (message err)

def withInput {α : Type} (input : Except Response α) (next : α → Program Response) : Program Response :=
  match input with
  | .ok value => next value
  | .error response => return response

def decodeBase64 (what text : String) : Except Response Bytes :=
  (Base64.decode (Bytes.ofText text)).mapError fun err => .text 400 s!"{what} is not valid base64: {err.message}"

namespace Handler

def publishedJson (published : Publish.Published) : Json :=
  .object [("tx_hash", .text published.transactionHash), ("metadata_uri", .text published.metadataUri)]

def publishBlob (node : Node) (blob : Bytes) (dataShardCount parityShardCount : UInt64) (protocol : String) :
    Program Response :=
  respond (Publish.publish node.publisher blob dataShardCount parityShardCount protocol) Status.ofPublish
    Publish.Error.message fun published => .json (publishedJson published)

def publish (node : Node) (request : Request) : Program Response :=
  withInput (Input.publication request) fun publication =>
    withInput (decodeBase64 "Blob" publication.blob) fun blob =>
      publishBlob node blob publication.dataShardCount publication.parityShardCount publication.protocol

def publishFile (node : Node) (request : Request) : Program Response :=
  withInput (Input.upload request) fun upload =>
    publishBlob node upload.file upload.dataShardCount upload.parityShardCount upload.protocol

def blob (node : Node) (request : Request) : Program Response :=
  withInput (Input.metadataUri request) fun uri =>
    respond (Retrieve.retrieve node.store uri) Status.ofRetrieve Retrieve.Error.message fun blob =>
      .json (.object [("blob", .text (Base64.encode blob))])

def shardHashesJson (answer : Retrieve.ShardHashes) : Json :=
  .object [
    ("shard_size", Json.ofWord answer.shardSize),
    ("shard_uris", Json.texts answer.shardUris),
    ("shard_hashes", Json.texts (answer.hashes.map fun digest => Base64.encode digest.toBytes))]

def shardHashes (node : Node) (request : Request) : Program Response :=
  withInput (Input.spotCheck request) fun check =>
    respond (Retrieve.shardHashes node.store check.metadataUri check.indices check.kind) Status.ofRetrieve
      Retrieve.Error.message fun answer => .json (shardHashesJson answer)

def putCommitment (node : Node) (request : Request) : Program Response :=
  withInput (Input.body request) fun blob =>
    respond (AltDa.put node.publisher node.altDa blob) Status.ofAltDa AltDa.Error.message .octets

def getCommitment (node : Node) (segment : String) : Program Response :=
  withInput (Input.segment segment) fun digits =>
    let commitment : Except Response Bytes := (Hex.decode (Bytes.ofText digits)).mapError fun err =>
      .text 400 s!"Commitment is not valid hex: {err.message}"
    withInput commitment fun commitment =>
      respond (AltDa.get node.store commitment) Status.ofAltDa AltDa.Error.message .octets

def encodedJson (name : String) (items : List Bytes) : Json :=
  .object [(name, Json.texts (items.map Base64.encode))]

def submitBatch (node : Node) (request : Request) : Program Response :=
  withInput (Input.texts request "blobs") fun texts =>
    withInput (texts.mapM (decodeBase64 "Blob")) fun blobs =>
      respond (Rollkit.submit node.publisher node.rollkit blobs) Status.ofRollkit Rollkit.Error.message fun ids =>
        .json (encodedJson "ids" ids)

def getBatch (node : Node) (request : Request) : Program Response :=
  withInput (Input.texts request "ids") fun texts =>
    withInput (texts.mapM (decodeBase64 "Blob id")) fun ids =>
      respond (Rollkit.get node.store ids) Status.ofRollkit Rollkit.Error.message fun blobs =>
        .json (encodedJson "blobs" blobs)

def maxBlobSize (node : Node) : Program Response :=
  return .json (.object [("max_blob_size", Json.ofWord node.rollkit.maxBlobSize)])

end Handler

namespace Route

def handle (node : Node) (request : Request) : Route → Program Response
  | .welcome => return .text 200 "Kestrel DA node api"
  | .publish => Handler.publish node request
  | .publishFile => Handler.publishFile node request
  | .blob => Handler.blob node request
  | .shardHashes => Handler.shardHashes node request
  | .putCommitment => Handler.putCommitment node request
  | .getCommitment segment => Handler.getCommitment node segment
  | .submitBatch => Handler.submitBatch node request
  | .getBatch => Handler.getBatch node request
  | .maxBlobSize => Handler.maxBlobSize node

end Route

structure Router where
  allowOrigin : String
deriving DecidableEq

namespace Router

inductive Error where
  | invalidOrigin (origin : String)
deriving DecidableEq

def Error.message : Error → String
  | .invalidOrigin origin => "Invalid cors origin " ++ origin

def isHeaderValue (text : String) : Bool := text.all fun c => (' ' ≤ c && c ≠ '\x7f') || c = '\t'

/-- Allows the origin in place of what was allowed before. -/
def allow (_ : Router) (origin : String) : Except Error Router :=
  if isHeaderValue origin then .ok ⟨origin⟩ else .error (.invalidOrigin origin)

/-- Allows the origins in turn, and everyone if there are none. -/
def ofOrigins (origins : List String) : Except Error Router := origins.foldlM allow ⟨"*"⟩

/-- Asking for the options of any path is answered before its route is looked for. -/
def dispatch (node : Node) (request : Request) : Program Response :=
  if request.method == "OPTIONS" then return .bare 200
  else
    match Route.ofPath? request.path with
    | none => return .bare 404
    | some route =>
      if !route.accepts request.method then return .bare 405
      else do
        let response ← route.handle node request
        return if request.method == "HEAD" then response.withoutContent else response

def answer (router : Router) (node : Node) (request : Request) : Program Response := do
  let response ← dispatch node request
  return { response with allowOrigin := some router.allowOrigin }

end Router

end Availability.Http
