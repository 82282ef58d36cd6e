import Availability.Http
import Availability.Http.MediaType
import Availability.Http.Multipart
import Availability.Json.Fields
import Availability.Json.Reader
import Availability.Json.Shape
import Availability.Percent
import Availability.Retrieve
import Availability.Text
import Availability.Utf8

/-! What the routes take from a request. A request that does not have it is refused. -/

namespace Availability.Http.Form

inductive Error where
  | missingField (name : String)
  | notText (name : String)
  | missingFile (name : String)
  | invalidCount (name : String) (error : Decimal.Error)
deriving DecidableEq

def Error.message : Error → String
  | .missingField name => "Missing form field " ++ name
  | .notText name => s!"Form field {name} is not text"
  | .missingFile name => "Missing file " ++ name
  | .invalidCount name error => s!"Form field {name}: {error.message}"

structure Upload where
  file : Bytes
  dataShardCount : UInt64
  parityShardCount : UInt64
  protocol : String
deriving DecidableEq

/-- The last part of that name. -/
def part? (parts : List Part) (name : String) : Option Bytes :=
  (parts.reverse.find? (·.name == some name)).map (·.content)

def text (parts : List Part) (name : String) : Except Error String :=
  match part? parts name with
  | none => .error (.missingField name)
  | some content =>
    match Utf8.decode? content with
    | some text => .ok text
    | none => .error (.notText name)

def count (parts : List Part) (name : String) : Except Error UInt64 := do
  (Decimal.readWord (Text.trim (← text parts name))).mapError (.invalidCount name)

def upload (parts : List Part) : Except Error Upload := do
  let fileName ← text parts "file_name"
  match part? parts fileName with
  | none => .error (.missingFile fileName)
  | some file => return {
      file
      dataShardCount := ← count parts "data_shard_count"
      parityShardCount := ← count parts "parity_shard_count"
      protocol := ← text parts "protocol" }

end Availability.Http.Form

namespace Availability.Http.Input

def bodyLimit : Nat := 2 * 1024 * 1024

def formLimit : Nat := 10 * 1024 * 1024

def body (request : Request) : Except Response Bytes :=
  if bodyLimit < request.content.length then .error (.refusal 413) else .ok request.content

/-- `application/json`, or another subtype with the suffix `+json`; parameters do not matter. -/
def isJsonType (contentType : String) : Bool :=
  match MediaType.ofText? contentType with
  | some mediaType =>
    mediaType.type = "application" && (mediaType.subtype = "json" || mediaType.suffix = some "json")
  | none => false

def structured (request : Request) (fields : List (String × Json.Shape)) : Except Response Json := do
  if !(request.header? "content-type").any isJsonType then .error (.refusal 415)
  let content ← body request
  match Json.Shape.readStructure fields (Json.Fragment.ofBytes content).1 with
  | .ok value => .ok value
  | .error .malformed => .error (.refusal 400)
  | .error .mismatched => .error (.refusal 422)

def read {α : Type} (value? : Json → Option α) (value : Json) (name : String) : Except Response α :=
  match (value.member? name).bind value? with
  | some a => .ok a
  | none => .error (.refusal 422)

structure Publication where
  blob : String
  dataShardCount : UInt64
  parityShardCount : UInt64
  protocol : String

def publication (request : Request) : Except Response Publication := do
  let value ← structured request
    [("blob", .text), ("data_shard_count", .word), ("parity_shard_count", .word), ("protocol", .text)]
  return {
    blob := ← read Json.toText? value "blob"
    dataShardCount := ← read Json.word? value "data_shard_count"
    parityShardCount := ← read Json.word? value "parity_shard_count"
    protocol := ← read Json.toText? value "protocol" }

def texts (request : Request) (name : String) : Except Response (List String) := do
  read (Json.toList? Json.toText?) (← structured request [(name, .texts)]) name

/-- The values under a name that a query may hold once. -/
def single? (pairs : List (String × String)) (name : String) : Except Response (Option String) :=
  match pairs.filter (·.1 == name) with
  | [] => .ok none
  | [(_, value)] => .ok (some value)
  | _ => .error (.refusal 400)

def required (pairs : List (String × String)) (name : String) : Except Response String := do
  match ← single? pairs name with
  | some value => return value
  | none => .error (.refusal 400)

def metadataUri (request : Request) : Except Response String :=
  required (Percent.pairs request.query) "metadata_uri"

def indices (list : String) : List Nat :=
  (Text.split ',' list.toList).filterMap fun entry =>
    (Decimal.readWord (Text.trim (String.ofList entry))).toOption.map (·.toNat)

structure SpotCheck where
  metadataUri : String
  indices : List Nat
  kind : Retrieve.HashKind

def spotCheck (request : Request) : Except Response SpotCheck := do
  let pairs := Percent.pairs request.query
  let metadataUri ← required pairs "metadata_uri"
  let list ← single? pairs "indices"
  match ← single? pairs "kind" with
  | none => return ⟨metadataUri, indices (list.getD ""), .double⟩
  | some name =>
    match Retrieve.HashKind.ofName? name with
    | some kind => return ⟨metadataUri, indices (list.getD ""), kind⟩
    | none => .error (.refusal 400)

def segment (raw : String) : Except Response String :=
  match Utf8.decode? (Percent.decode (Bytes.ofText raw)) with
  | some text => .ok text
  | none => .error (.refusal 400)

def boundary (request : Request) : Except Response Bytes :=
  let mediaType := (request.header? "content-type").bind MediaType.ofText?
  match mediaType.filter fun mediaType => mediaType.type = "multipart" && mediaType.subtype = "form-data" with
  | none => .error (.refusal 400)
  | some mediaType =>
    match mediaType.parameter? "boundary" with
    | none => .error (.refusal 400)
    | some boundary => .ok (Bytes.ofText boundary)

def parts (request : Request) : Except Response (List Part) := do
  let formError {α : Type} (err : Multipart.Error) : Except Response α := .error (.text 400 err.message)
  match request.body with
  | .form parts => if formLimit < request.content.length then formError .malformed else return parts
  | .bytes content =>
    let boundary ← boundary request
    if formLimit < content.length then formError .malformed
    else
      match Multipart.parts boundary content with
      | .ok parts => return parts
      | .error err => formError err

def upload (request : Request) : Except Response Form.Upload := do
  (Form.upload (← parts request)).mapError fun err => .text 400 err.message

end Availability.Http.Input
