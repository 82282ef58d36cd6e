import Availability.Bytes
import Availability.Json
import Availability.Text

namespace Availability.Http

structure Part where
  name : Option String
  content : Bytes
deriving DecidableEq

inductive Body where
  | bytes (content : Bytes)
  | form (parts : List Part)

structure Request where
  method : String
  target : String
  headers : List (String × String) := []
  body : Body := .bytes []

namespace Request

def visibleTarget (request : Request) : List Char :=
  match Text.cut? '#' request.target.toList with
  | some (visible, _) => visible
  | none => request.target.toList

def path (request : Request) : String :=
  match Text.cut? '?' request.visibleTarget with
  | some (path, _) => String.ofList path
  | none => String.ofList request.visibleTarget

def query (request : Request) : String :=
  match Text.cut? '?' request.visibleTarget with
  | some (_, query) => String.ofList query
  | none => ""

def header? (request : Request) (name : String) : Option String :=
  (request.headers.find? (·.1.toLower == name)).map (·.2)

def content (request : Request) : Bytes :=
  match request.body with
  | .bytes content => content
  | .form parts => parts.flatMap (·.content)

end Request

inductive Content where
  | empty
  | text (value : String)
  | json (value : Json)
  | octets (value : Bytes)
  | refusal

structure Response where
  status : Nat
  contentType : Option String
  content : Content
  allowOrigin : Option String := none

namespace Response

def plainText : String := "text/plain; charset=utf-8"

def bare (status : Nat) : Response := ⟨status, none, .empty, none⟩

def text (status : Nat) (message : String) : Response := ⟨status, some plainText, .text message, none⟩

def json (value : Json) : Response := ⟨200, some "application/json", .json value, none⟩

def octets (value : Bytes) : Response := ⟨200, some "application/octet-stream", .octets value, none⟩

def refusal (status : Nat) : Response := ⟨status, some plainText, .refusal, none⟩

def withoutContent (response : Response) : Response := { response with content := .empty }

end Response

end Availability.Http
