import Availability.Duration
import Availability.Json.Reader
import Availability.Url
import Availability.Utf8

/-! Requests that a node sends to the services around it, and what it reads from their responses. -/

namespace Availability.Http

def reasons : List (Nat × String) := [
  (100, "Continue"), (101, "Switching Protocols"), (102, "Processing"),
  (200, "OK"), (201, "Created"), (202, "Accepted"), (203, "Non Authoritative Information"), (204, "No Content"),
  (205, "Reset Content"), (206, "Partial Content"), (207, "Multi-Status"), (208, "Already Reported"),
  (226, "IM Used"),
  (300, "Multiple Choices"), (301, "Moved Permanently"), (302, "Found"), (303, "See Other"), (304, "Not Modified"),
  (305, "Use Proxy"), (307, "Temporary Redirect"), (308, "Permanent Redirect"),
  (400, "Bad Request"), (401, "Unauthorized"), (402, "Payment Required"), (403, "Forbidden"), (404, "Not Found"),
  (405, "Method Not Allowed"), (406, "Not Acceptable"), (407, "Proxy Authentication Required"),
  (408, "Request Timeout"), (409, "Conflict"), (410, "Gone"), (411, "Length Required"),
  (412, "Precondition Failed"), (413, "Payload Too Large"), (414, "URI Too Long"), (415, "Unsupported Media Type"),
  (416, "Range Not Satisfiable"), (417, "Expectation Failed"), (418, "I'm a teapot"), (421, "Misdirected Request"),
  (422, "Unprocessable Entity"), (423, "Locked"), (424, "Failed Dependency"), (426, "Upgrade Required"),
  (428, "Precondition Required"), (429, "Too Many Requests"), (431, "Request Header Fields Too Large"),
  (451, "Unavailable For Legal Reasons"),
  (500, "Internal Server Error"), (501, "Not Implemented"), (502, "Bad Gateway"), (503, "Service Unavailable"),
  (504, "Gateway Timeout"), (505, "HTTP Version Not Supported"), (506, "Variant Also Negotiates"),
  (507, "Insufficient Storage"), (508, "Loop Detected"), (510, "Not Extended"),
  (511, "Network Authentication Required")]

def statusText (status : Nat) : String :=
  s!"{status} " ++ (reasons.lookup status).getD "<unknown status code>"

end Availability.Http

namespace Availability

structure IpfsSettings where
  apiUrl : Url
  requestTimeout : Duration
deriving DecidableEq

structure ArweaveSettings where
  gatewayUrl : Url
  uploadUrl : Url
  apiKey : Option String := none
  requestTimeout : Duration
deriving DecidableEq

structure GatewaySettings where
  url : Url
  fees : String := ""
  timeout : Duration := .ofSeconds 30
deriving DecidableEq

structure ProverSettings where
  url : Url
  timeout : Duration := .ofSeconds 120
deriving DecidableEq

end Availability

namespace Availability.Client

inductive Method where
  | get
  | post
deriving DecidableEq

inductive Payload where
  | empty
  | json (value : Json)
  | octets (content : Bytes)
  | file (part fileName : String) (content : Bytes)

structure Request where
  method : Method
  url : Url
  bearer : Option String := none
  payload : Payload := .empty

structure Response where
  status : Nat
  body : Bytes

inductive Fault where
  | unsent (url : Url)
  | undecodable

def Fault.message : Fault → String
  | .unsent url => "error sending request for url (" ++ url.toText ++ ")"
  | .undecodable => "error decoding response body"

namespace Response

def text (response : Response) : String := Utf8.decodeLossy response.body

def member {α : Type} (response : Response) (name : String) (value? : Json → Option α) : Except Fault α :=
  match Json.soleMember? name value? response.body with
  | some value => .ok value
  | none => .error .undecodable

def unexpected (response : Response) : String :=
  s!"Unexpected response [{Http.statusText response.status}]: {response.text}"

end Response

/-- What a call comes to: it is settled without a request, or sends one and reads what comes back. -/
inductive Exchange (ε α : Type) where
  | settled (result : Except ε α)
  | ask (request : Request) (read : Except Fault Response → Except ε α)

namespace Exchange

variable {ε α β : Type}

def request? : Exchange ε α → Option Request
  | .settled _ => none
  | .ask request _ => some request

def map (f : α → β) : Exchange ε α → Exchange ε β
  | .settled result => .settled (result.map f)
  | .ask request read => .ask request fun reply => (read reply).map f

def run (network : Request → Except Fault Response) : Exchange ε α → Except ε α
  | .settled result => result
  | .ask request read => read (network request)

end Exchange

end Availability.Client
