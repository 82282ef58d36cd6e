import Availability.Address
import Availability.Percent

namespace Availability

inductive Url.Host where
  | name (text : String)
  | address (address : Address)
deriving DecidableEq

inductive Url.Path where
  | segments (items : List String)
  /-- A path that is no list of segments, as after `mailto:`. -/
  | plain (text : String)
deriving DecidableEq

structure Url where
  scheme : String
  username : String := ""
  password : String := ""
  host : Option Url.Host := none
  /-- Absent when it is the one the scheme stands for. -/
  port : Option Nat := none
  path : Url.Path
  query : Option String := none
  fragment : Option String := none
deriving DecidableEq

namespace Url

inductive Error where
  | emptyHost
  | invalidPort
  | invalidIpv4Address
  | invalidIpv6Address
  | invalidDomainCharacter
  | invalidDomainName
  | relativeWithoutBase
  | relativeToPlainPath
deriving DecidableEq

def Error.message : Error → String
  | .emptyHost => "empty host"
  | .invalidPort => "invalid port number"
  | .invalidIpv4Address => "invalid IPv4 address"
  | .invalidIpv6Address => "invalid IPv6 address"
  | .invalidDomainCharacter => "invalid domain character"
  | .invalidDomainName => "invalid international domain name"
  | .relativeWithoutBase => "relative URL without a base"
  | .relativeToPlainPath => "relative URL with a cannot-be-a-base base"

/-- Schemes whose urls always have a host, or `file`, with the ports they stand for. -/
def special : List (String × Option Nat) :=
  [("ftp", some 21), ("http", some 80), ("https", some 443), ("ws", some 80), ("wss", some 443), ("file", none)]

def isSpecial (scheme : String) : Bool := special.any (·.1 == scheme)

def defaultPort? (scheme : String) : Option Nat := (special.lookup scheme).bind id

def origin (url : Url) : String × Option Host × Option Nat := (url.scheme, url.host, url.port)

def Host.toText : Host → String
  | .name text => text
  | .address (.v4 bytes) => Address.dotted bytes
  | .address (.v6 pieces) => "[" ++ Address.compressed pieces ++ "]"

def userinfoText (url : Url) : String :=
  if url.username == "" && url.password == "" then ""
  else if url.password == "" then url.username ++ "@"
  else url.username ++ ":" ++ url.password ++ "@"

def portText (url : Url) : String :=
  match url.port with
  | some port => s!":{port}"
  | none => ""

def authorityText (url : Url) : String :=
  match url.host with
  | some host => "//" ++ url.userinfoText ++ host.toText ++ url.portText
  | none => ""

/-- Without a host, a path must not start like one. -/
def pathText (url : Url) : String :=
  match url.path with
  | .plain text => text
  | .segments items =>
    let text := String.join (items.map ("/" ++ ·))
    match url.host, items with
    | none, "" :: _ :: _ => "/." ++ text
    | _, _ => text

def toText (url : Url) : String :=
  let query := match url.query with
    | some query => "?" ++ query
    | none => ""
  let fragment := match url.fragment with
    | some fragment => "#" ++ fragment
    | none => ""
  url.scheme ++ ":" ++ url.authorityText ++ url.pathText ++ query ++ fragment

def withPairs (url : Url) (pairs : List (String × String)) : Url :=
  if pairs.isEmpty then url
  else
    match url.query with
    | none => { url with query := some (Percent.query pairs) }
    | some "" => { url with query := some (Percent.query pairs) }
    | some query => { url with query := some (query ++ "&" ++ Percent.query pairs) }

end Url

end Availability
