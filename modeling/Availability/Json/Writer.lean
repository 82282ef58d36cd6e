import Availability.Json

namespace Availability.Json

def hexDigit (n : Nat) : Char := "0123456789abcdef".toList.getD n '0'

def shortLetter? : Char → Option Char
  | '"' => some '"'
  | '\\' => some '\\'
  | '\x08' => some 'b'
  | '\t' => some 't'
  | '\n' => some 'n'
  | '\x0c' => some 'f'
  | '\r' => some 'r'
  | _ => none

def writeChar (out : String) (c : Char) : String :=
  match shortLetter? c with
  | some letter => (out.push '\\').push letter
  | none =>
    if c < ' ' then ((out ++ "\\u00").push (hexDigit (c.toNat / 16))).push (hexDigit (c.toNat % 16))
    else out.push c

def writeText (out : String) (text : String) : String := (text.foldl writeChar (out.push '"')).push '"'

mutual

def write (out : String) : Json → String
  | .null => out ++ "null"
  | .bool value => out ++ (if value then "true" else "false")
  | .int value => out ++ toString value
  | .real literal => out ++ literal
  | .text value => writeText out value
  | .list items => (writeItems (out.push '[') true items).push ']'
  | .object members => (writeMembers (out.push '{') true members).push '}'

def writeItems (out : String) (first : Bool) : List Json → String
  | [] => out
  | item :: rest => writeItems (write (if first then out else out.push ',') item) false rest

def writeMembers (out : String) (first : Bool) : List (String × Json) → String
  | [] => out
  | (name, value) :: rest =>
    let out := writeText (if first then out else out.push ',') name
    writeMembers (write (out.push ':') value) false rest

end

def render (value : Json) : String := write "" value

end Availability.Json
