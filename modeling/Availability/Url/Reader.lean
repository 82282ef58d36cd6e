import Availability.Json
import Availability.Url.Host

namespace Availability.Url

structure Sections where
  main : List Char
  query : Option (List Char)
  fragment : Option (List Char)

def sections (cs : List Char) : Sections :=
  let (cs, fragment) := match Text.cut? '#' cs with
    | some (cs, fragment) => (cs, some fragment)
    | none => (cs, none)
  match Text.cut? '?' cs with
  | some (main, query) => ⟨main, some query, fragment⟩
  | none => ⟨cs, none, fragment⟩

/-- Controls and blanks at both ends do not belong to a url, nor do tabs and line ends within. -/
def clean (text : String) : List Char :=
  let outside (c : Char) : Bool := c.toNat ≤ 0x20
  let cs := ((text.toList.dropWhile outside).reverse.dropWhile outside).reverse
  cs.filter fun c => c ≠ '\t' ∧ c ≠ '\n' ∧ c ≠ '\r'

def isLetter (c : Char) : Bool := ('a' ≤ c && c ≤ 'z') || ('A' ≤ c && c ≤ 'Z')

def isSchemeChar (c : Char) : Bool := isLetter c || (Text.decimalDigit? c).isSome || ['+', '-', '.'].contains c

def scheme? (cs : List Char) : Option (String × List Char) :=
  match cs.span isSchemeChar with
  | (first :: rest, ':' :: behind) =>
    if isLetter first then some ((String.ofList (first :: rest)).toLower, behind) else none
  | _ => none

def encodeChars (reserved : List Char) (cs : List Char) : String :=
  String.join ((Bytes.ofText (String.ofList cs)).map fun byte =>
    let c := Char.ofNat byte.toNat
    if byte < 0x20 || 0x7e < byte || reserved.contains c then Percent.encodeByte byte else String.ofList [c])

def reservedInFragment : List Char := [' ', '"', '<', '>', '`']

def reservedInPath : List Char := reservedInFragment ++ ['#', '?', '{', '}']

def reservedInUserinfo : List Char := reservedInPath ++ ['/', ':', ';', '=', '@', '[', '\\', ']', '^', '|']

def reservedInQuery (isSpecial : Bool) : List Char :=
  [' ', '"', '#', '<', '>'] ++ (if isSpecial then ['\''] else [])

def isSlash (isSpecial : Bool) (c : Char) : Bool := c = '/' || (isSpecial && c = '\\')

def isSingleDot (segment : List Char) : Bool := [".", "%2e"].contains (String.ofList segment).toLower

def isDoubleDot (segment : List Char) : Bool :=
  ["..", ".%2e", "%2e.", "%2e%2e"].contains (String.ofList segment).toLower

def pieces (isSpecial : Bool) (cs : List Char) : List (List Char) :=
  Text.split '/' (cs.map fun c => if isSlash isSpecial c then '/' else c)

/-- A letter and a colon or a bar name a drive, whatever follows behind a slash. -/
def namesDrive (segment : List Char) : Bool :=
  match segment with
  | letter :: mark :: rest => isLetter letter && (mark = ':' || mark = '|') && (rest.isEmpty || rest.head? = some '\\')
  | _ => false

/-- Two dots take the last segment away, unless it names a drive. -/
def ascend : List String → List String
  | [] => []
  | last :: above => if namesDrive last.toList then last :: above else above

/-- A drive at the start of the path of a file is named with a colon. -/
def driveSegment? (isFile : Bool) (above : List String) (segment : List Char) : Option String :=
  match isFile, above, segment with
  | true, [], [letter, _] => if namesDrive segment then some (String.ofList [letter, ':']) else none
  | _, _, _ => none

def segment (isFile : Bool) (above : List String) (cs : List Char) : String :=
  (driveSegment? isFile above cs).getD (encodeChars reservedInPath cs)

def descend (isFile : Bool) (above : List String) : List (List Char) → List String
  | [] => above.reverse
  | [last] =>
    if isDoubleDot last then ("" :: ascend above).reverse
    else if isSingleDot last then ("" :: above).reverse
    else (segment isFile above last :: above).reverse
  | piece :: rest =>
    if isDoubleDot piece then descend isFile (ascend above) rest
    else if isSingleDot piece then descend isFile above rest
    else descend isFile (segment isFile above piece :: above) rest

/-- The path of a file begins with one slash. -/
def collapse (items : List String) : List String :=
  match items.dropWhile (· == "") with
  | [] => [""]
  | items => items

def pathBelow (scheme : String) (above : List String) (cs : List Char) : Path :=
  let isFile := scheme == "file"
  let items := descend isFile above (pieces (isSpecial scheme) cs)
  .segments (if isFile then collapse items else items)

def rootedPath (scheme : String) (cs : List Char) : Path :=
  match cs with
  | [] => .segments (if isSpecial scheme then [""] else [])
  | first :: rest => pathBelow scheme [] (if isSlash (isSpecial scheme) first then rest else first :: rest)

structure Authority where
  username : String := ""
  password : String := ""
  host : Host
  port : Option Nat := none

def cutUserinfo (cs : List Char) : Option (List Char) × List Char :=
  match Text.cut? '@' cs.reverse with
  | some (host, userinfo) => (some userinfo.reverse, host.reverse)
  | none => (none, cs)

def cutPort (inside : Bool) : List Char → List Char × Option (List Char)
  | [] => ([], none)
  | c :: rest =>
    if c = ':' && !inside then ([], some rest)
    else
      let inside := if c = '[' then true else if c = ']' then false else inside
      let (host, port) := cutPort inside rest
      (c :: host, port)

/-- The port, and what follows a backslash. -/
def readPort (scheme : String) (text : List Char) : Except Error (Option Nat × List Char) :=
  let (digits, rest) := text.span fun c => (Text.decimalDigit? c).isSome
  let port := (Text.decimal? digits).getD 0
  if UInt16.size ≤ port || rest.head?.any (· ≠ '\\') then .error .invalidPort
  else .ok (if digits.isEmpty || defaultPort? scheme = some port then none else some port, rest)

/-- A host may be left out where the scheme is not special, but then nothing else may stand there. With no one before
an `@`, nothing may follow it. -/
def mayLackHost (scheme : String) (userinfo : Option (List Char)) (hasPort isLast : Bool) : Bool :=
  !isSpecial scheme && !hasPort && (userinfo.all fun userinfo => userinfo = [':'] || (userinfo.isEmpty && isLast))

def readAuthority (scheme : String) (isLast : Bool) (cs : List Char) : Except Error (Authority × List Char) := do
  let (userinfo, cs) := cutUserinfo cs
  let (hostText, portText) := cutPort false cs
  if hostText.isEmpty && !mayLackHost scheme userinfo portText.isSome isLast then .error .emptyHost
  let host ← Host.read (isSpecial scheme) hostText
  let (port, rest) ← readPort scheme (portText.getD [])
  let (username, password) := match userinfo with
    | none => ([], [])
    | some userinfo => (Text.cut? ':' userinfo).getD (userinfo, [])
  return (⟨encodeChars reservedInUserinfo username, encodeChars reservedInUserinfo password, host, port⟩, rest)

def withSections (url : Url) (parts : Sections) : Url :=
  { url with
    query := parts.query.map (encodeChars (reservedInQuery (isSpecial url.scheme)))
    fragment := parts.fragment.map (encodeChars reservedInFragment) }

def Sections.afterPath (parts : Sections) : Bool := parts.query.isSome || parts.fragment.isSome

def ofAuthority (scheme : String) (cs : List Char) (parts : Sections) : Except Error Url := do
  let (authority, path) := cs.span fun c => !isSlash (isSpecial scheme) c
  let (authority, rest) ← readAuthority scheme (path.isEmpty && !parts.afterPath) authority
  return withSections {
    scheme
    username := authority.username
    password := authority.password
    host := some authority.host
    port := authority.port
    path := rootedPath scheme (rest ++ path) } parts

def dropSlashes (cs : List Char) : List Char := cs.dropWhile (isSlash true)

/-- A file on a host, which a drive in its place and at the start of its path leaves out. -/
def ofFileHost (cs : List Char) (parts : Sections) : Except Error Url := do
  let (hostText, path) := cs.span fun c => !isSlash true c
  if hostText.length = 2 && namesDrive hostText then
    return withSections { scheme := "file", host := some (.name ""), path := pathBelow "file" [] cs } parts
  let host ← if hostText.isEmpty then pure (Host.name "") else Host.read true hostText
  let items := descend true [] (pieces true (path.drop 1))
  let onDrive := items.head?.any fun first => first.length = 2 && namesDrive first.toList
  let host := if onDrive || host = .name "localhost" then .name "" else host
  return withSections { scheme := "file", host := some host, path := .segments (collapse items) } parts

def ofFile (base : Option Url) (cs : List Char) (parts : Sections) : Except Error Url := do
  let host := (base.bind (·.host)).getD (.name "")
  match cs, base.map (·.path) with
  | [], some path =>
    let query := if parts.query.isSome then none else base.bind (·.query)
    let url := withSections { scheme := "file", host := some host, path } parts
    return { url with query := url.query.or query }
  | [], _ => return withSections { scheme := "file", host := some host, path := rootedPath "file" [] } parts
  | first :: rest, path =>
    match isSlash true first, rest.head?.any (isSlash true), path with
    | true, true, _ => ofFileHost (rest.drop 1) parts
    | false, _, some (.segments items) =>
      let path := pathBelow "file" (items.reverse.drop 1) cs
      return withSections { scheme := "file", host := some host, path } parts
    | _, _, _ => return withSections { scheme := "file", host := some host, path := rootedPath "file" cs } parts

/-- What has no scheme of its own takes it from the base, with everything that it leaves out at its start. -/
def relative (base : Url) (cs : List Char) (parts : Sections) : Except Error Url :=
  match cs, base.path with
  | [], _ =>
    let url := withSections { base with query := none, fragment := none } parts
    .ok { url with query := if parts.query.isSome then url.query else base.query }
  | '/' :: '/' :: rest, _ => ofAuthority base.scheme rest parts
  | first :: rest, .segments items =>
    match isSlash true first, rest.head?.any (isSlash true) with
    | true, true => ofAuthority base.scheme (dropSlashes rest) parts
    | true, false => .ok (withSections { base with path := pathBelow base.scheme [] rest } parts)
    | false, _ =>
      .ok (withSections { base with path := pathBelow base.scheme (items.reverse.drop 1) cs } parts)
  | _, .plain _ => .error .relativeToPlainPath

/-- What follows a scheme. A special scheme needs no slashes, but fewer than two let it be read relative to a base of
that scheme. -/
def absolute (base : Option Url) (scheme : String) (cs : List Char) : Except Error Url :=
  let parts := sections cs
  if scheme == "file" then ofFile (base.filter (·.scheme == "file")) parts.main parts
  else if isSpecial scheme then
    match base.filter fun base => base.scheme == scheme && (parts.main.takeWhile (isSlash true)).length < 2 with
    | some base => relative base parts.main parts
    | none => ofAuthority scheme (dropSlashes parts.main) parts
  else
    match parts.main with
    | '/' :: '/' :: rest => ofAuthority scheme rest parts
    | '/' :: rest => .ok (withSections { scheme, path := pathBelow scheme [] rest } parts)
    | main => .ok (withSections { scheme, path := .plain (encodeChars [] main) } parts)

def read (base : Option Url) (text : String) : Except Error Url :=
  let cs := clean text
  match scheme? cs with
  | some (scheme, rest) => absolute base scheme rest
  | none =>
    match base with
    | none => .error .relativeWithoutBase
    | some base =>
      let parts := sections cs
      match base.path, cs with
      | .plain _, '#' :: _ => relative base parts.main parts
      | .plain _, _ => .error .relativeToPlainPath
      | .segments _, _ =>
        if base.scheme == "file" then ofFile (some base) parts.main parts else relative base parts.main parts

def ofText? (text : String) : Option Url := (read none text).toOption

def join (base : Url) (reference : String) : Except Error Url := read (some base) reference

def ofJson? (value : Json) : Option Url := value.toText?.bind ofText?

def toJson (url : Url) : Json := .text url.toText

end Availability.Url
