import Availability.Text
import Availability.Url.Domain.Direction
import Availability.Url.Domain.Joining
import Availability.Url.Domain.Mapping
import Availability.Url.Punycode

namespace Availability.Url.Domain

/-- Marks, which no label begins with, among the characters that a domain may hold. -/
def marks : Text.CharSet := .ofLengths [
  "300 70 113 7 107 2d 1 1 1 2 1 2 1 1 48 b 30 15 10 1 65 7 2 6 2 2 1 4 23 1 1e 1b 5b b 3a 9 9 1 18 4 1 9 1 3",
  "1 5 2b 3 3b 9 2a 3a 36 3 1 12 1 7 a 2 1d 3 38 1 1 10 9 1 a 2 1a 6 38 16 1e 2 3 1 b 3 38 1 1 10 14 2 16 a",
  "38 1 1 1a a 2 1e 1 3b 10 9 1 28 5 37 1 1 19 b 2 1d 3 38 1 1 19 b 2 f 11 37 2 1 10 9 1 a 2 1d 3 46 16 12 2",
  "3d 1 2 7 c 8 62 1 2 9 b 7 49 2 1b 1 1 1 1 1 4 2 31 14 1 2 5 30 9 1 64 14 17 4 4 3 1 3 2 7 3 4 d c 1 1 a 4",
  "2bf 3 3b2 4 1c 3 1d 2 1e 2 42 1e 9 1 a7 2 22 1 76 1c db 5 39 2b 30 55 2f 11 26 9 c 3 1e d 38 e 30 14 98 3",
  "1 15 4 1 6 1 2 3 c6 40 2d0 21 bfe 3 8d 1 60 20 22a 6 69 2 75d4 4 1 a 20 2 50 2 110 1 3 1 4 1 17 5 4 1 53 2",
  "32 12 1a 12 d 1 26 8 19 d 2c 4 2f e 24 1 43 e c 1 8 2 2d 3 32 1 1 3 2 2 5 2 1 1 29 5 5 2 ec 8 1 2 4f30 1",
  "301 10 3cd 1 e2 1 95 5 686 f 28 8 a5 2 23d 4 41 5 13d 2 4d 6 46 b 31 4 7a 3 35 f 29 1 2 2 a 4 2d b 7 1 3d",
  "3 24 e 10 2 2c 1 c 3 30 e 8 4 1 2 5c c 6 1 2 1 9d c 15 4 37 2 1 10 9 1 a 13 43 19 1 1 e 2 52 12 17 1 51 14",
  "eb 12 1b 2 52 11 6a d 65 f 100 f f5 f 1 1 1 2 8d 10 3 1 1c a 28 7 1 4 8 1 9 b 2e 10 c6 8 c7 11 52 25 7a 15",
  "1 1 42 e 15b 4 9 2 1 1 30 f 17 1 14e5 1 6 f 2cc8 12 9c0 5 3b 7 418 1 1 42 51 e 4cab 2 1261 47 21e 5 3 16 2",
  "7 1e 4 94 3 7bb 37 4 32 8 1 e 1 16 15 550 90 a0 7 177 1 3d 4 1fc 4 fe 2 f3 1 2 1 7 2 5 1 1da 7 6d 7"]

end Availability.Url.Domain

/-! Domain names of all scripts, and the names of plain characters that stand for them. -/

namespace Availability.Url.Domain

def isAscii (cs : List Char) : Bool := cs.all fun c => c.toNat < 128

/-- What a label begins with that stands for one of other scripts. -/
def encodedMark : List Char := ['x', 'n', '-', '-']

structure Label where
  chars : List Char
  ascii : List Char

/-- A label of other scripts does not begin with a mark. -/
def isSound (chars : List Char) : Bool :=
  isAscii chars || (chars.head?.all (fun c => !marks.contains c) && Joining.sound [] chars)

def isStable (chars : List Char) : Bool :=
  chars.all (fun c => map? c = some [c]) && Text.Normal.compose chars = chars

/-- A label that is encoded stands for one that cannot be written without. -/
def decodeLabel? (ascii : List Char) : Option Label := do
  guard (isAscii ascii)
  let chars ← Punycode.decode? (ascii.drop encodedMark.length)
  guard (!isAscii chars && isStable chars && !encodedMark.isPrefixOf chars && isSound chars)
  return ⟨chars, ascii⟩

def readLabel? (chars : List Char) : Option Label :=
  if encodedMark.isPrefixOf chars then decodeLabel? chars
  else if isAscii chars then some ⟨chars, chars⟩
  else if isSound chars then some ⟨chars, encodedMark ++ Punycode.encode chars⟩
  else none

def labels? : List (List Char) → Option (List Label)
  | [] => some []
  | chars :: rest => do
    let label ← readLabel? chars
    let labels ← labels? rest
    return label :: labels

def mapAll? : List Char → Option (List Char)
  | [] => some []
  | c :: rest => do
    let mapped ← map? c
    let behind ← mapAll? rest
    return mapped ++ behind

def toAscii? (cs : List Char) : Option (List Char) := do
  let mapped ← mapAll? cs
  let labels ← labels? (Text.split '.' (Text.Normal.compose mapped))
  guard (Direction.agree (labels.map (·.chars)))
  return ['.'].intercalate (labels.map (·.ascii))

end Availability.Url.Domain
