import Availability.Text

/-! The direction of writing. Where a domain holds characters that are written from right to left, each of its labels
must keep to one direction. -/

namespace Availability.Url.Domain

inductive Direction where
  | leftToRight
  | rightToLeft
  | arabicNumber
  | europeanNumber
  | neutral
  | mark
deriving DecidableEq

namespace Direction

/-- Among the characters that a domain may hold, as are the sets below. -/
def rightToLeftChars : Text.CharSet := .ofLengths [
  "5be 1 1 1 2 1 2 1 9 25 13 1 2 1 1 1 d 30 22 3 1 65 f 2 7 2 a 17 1 1e 1d 59 b 3a 9 2 4 1 3 18 4 1 9 1 3 1 7",
  "29 5 32 10 2a f2e8 21 1bd 3f a4 1 98c 11c 4 e1 f 26 a a5 6 4b a 1e4 1c 10 1e 22 f0 2a 3 2c 27 46 b 31 4 71",
  "d809 d0 52 22 7 3f3"]

def arabicNumbers : Text.CharSet := .ofLengths ["660 a 1 2 106c3 a 126 1f"]

def europeanNumbers : Text.CharSet := .ofLengths ["30 a 6b6 a fbe7 1b"]

def neutrals : Text.CharSet := .ofLengths [
  "21 e c 26 1a 5d 1f 1 1c1 2 7 e 2 1c 1 11 75 1 80 1 193 6 76 2 1 2 1 1 1 2 5a 1 73 1 a 1 10c 4 1f8 2 7 1 f5",
  "1 101 8 7d 7 1c0 1 fa 4 452 a 66 1 29a 2 13e 1 14 1b 135 6 98 22 14e 2 2f 1 48c b6 42 4a 3c 1ac 45 1a 1",
  "316 1 153 100 300 e5 6 e 7 100 205 3 19 f 1 6 1 5 3 60 1 5a 1 c4 26 1bda 40 5690 37 146 3 63 1 a 2 80 22",
  "66 1 9f 4 c 2 3a 4 2f2 2 51d2 12 7f 31 45 2 2ba 1 3e 4d 3 11 77e 1 219 7 512 14 36e 5 287 d 574 1 3f3 1d",
  "4d7b 3 272 1 5c1d 2f1 2f8 59 3 1 ba 57 fa8 1 2ff 1 8f0 240 3d 3 3d 1 b2 99b"]

def marks : Text.CharSet := .ofLengths [
  "300 70 113 7 107 2d 1 1 1 2 1 2 1 1 48 b 30 15 10 1 65 7 2 6 2 2 1 4 23 1 1e 1b 5b b 3a 9 9 1 18 4 1 9 1 3",
  "1 5 2b 3 3b 9 2a 39 37 1 1 1 4 8 4 1 3 7 a 2 1d 1 3a 1 4 4 8 1 14 2 1a 5 39 1 4 11 1e 2 3 1 b 2 39 1 4 8 4",
  "1 14 2 16 8 3a 1 2 1 1 4 8 a b 2 1e 1 3d 1 c 1 32 1 3 1 37 1 1 3 5 11 b 2 1d 1 3a 1 f 2 14 2 1c 2 39 2 4 4",
  "8 1 14 2 1d 1 48 1 7 5 5a 1 2 7 c 8 62 1 2 9 b 7 49 2 1b 1 1 1 1 1 37 e 1 5 1 2 5 30 9 1 66 4 1 6 1 2 2 2",
  "19 2 4 3 10 4 d 1 2 2 6 1 f 1 2bf 3 3b2 3 1d 2 1e 2 1e 2 43 7 8 1 2 b 9 1 a7 2 22 1 76 3 4 2 9 1 6 3 db 2",
  "2 1 3a 1 1 9 1 1 2 8 6 d 30 54 30 1 1 5 1 1 5 1 28 9 c 2 20 4 2 2 1 3 38 1 1 2 3 1 1 3 3a 8 2 2 98 3 1 d 1",
  "7 4 1 6 1 3 2 c6 40 2d0 21 bfe 3 8d 1 60 20 22a 4 6b 2 75d4 4 1 a 20 2 50 2 110 1 3 1 4 1 19 2 5 1 97 2 1a",
  "12 d 1 26 8 19 b 2e 3 30 1 2 4 2 2 27 1 43 6 2 2 2 2 c 1 8 1 2f 1 33 1 1 3 2 2 5 2 1 1 2a 2 8 1 ee 1 2 1 4",
  "1 4f30 1 301 10 3cd 1 e2 1 95 5 686 f 28 8 a5 2 23d 4 41 5 13d 2 4d 6 46 b 31 4 7b 1 36 f 29 1 2 2 a 3 31",
  "4 2 2 7 1 3d 3 24 5 1 8 3e 1 c 2 34 9 a 4 2 1 5f 3 2 1 1 2 6 1 2 1 9d 1 3 8 15 2 39 2 3 1 25 f 46 6 d 1 1",
  "1 1 1 e 2 55 8 2 3 1 1 17 1 54 6 1 1 4 2 1 2 ee 4 6 2 1 2 1b 2 55 8 2 1 1 2 6a 1 1 1 2 6 1 1 65 3 2 4 1 5",
  "103 9 1 2 100 2 1 1 4 1 90 8 4 1 20 6 2 2 28 6 2 4 8 1 9 6 2 3 2e d 1 2 c6 1 1 3 1 1 c9 e 54 16 2 7 1 2 1",
  "2 7a 15 1 1 48 2 3 1 1 1 15b 2 b 2 34 5 5 1 1 1 17 1 14e5 1 6 f 2cc8 c 3 3 9c0 5 3b 7 418 1 3f 4 51 1 4cb8",
  "2 1261 47 220 3 11 8 2 7 1e 4 94 3 7bb 37 4 32 8 1 e 1 16 15 550 90 a0 7 177 1 3d 4 1fc 4 fe 2 f3 1 2 1 7",
  "2 5 1 1da 7 6d 7"]

def ofChar (c : Char) : Direction :=
  if rightToLeftChars.contains c then .rightToLeft
  else if arabicNumbers.contains c then .arabicNumber
  else if europeanNumbers.contains c then .europeanNumber
  else if neutrals.contains c then .neutral
  else if marks.contains c then .mark
  else .leftToRight

/-- A label from left to right holds nothing of the other direction and ends in a letter or a number. -/
def isLeftToRight (directions : List Direction) : Bool :=
  directions.all (fun direction => direction ≠ .rightToLeft && direction ≠ .arabicNumber)
    && ((directions.reverse.dropWhile (· = .mark)).head?.all fun last =>
      last = .leftToRight || last = .europeanNumber)

/-- A label from right to left has numbers of one kind only. -/
def isRightToLeft (directions : List Direction) : Bool :=
  directions.all (· ≠ .leftToRight)
    && ((directions.reverse.dropWhile (· = .mark)).head?.all (· ≠ .neutral))
    && !(directions.contains .arabicNumber && directions.contains .europeanNumber)

def isOneWay (directions : List Direction) : Bool :=
  match directions with
  | [] => true
  | .leftToRight :: _ => isLeftToRight directions
  | .rightToLeft :: _ => isRightToLeft directions
  | _ => false

/-- Labels from left to right only are not looked at. -/
def agree (labels : List (List Char)) : Bool :=
  let directions := labels.map (·.map ofChar)
  let mixed := directions.any (·.any fun direction => direction = .rightToLeft || direction = .arabicNumber)
  !mixed || directions.all isOneWay

end Direction

end Availability.Url.Domain
