import Availability.Bytes

namespace Availability.Blake2b

structure Row where
  (a b c d : UInt64)
deriving DecidableEq

namespace Row

def add (x y : Row) : Row := ⟨x.a + y.a, x.b + y.b, x.c + y.c, x.d + y.d⟩

def xor (x y : Row) : Row := ⟨x.a ^^^ y.a, x.b ^^^ y.b, x.c ^^^ y.c, x.d ^^^ y.d⟩

def rotateBits (x : Row) (right left : UInt64) : Row :=
  ⟨x.a >>> right ||| x.a <<< left, x.b >>> right ||| x.b <<< left,
    x.c >>> right ||| x.c <<< left, x.d >>> right ||| x.d <<< left⟩

def shiftOne (x : Row) : Row := ⟨x.b, x.c, x.d, x.a⟩

def words (x : Row) : List UInt64 := [x.a, x.b, x.c, x.d]

end Row

structure Matrix where
  (first second third fourth : Row)
deriving DecidableEq

def initialFirst : Row :=
  ⟨0x6a09e667f3bcc908, 0xbb67ae8584caa73b, 0x3c6ef372fe94f82b, 0xa54ff53a5f1d36f1⟩

def initialSecond : Row :=
  ⟨0x510e527fade682d1, 0x9b05688c2b3e6c1f, 0x1f83d9abfb41bd6b, 0x5be0cd19137e2179⟩

def mixColumns (v : Matrix) (x y : Row) : Matrix :=
  let first := (v.first.add v.second).add x
  let fourth := (v.fourth.xor first).rotateBits 32 32
  let third := v.third.add fourth
  let second := (v.second.xor third).rotateBits 24 40
  let first := (first.add second).add y
  let fourth := (fourth.xor first).rotateBits 16 48
  let third := third.add fourth
  let second := (second.xor third).rotateBits 63 1
  ⟨first, second, third, fourth⟩

def diagonalize (v : Matrix) : Matrix :=
  ⟨v.first, v.second.shiftOne, v.third.shiftOne.shiftOne, v.fourth.shiftOne.shiftOne.shiftOne⟩

def undiagonalize (v : Matrix) : Matrix :=
  ⟨v.first, v.second.shiftOne.shiftOne.shiftOne, v.third.shiftOne.shiftOne, v.fourth.shiftOne⟩

def schedule : List (Vector (Fin 16) 16) := [
  #v[0, 1, 2, 3, 4, 5, 6, 7, 8, 9, 10, 11, 12, 13, 14, 15],
  #v[14, 10, 4, 8, 9, 15, 13, 6, 1, 12, 0, 2, 11, 7, 5, 3],
  #v[11, 8, 12, 0, 5, 2, 15, 13, 10, 14, 3, 6, 7, 1, 9, 4],
  #v[7, 9, 3, 1, 13, 12, 11, 14, 2, 6, 5, 10, 4, 0, 15, 8],
  #v[9, 0, 5, 7, 2, 4, 10, 15, 14, 1, 11, 12, 6, 8, 3, 13],
  #v[2, 12, 6, 10, 0, 11, 8, 3, 4, 13, 7, 5, 15, 14, 1, 9],
  #v[12, 5, 1, 15, 14, 13, 4, 10, 0, 7, 6, 3, 9, 2, 8, 11],
  #v[13, 11, 7, 14, 12, 1, 3, 9, 5, 0, 15, 4, 8, 6, 2, 10],
  #v[6, 15, 14, 9, 11, 3, 0, 8, 12, 2, 13, 7, 1, 4, 10, 5],
  #v[10, 2, 8, 4, 7, 6, 1, 5, 15, 11, 9, 14, 3, 12, 13, 0],
  #v[0, 1, 2, 3, 4, 5, 6, 7, 8, 9, 10, 11, 12, 13, 14, 15],
  #v[14, 10, 4, 8, 9, 15, 13, 6, 1, 12, 0, 2, 11, 7, 5, 3]]

def round (message : Vector UInt64 16) (v : Matrix) (order : Vector (Fin 16) 16) : Matrix :=
  let columns := mixColumns v
    ⟨message[order[0]], message[order[2]], message[order[4]], message[order[6]]⟩
    ⟨message[order[1]], message[order[3]], message[order[5]], message[order[7]]⟩
  let diagonals := mixColumns (diagonalize columns)
    ⟨message[order[8]], message[order[10]], message[order[12]], message[order[14]]⟩
    ⟨message[order[9]], message[order[11]], message[order[13]], message[order[15]]⟩
  undiagonalize diagonals

def blockWords (block : Bytes) : Vector UInt64 16 :=
  let words := ((block.chunks 8 (by decide)).map fun eight => UInt64.ofNat (Bytes.ofLittleEndian eight)).toArray
  Vector.ofFn fun i => words.getD i 0

def compress (chain : Row × Row) (block : Bytes) (count : Nat) (last : Bool) : Row × Row :=
  let message := blockWords block
  let counter : Row := ⟨UInt64.ofNat count, 0, if last then 0xffffffffffffffff else 0, 0⟩
  let start : Matrix := ⟨chain.1, chain.2, initialFirst, initialSecond.xor counter⟩
  let mixed := schedule.foldl (round message) start
  ((chain.1.xor mixed.first).xor mixed.third, (chain.2.xor mixed.second).xor mixed.fourth)

def absorb (chain : Row × Row) (consumed : Nat) : List Bytes → Row × Row
  | [] => compress chain [] consumed true
  | [block] => compress chain block (consumed + block.length) true
  | block :: rest => absorb (compress chain block (consumed + block.length) false) (consumed + block.length) rest

def hash256 (data : Bytes) : Bytes :=
  let start : Row := { initialFirst with a := initialFirst.a ^^^ 0x01010020 }
  let chain := absorb (start, initialSecond) 0 (data.chunks 128 (by decide))
  chain.1.words.flatMap fun word => Bytes.littleEndian 8 word.toNat

theorem length_hash256 (data : Bytes) : (hash256 data).length = 32 := by
  simp [hash256, Row.words]

end Availability.Blake2b
