import Availability.Digest

namespace Availability.ChaCha20

structure Row where
  (a b c d : UInt32)
deriving DecidableEq

namespace Row

def add (x y : Row) : Row := ⟨x.a + y.a, x.b + y.b, x.c + y.c, x.d + y.d⟩

def xor (x y : Row) : Row := ⟨x.a ^^^ y.a, x.b ^^^ y.b, x.c ^^^ y.c, x.d ^^^ y.d⟩

def rotateBits (x : Row) (left right : UInt32) : Row :=
  ⟨x.a <<< left ||| x.a >>> right, x.b <<< left ||| x.b >>> right,
    x.c <<< left ||| x.c >>> right, x.d <<< left ||| x.d >>> right⟩

def shiftOne (x : Row) : Row := ⟨x.b, x.c, x.d, x.a⟩

def words (x : Row) : List UInt32 := [x.a, x.b, x.c, x.d]

end Row

structure Matrix where
  (first second third fourth : Row)
deriving DecidableEq

namespace Matrix

def add (x y : Matrix) : Matrix :=
  ⟨x.first.add y.first, x.second.add y.second, x.third.add y.third, x.fourth.add y.fourth⟩

def mixColumns (v : Matrix) : Matrix :=
  let first := v.first.add v.second
  let fourth := (v.fourth.xor first).rotateBits 16 16
  let third := v.third.add fourth
  let second := (v.second.xor third).rotateBits 12 20
  let first := first.add second
  let fourth := (fourth.xor first).rotateBits 8 24
  let third := third.add fourth
  let second := (second.xor third).rotateBits 7 25
  ⟨first, second, third, fourth⟩

def diagonalize (v : Matrix) : Matrix :=
  ⟨v.first, v.second.shiftOne, v.third.shiftOne.shiftOne, v.fourth.shiftOne.shiftOne.shiftOne⟩

def undiagonalize (v : Matrix) : Matrix :=
  ⟨v.first, v.second.shiftOne.shiftOne.shiftOne, v.third.shiftOne.shiftOne, v.fourth.shiftOne⟩

def doubleRound (v : Matrix) : Matrix := undiagonalize (mixColumns (diagonalize (mixColumns v)))

def rounds : Nat → Matrix → Matrix
  | 0, v => v
  | n + 1, v => rounds n (doubleRound v)

end Matrix

def constants : Row := ⟨0x61707865, 0x3320646e, 0x79622d32, 0x6b206574⟩

structure Key where
  (low high : Row)
deriving DecidableEq

def Key.ofSeed (seed : Digest) : Key :=
  let word (i : Nat) : UInt32 := UInt32.ofNat (Bytes.ofLittleEndian ((seed.toBytes.drop (4 * i)).take 4))
  ⟨⟨word 0, word 1, word 2, word 3⟩, ⟨word 4, word 5, word 6, word 7⟩⟩

/-- The sixteen words of keystream block `counter`, under the zero nonce. -/
def block (key : Key) (counter : UInt64) : List UInt32 :=
  let start : Matrix := ⟨constants, key.low, key.high, ⟨counter.toUInt32, (counter >>> 32).toUInt32, 0, 0⟩⟩
  let mixed := (start.rounds 10).add start
  mixed.first.words ++ mixed.second.words ++ mixed.third.words ++ mixed.fourth.words

/-- Neighbouring words joined, the first being the low half. -/
def joinPairs : List UInt32 → List UInt64
  | low :: high :: rest => (low.toUInt64 ||| high.toUInt64 <<< 32) :: joinPairs rest
  | _ => []

end Availability.ChaCha20
