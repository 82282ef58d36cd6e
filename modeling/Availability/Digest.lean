import Availability.Bytes
import Availability.Digest.Blake2b

namespace Availability.Sha256

structure State where
  (a b c d e f g h : UInt32)
deriving DecidableEq

namespace State

def add (x y : State) : State :=
  ⟨x.a + y.a, x.b + y.b, x.c + y.c, x.d + y.d, x.e + y.e, x.f + y.f, x.g + y.g, x.h + y.h⟩

def words (x : State) : List UInt32 := [x.a, x.b, x.c, x.d, x.e, x.f, x.g, x.h]

end State

def initial : State :=
  ⟨0x6a09e667, 0xbb67ae85, 0x3c6ef372, 0xa54ff53a, 0x510e527f, 0x9b05688c, 0x1f83d9ab, 0x5be0cd19⟩

def roundConstants : List UInt32 := [
  0x428a2f98, 0x71374491, 0xb5c0fbcf, 0xe9b5dba5, 0x3956c25b, 0x59f111f1, 0x923f82a4, 0xab1c5ed5,
  0xd807aa98, 0x12835b01, 0x243185be, 0x550c7dc3, 0x72be5d74, 0x80deb1fe, 0x9bdc06a7, 0xc19bf174,
  0xe49b69c1, 0xefbe4786, 0x0fc19dc6, 0x240ca1cc, 0x2de92c6f, 0x4a7484aa, 0x5cb0a9dc, 0x76f988da,
  0x983e5152, 0xa831c66d, 0xb00327c8, 0xbf597fc7, 0xc6e00bf3, 0xd5a79147, 0x06ca6351, 0x14292967,
  0x27b70a85, 0x2e1b2138, 0x4d2c6dfc, 0x53380d13, 0x650a7354, 0x766a0abb, 0x81c2c92e, 0x92722c85,
  0xa2bfe8a1, 0xa81a664b, 0xc24b8b70, 0xc76c51a3, 0xd192e819, 0xd6990624, 0xf40e3585, 0x106aa070,
  0x19a4c116, 0x1e376c08, 0x2748774c, 0x34b0bcb5, 0x391c0cb3, 0x4ed8aa4a, 0x5b9cca4f, 0x682e6ff3,
  0x748f82ee, 0x78a5636f, 0x84c87814, 0x8cc70208, 0x90befffa, 0xa4506ceb, 0xbef9a3f7, 0xc67178f2]

def rotateRight (x : UInt32) (right left : UInt32) : UInt32 := x >>> right ||| x <<< left

def blockWords (block : Bytes) : Array UInt32 :=
  ((block.chunks 4 (by decide)).map fun four => UInt32.ofNat (Bytes.ofLittleEndian four.reverse)).toArray

def expand (words : Array UInt32) : Array UInt32 :=
  (List.range 48).foldl
    (fun w step =>
      let w15 := w.getD (step + 1) 0
      let w2 := w.getD (step + 14) 0
      let s0 := rotateRight w15 7 25 ^^^ rotateRight w15 18 14 ^^^ w15 >>> 3
      let s1 := rotateRight w2 17 15 ^^^ rotateRight w2 19 13 ^^^ w2 >>> 10
      w.push (w.getD step 0 + s0 + w.getD (step + 9) 0 + s1))
    words

def round (s : State) (input : UInt32 × UInt32) : State :=
  let s1 := rotateRight s.e 6 26 ^^^ rotateRight s.e 11 21 ^^^ rotateRight s.e 25 7
  let choice := (s.e &&& s.f) ^^^ (~~~s.e &&& s.g)
  let t1 := s.h + s1 + choice + input.1 + input.2
  let s0 := rotateRight s.a 2 30 ^^^ rotateRight s.a 13 19 ^^^ rotateRight s.a 22 10
  let majority := (s.a &&& s.b) ^^^ (s.a &&& s.c) ^^^ (s.b &&& s.c)
  ⟨t1 + (s0 + majority), s.a, s.b, s.c, s.d + t1, s.e, s.f, s.g⟩

def compress (s : State) (block : Bytes) : State :=
  s.add ((roundConstants.zip (expand (blockWords block)).toList).foldl round s)

def padding (length : Nat) : Bytes :=
  0x80 :: List.replicate ((119 - length % 64) % 64) 0 ++ Bytes.bigEndian 8 (8 * length)

def hash (data : Bytes) : Bytes :=
  let final := ((data ++ padding data.length).chunks 64 (by decide)).foldl compress initial
  final.words.flatMap fun word => Bytes.bigEndian 4 word.toNat

theorem length_hash (data : Bytes) : (hash data).length = 32 := by
  simp [hash, State.words, Bytes.bigEndian]

end Availability.Sha256

namespace Availability

abbrev Digest := Vector UInt8 32

namespace Digest

def toBytes (digest : Digest) : Bytes := digest.toList

def ofBytes? (bytes : Bytes) : Option Digest :=
  if size : bytes.toArray.size = 32 then some ⟨bytes.toArray, size⟩ else none

end Digest

def hash (data : Bytes) : Digest := ⟨(Blake2b.hash256 data).toArray, by simp [Blake2b.length_hash256]⟩

/-- The commitment to a shard that is anchored on chain. -/
def doubleHash (data : Bytes) : Digest := hash (hash data).toBytes

/-- The integrity tag of a whole blob, under another function than shard commitments. -/
def recoveredDataHash (blob : Bytes) : Digest := ⟨(Sha256.hash blob).toArray, by simp [Sha256.length_hash]⟩

end Availability
