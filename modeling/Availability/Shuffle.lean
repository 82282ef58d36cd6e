import Availability.Random.ChaCha20

namespace Availability.Random

structure Source where
  key : ChaCha20.Key
  nextBlock : UInt64
  pending : List UInt64
deriving DecidableEq

namespace Source

def ofSeed (seed : Digest) : Source := ⟨.ofSeed seed, 0, []⟩

def next (source : Source) : UInt64 × Source :=
  match source.pending with
  | word :: rest => (word, { source with pending := rest })
  | [] =>
    match ChaCha20.joinPairs (ChaCha20.block source.key source.nextBlock) with
    | word :: rest => (word, { source with nextBlock := source.nextBlock + 1, pending := rest })
    | [] => (0, source)

/-- The largest low half a word may leave when it draws from `range` numbers: a multiple of `range` less one. -/
def acceptedUpTo (range : Nat) : Nat := range <<< (63 - range.log2) - 1

/-- Scales words to `range` until one is accepted. After `attempts` refusals the next word decides. -/
def drawScaled (range : Nat) : (attempts : Nat) → Source → Nat × Source
  | 0, source =>
    let (word, source) := source.next
    (word.toNat * range / UInt64.size, source)
  | attempts + 1, source =>
    let (word, source) := source.next
    let scaled := word.toNat * range
    if scaled % UInt64.size ≤ acceptedUpTo range then (scaled / UInt64.size, source)
    else drawScaled range attempts source

def attemptLimit : Nat := 1024

def draw (last : Nat) (source : Source) : Nat × Source := drawScaled (last + 1) attemptLimit source

theorem drawScaled_lt {range : Nat} (positive : 0 < range) (attempts : Nat) (source : Source) :
    (drawScaled range attempts source).1 < range := by
  have scaled (word : UInt64) : word.toNat * range / UInt64.size < range :=
    Nat.div_lt_of_lt_mul ((Nat.mul_lt_mul_right positive).mpr word.toNat_lt)
  induction attempts generalizing source with
  | zero => exact scaled _
  | succ attempts ih =>
    unfold drawScaled
    rcases source.next with ⟨word, rest⟩
    dsimp only
    split
    · exact scaled word
    · exact ih rest

theorem draw_le (last : Nat) (source : Source) : (draw last source).1 ≤ last :=
  Nat.le_of_lt_succ (drawScaled_lt (Nat.succ_pos last) attemptLimit source)

end Source

end Availability.Random

namespace Availability.Shuffle

/-- Swaps the element at each position from `last` down to 1 with the one its draw names. -/
def arrange {α : Type} : (last : Nat) → (draws : List Nat) → Array α → Array α
  | last + 1, draw :: draws, elements => arrange last draws (elements.swapIfInBounds (last + 1) draw)
  | _, _, elements => elements

def drawsFrom : (last : Nat) → Random.Source → List Nat
  | 0, _ => []
  | last + 1, source =>
    let (draw, source) := source.draw (last + 1)
    draw :: drawsFrom last source

def draws (entropy : Digest) (length : Nat) : List Nat := drawsFrom (length - 1) (.ofSeed entropy)

def shuffle {α : Type} (entropy : Digest) (elements : List α) : List α :=
  (arrange (elements.length - 1) (draws entropy elements.length) elements.toArray).toList

def permutation (entropy : Digest) (length : Nat) : List Nat := shuffle entropy (List.range length)

end Shuffle

def sampleIndices (validator : String) (threshold shardCount : Nat) : List Nat :=
  (Shuffle.permutation (hash (Bytes.ofText validator)) shardCount).take (min threshold shardCount)

end Availability
