import Availability.Text
import Availability.Text.Normal.Tables

/-! Canonical normalization: one spelling for texts that differ only in how marks are put on letters. -/

namespace Availability.Text.Normal

structure MarkRange where
  first : Nat
  last : Nat
  markClass : Nat

def markRangesFrom (start : Nat) : List (List Nat) → List MarkRange
  | [gap, length, markClass] :: rest =>
    ⟨start + gap, start + gap + length - 1, markClass⟩ :: markRangesFrom (start + gap + length) rest
  | _ => []

def markRanges : List MarkRange := markRangesFrom 0 (hexGroups classLines)

def classOf (c : Char) : Nat :=
  match markRanges.find? fun range => range.first ≤ c.toNat && c.toNat ≤ range.last with
  | some range => range.markClass
  | none => 0

structure Composite where
  whole : Char
  first : Char
  second : Char

def compositesFrom (start : Nat) : List (List Nat) → List Composite
  | [gap, first, second] :: rest =>
    ⟨Char.ofNat (start + gap), Char.ofNat first, Char.ofNat second⟩ :: compositesFrom (start + gap + 1) rest
  | _ => []

def composites : List Composite := compositesFrom 0 (hexGroups compositeLines)

/-! Syllables of the Korean script are composed of two or three letters by their codes. -/

def syllableBase : Nat := 0xac00

def leadBase : Nat := 0x1100

def vowelBase : Nat := 0x1161

def tailBase : Nat := 0x11a7

def leadCount : Nat := 19

def vowelCount : Nat := 21

/-- One of the tails is none at all. -/
def tailCount : Nat := 28

def syllable? (first second : Char) : Option Char :=
  let lead := first.toNat - leadBase
  let vowel := second.toNat - vowelBase
  let open_ := first.toNat - syllableBase
  let tail := second.toNat - tailBase
  if leadBase ≤ first.toNat ∧ lead < leadCount ∧ vowelBase ≤ second.toNat ∧ vowel < vowelCount then
    some (Char.ofNat (syllableBase + (lead * vowelCount + vowel) * tailCount))
  else if syllableBase ≤ first.toNat ∧ open_ < leadCount * vowelCount * tailCount ∧ open_ % tailCount = 0
      ∧ tailBase < second.toNat ∧ tail < tailCount then
    some (Char.ofNat (first.toNat + tail))
  else none

def letters? (c : Char) : Option (List Char) :=
  let index := c.toNat - syllableBase
  if syllableBase ≤ c.toNat ∧ index < leadCount * vowelCount * tailCount then
    let tail := index % tailCount
    some ([Char.ofNat (leadBase + index / (vowelCount * tailCount)),
      Char.ofNat (vowelBase + index % (vowelCount * tailCount) / tailCount)]
      ++ if tail = 0 then [] else [Char.ofNat (tailBase + tail)])
  else none

def decomposeChar : (depth : Nat) → Char → List Char
  | 0, c => [c]
  | depth + 1, c =>
    match letters? c with
    | some letters => letters
    | none =>
      match composites.find? (·.whole = c) with
      | some composite => decomposeChar depth composite.first ++ [composite.second]
      | none => [c]

def depthLimit : Nat := 4

/-- Puts a character behind those in `before`, the last one first; a mark passes marks of higher classes. -/
def place (c : Char) : (before : List Char) → List Char
  | [] => [c]
  | last :: before =>
    if classOf c ≠ 0 ∧ classOf c < classOf last then last :: place c before else c :: last :: before

def decompose (cs : List Char) : List Char :=
  ((cs.flatMap (decomposeChar depthLimit)).foldl (fun before c => place c before) []).reverse

def composite? (first second : Char) : Option Char :=
  match composites.find? fun composite => composite.first = first && composite.second = second with
  | some composite => some composite.whole
  | none => syllable? first second

/-- Composes a letter with what follows; `between` holds the marks that stay behind it, the last one first. A mark is
out of reach behind another of its class or a higher one. -/
def composeFrom (letter : Char) (between : List Char) : List Char → List Char
  | [] => letter :: between.reverse
  | c :: rest =>
    let reached := between.head?.all fun last => classOf last < classOf c
    match if reached then composite? letter c else none with
    | some whole => composeFrom whole between rest
    | none =>
      if classOf c = 0 then letter :: (between.reverse ++ composeFrom c [] rest)
      else composeFrom letter (c :: between) rest

def compose (cs : List Char) : List Char :=
  match decompose cs with
  | [] => []
  | first :: rest => composeFrom first [] rest

end Availability.Text.Normal
