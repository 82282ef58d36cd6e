import Availability.Text

namespace Availability.Url.Punycode

def digit (n : Nat) : Char := if n < 26 then Char.ofNat ('a'.toNat + n) else Char.ofNat ('0'.toNat + (n - 26))

def threshold (bias k : Nat) : Nat := if k ≤ bias then 1 else if bias + 26 ≤ k then 26 else k - bias

theorem threshold_bounds (bias k : Nat) : 1 ≤ threshold bias k ∧ threshold bias k ≤ 26 := by
  unfold threshold
  split
  · omega
  · split <;> omega

def shrink (delta k : Nat) : Nat :=
  if 455 < delta then shrink (delta / 35) (k + 36) else k + 36 * delta / (delta + 38)
termination_by delta

def adapt (delta handled : Nat) (first : Bool) : Nat :=
  let delta := if first then delta / 700 else delta / 2
  shrink (delta + delta / handled) 0

def digits (bias k n : Nat) : List Char :=
  let t := threshold bias k
  if n < t then [digit n]
  else digit (t + (n - t) % (36 - t)) :: digits bias (k + 36) ((n - t) / (36 - t))
termination_by n
decreasing_by
  have bounds := threshold_bounds bias k
  exact Nat.lt_of_le_of_lt (Nat.div_le_self _ _) (by omega)

structure State where
  out : List Char
  delta : Nat := 0
  bias : Nat := 72
  handled : Nat

def pass (basic code : Nat) (state : State) (c : Char) : State :=
  if c.toNat < code then { state with delta := state.delta + 1 }
  else if c.toNat = code then {
    out := state.out ++ digits state.bias 36 state.delta
    delta := 0
    bias := adapt state.delta (state.handled + 1) (state.handled = basic)
    handled := state.handled + 1 }
  else state

/-- Writes the characters with the given codes, which ascend; `next` is the code after the last one. -/
def encodeCodes (label : List Char) (basic : Nat) : (codes : List Nat) → (next : Nat) → State → State
  | [], _, state => state
  | code :: codes, next, state =>
    let raised := { state with delta := state.delta + (code - next) * (state.handled + 1) }
    let passed := label.foldl (pass basic code) raised
    encodeCodes label basic codes (code + 1) { passed with delta := passed.delta + 1 }

/-- The characters of the first 128, and then where the others belong. -/
def encode (label : List Char) : List Char :=
  let basic := label.filter fun c => c.toNat < 128
  let codes := ((label.map (·.toNat)).filter (128 ≤ ·)).mergeSort.eraseDups
  let start := if basic.isEmpty then [] else basic ++ ['-']
  (encodeCodes label basic.length codes 128 { out := start, handled := basic.length }).out

def digitValue? (c : Char) : Option Nat :=
  if 'a' ≤ c ∧ c ≤ 'z' then some (c.toNat - 'a'.toNat)
  else if '0' ≤ c ∧ c ≤ '9' then some (c.toNat - '0'.toNat + 26)
  else none

structure Decoding where
  out : List Char
  code : Nat := 128
  bias : Nat := 72
  start : Nat := 0
  number : Nat := 0
  weight : Nat := 1
  place : Nat := 36

namespace Decoding

def word? (n : Nat) : Option Nat := if n < UInt32.size then some n else none

def insert? (state : Decoding) : Option Decoding := do
  let length := state.out.length + 1
  let code ← word? (state.code + state.number / length)
  guard code.isValidChar
  let index := state.number % length
  return {
    out := state.out.take index ++ Char.ofNat code :: state.out.drop index
    code
    bias := adapt (state.number - state.start) length (state.start = 0)
    start := index + 1
    number := index + 1 }

def digit? (state : Decoding) (c : Char) : Option Decoding := do
  let digit ← digitValue? c
  let number ← word? (state.number + digit * state.weight)
  let limit := threshold state.bias state.place
  if digit < limit then insert? { state with number := number }
  else
    let weight ← word? (state.weight * (36 - limit))
    return { state with number := number, weight := weight, place := state.place + 36 }

end Decoding

/-- The characters before the last hyphen, if there are any, and the digits behind it. -/
def cutBasic (label : List Char) : List Char × List Char :=
  match Text.cut? '-' label.reverse with
  | some (digits, last :: basic) => ((last :: basic).reverse, digits.reverse)
  | _ => ([], label)

def decode? (text : List Char) : Option (List Char) := do
  let (basic, digits) := cutBasic text
  let state ← digits.foldlM (fun (state : Decoding) c => state.digit? c) { out := basic }
  if state.place = 36 then some state.out else none

end Availability.Url.Punycode
