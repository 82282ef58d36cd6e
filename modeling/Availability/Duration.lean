import Availability.Json
import Availability.Text

namespace Availability

structure Duration where
  nanoseconds : Nat
deriving DecidableEq

namespace Duration

def ofMilliseconds (n : Nat) : Duration := ⟨n * 1000000⟩

def ofSeconds (n : Nat) : Duration := ⟨n * 1000000000⟩

def zeroPadded (width n : Nat) : String :=
  let digits := toString n
  String.ofList (List.replicate (width - digits.length) '0') ++ digits

def dropTrailingZeros (digits : String) : String :=
  String.ofList (digits.toList.reverse.dropWhile (· == '0')).reverse

def decimal (whole fraction places : Nat) : String :=
  let digits := dropTrailingZeros (zeroPadded places fraction)
  if digits.isEmpty then toString whole else s!"{whole}.{digits}"

/-- In the largest unit of which there is at least one. -/
def describe (duration : Duration) : String :=
  let n := duration.nanoseconds
  if 1000000000 ≤ n then decimal (n / 1000000000) (n % 1000000000) 9 ++ "s"
  else if 1000000 ≤ n then decimal (n / 1000000) (n % 1000000) 6 ++ "ms"
  else if 1000 ≤ n then decimal (n / 1000) (n % 1000) 3 ++ "µs"
  else toString n ++ "ns"

end Duration

end Availability

/-! Spans of time as people write them, such as `1h 30m`. -/

namespace Availability.Duration

inductive Span where
  | nanosecond
  | microsecond
  | millisecond
  | second
  | minute
  | hour
  | day
  | week
  | month
  | year
deriving DecidableEq

namespace Span

/-- A year has 365.25 days and a month 30.44. -/
def nanoseconds : Span → Nat
  | .nanosecond => 1
  | .microsecond => 1000
  | .millisecond => 1000000
  | .second => 1000000000
  | .minute => 60 * 1000000000
  | .hour => 3600 * 1000000000
  | .day => 86400 * 1000000000
  | .week => 604800 * 1000000000
  | .month => 2630016 * 1000000000
  | .year => 31557600 * 1000000000

def names : Span → List String
  | .nanosecond => ["nanos", "nsec", "ns"]
  | .microsecond => ["usec", "us", "µs"]
  | .millisecond => ["millis", "msec", "ms"]
  | .second => ["seconds", "second", "secs", "sec", "s"]
  | .minute => ["minutes", "minute", "min", "mins", "m"]
  | .hour => ["hours", "hour", "hr", "hrs", "h"]
  | .day => ["days", "day", "d"]
  | .week => ["weeks", "week", "wk", "wks", "w"]
  | .month => ["months", "month", "M"]
  | .year => ["years", "year", "yr", "yrs", "y"]

def all : List Span :=
  [.nanosecond, .microsecond, .millisecond, .second, .minute, .hour, .day, .week, .month, .year]

def ofName? (name : String) : Option Span := all.find? fun span => span.names.contains name

def secondLength : Nat := 1000000000

def grain (span : Span) : Nat := if secondLength ≤ span.nanoseconds then secondLength else 1

def partGrain (span : Span) : Nat := if 3600 * secondLength ≤ span.nanoseconds then secondLength else 1

end Span

def isUnitLetter (c : Char) : Bool := ('a' ≤ c && c ≤ 'z') || ('A' ≤ c && c ≤ 'Z') || c = 'µ'

def word? (n : Nat) : Option Nat := if n < UInt64.size then some n else none

/-- Decimals as a fraction: what they read as, and the power of ten they are divided by. -/
structure Decimals where
  numerator : Nat := 0
  denominator : Nat := 1

def readDecimals (read : Decimals) : List Char → Option (Decimals × List Char)
  | [] => none
  | c :: rest =>
    match Text.decimalDigit? c with
    | some digit => do
      let numerator ← word? (read.numerator * 10 + digit)
      let denominator ← word? (read.denominator * 10)
      readDecimals ⟨numerator, denominator⟩ rest
    | none =>
      if Text.isBlank c then readDecimals read rest
      else if isUnitLetter c && 1 < read.denominator then some (read, c :: rest)
      else none

def readNumber (read : Nat) : List Char → Option (Nat × Option Decimals × List Char)
  | [] => none
  | c :: rest =>
    match Text.decimalDigit? c with
    | some digit => do readNumber (← word? (read * 10 + digit)) rest
    | none =>
      if Text.isBlank c then readNumber read rest
      else if isUnitLetter c then some (read, none, c :: rest)
      else if c = '.' then (readDecimals {} rest).map fun (decimals, rest) => (read, some decimals, rest)
      else none

/-- Adds grains, whose number is a word, as is the number of nanoseconds beside the whole seconds. -/
def add? (total grain number : Nat) : Option Nat := do
  let number ← word? number
  let _ ← word? (total % Span.secondLength + (if grain = 1 then number else 0))
  let sum := total + number * grain
  let _ ← word? (sum / Span.secondLength)
  return sum

/-- Adds decimals of a span, which must come to a whole number of grains. No span is below a nanosecond. -/
def addDecimals? (total : Nat) (span : Span) (decimals : Decimals) : Option Nat := do
  guard (span ≠ .nanosecond)
  let scaled ← word? (decimals.numerator * (span.nanoseconds / span.partGrain))
  guard (scaled % decimals.denominator = 0)
  add? total span.partGrain (scaled / decimals.denominator)

def addSpans? (total : Nat) (span : Span) (number : Nat) (decimals : Option Decimals) : Option Nat := do
  let total ← add? total span.grain (number * (span.nanoseconds / span.grain))
  match decimals with
  | none => return total
  | some decimals => addDecimals? total span decimals

def readSpans : (fuel : Nat) → (total : Nat) → List Char → Option Nat
  | 0, _, _ => none
  | fuel + 1, total, cs =>
    match Text.trimStart cs with
    | [] => some total
    | first :: rest => do
      let digit ← Text.decimalDigit? first
      let (number, decimals, rest) ← readNumber digit rest
      let (unit, rest) := rest.span isUnitLetter
      let span ← Span.ofName? (String.ofList unit)
      let total ← addSpans? total span number decimals
      match rest with
      | [] => some total
      | next :: _ =>
        if Text.isBlank next || (Text.decimalDigit? next).isSome then readSpans fuel total rest else none

/-- At least one span; a bare zero needs no unit. -/
def ofText? (text : String) : Option Duration :=
  if text == "0" then some ⟨0⟩
  else
    match Text.trimStart text.toList with
    | [] => none
    | cs => (readSpans (cs.length + 1) 0 cs).map Duration.mk

def item (n : Nat) (unit : String) : List String := if n = 0 then [] else [toString n ++ unit]

def plural (n : Nat) (unit : String) : List String := item n (if n = 1 then unit else unit ++ "s")

/-- From years down to nanoseconds, without the units of which there are none. -/
def toText (duration : Duration) : String :=
  let nanoseconds := duration.nanoseconds % 1000000000
  let seconds := duration.nanoseconds / 1000000000
  let ofYear := seconds % 31557600
  let ofMonth := ofYear % 2630016
  let ofDay := ofMonth % 86400
  let items :=
    plural (seconds / 31557600) "year" ++ plural (ofYear / 2630016) "month" ++ plural (ofMonth / 86400) "day"
      ++ item (ofDay / 3600) "h" ++ item (ofDay % 3600 / 60) "m" ++ item (ofDay % 60) "s"
      ++ item (nanoseconds / 1000000) "ms" ++ item (nanoseconds / 1000 % 1000) "us"
      ++ item (nanoseconds % 1000) "ns"
  if items.isEmpty then "0s" else " ".intercalate items

def ofJson? (value : Json) : Option Duration := value.toText?.bind ofText?

def toJson (duration : Duration) : Json := .text duration.toText

end Availability.Duration
