import Availability.Text

/-! Command lines of long options that take one value each, as `--name value` or `--name=value`. -/

namespace Availability.Arguments

inductive Error where
  | helpAsked
  | unknownArgument
  | missingValue
  | tooManyValues
  | repeated
  | unlistedValue
  | invalidValue
  | missingArgument
deriving DecidableEq

structure Flag (σ : Type) where
  name : String
  repeatable : Bool := false
  add : String → σ → Except Error σ

structure State (σ : Type) where
  settings : σ
  given : List String := []
  pending : Option (Flag σ × Option String) := none

namespace State

variable {σ : Type}

def add (state : State σ) (flag : Flag σ) (value : String) : Except Error (State σ) :=
  if !flag.repeatable && state.given.contains flag.name then .error .repeated
  else (flag.add value state.settings).map fun settings => { settings, given := flag.name :: state.given }

def settle (state : State σ) : Except Error (State σ) :=
  match state.pending with
  | none => .ok state
  | some (_, none) => .error .missingValue
  | some (flag, some value) => state.add flag value

def help (state : State σ) : Except Error (State σ) := state.settle.bind fun _ => .error .helpAsked

/-- A word after two dashes: an option, alone or with its value. Other words are refused before the value that
is pending is read. -/
def long (flags : List (Flag σ)) (state : State σ) (text : List Char) : Except Error (State σ) := do
  let (name, value) := match Text.cut? '=' text with
    | some (name, value) => (String.ofList name, some (String.ofList value))
    | none => (String.ofList text, none)
  match flags.find? (·.name == name), value with
  | some flag, some value => (← state.settle).add flag value
  | some flag, none => return { ← state.settle with pending := some (flag, none) }
  | none, some _ => .error (if name = "help" then .tooManyValues else .unknownArgument)
  | none, none => if name = "help" then state.help else .error .unknownArgument

def word (flags : List (Flag σ)) (state : State σ) (text : List Char) : Except Error (State σ) :=
  match text with
  | '-' :: '-' :: rest => state.long flags rest
  | '-' :: 'h' :: _ => state.help
  | '-' :: _ :: _ => .error .unknownArgument
  | _ =>
    match state.pending with
    | some (flag, none) => .ok { state with pending := some (flag, some (String.ofList text)) }
    | _ => .error .unknownArgument

end State

/-- Nothing but the end may follow a word of two dashes only. -/
def readFrom {σ : Type} (flags : List (Flag σ)) (state : State σ) : List String → Except Error σ
  | [] => state.settle.map (·.settings)
  | "--" :: [] => state.settle.map (·.settings)
  | "--" :: _ :: _ => .error .unknownArgument
  | text :: rest => do readFrom flags (← state.word flags text.toList) rest

def read {σ : Type} (flags : List (Flag σ)) (settings : σ) (words : List String) : Except Error σ :=
  readFrom flags { settings } words

end Availability.Arguments
