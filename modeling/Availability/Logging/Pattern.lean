import Availability.Logging.Pattern.Class
import Availability.Text.Alphanumeric

/-! Patterns that the values of fields are matched with, written as regular expressions. -/

namespace Availability.Logging.Pattern

structure Group where
  flags : Flags := {}
  branches : Row := {}
  pieces : Row := {}

def Group.depth (group : Group) : Nat := (group.branches.add group.pieces.depth).depth

/-- A pattern as far as it was read: the group that is read, those around it, the innermost first, and the names that
were given. -/
structure State where
  group : Group := {}
  outer : List Group := []
  names : List (List Char) := []
  repeatable : Bool := false

def isNameStart (c : Char) : Bool := c = '_' || Text.alphabetic.contains c

def isNameChar (c : Char) : Bool := ['_', '.', '[', ']'].contains c || Text.isAlphanumeric c

def isNewName (state : State) : List Char → Bool
  | [] => false
  | first :: rest => isNameStart first && rest.all isNameChar && !state.names.contains (first :: rest)

namespace State

def flags (state : State) : Flags := state.group.flags

def piece (state : State) (depth : Nat) : State :=
  { state with group := { state.group with pieces := state.group.pieces.add depth }, repeatable := true }

def deepen (state : State) : State :=
  { state with group := { state.group with pieces := state.group.pieces.deepen } }

def branch (state : State) : State :=
  let branches := state.group.branches.add state.group.pieces.depth
  { state with group := { state.group with branches, pieces := {} }, repeatable := false }

def setFlags (state : State) (flags : Flags) : State :=
  { state.piece 0 with group := { (state.piece 0).group with flags }, repeatable := false }

def openGroup (state : State) (flags : Flags) : State :=
  { state with group := { flags }, outer := state.group :: state.outer, repeatable := false }

def closeGroup? (state : State) : Option State :=
  match state.outer with
  | [] => none
  | group :: outer => some ({ state with group, outer }.piece (state.group.depth + 1))

def openNamed (state : State) (cs : List Char) : Option (State × List Char) := do
  let (name, rest) ← Text.cut? '>' cs
  guard (isNewName state name)
  return ({ state with names := name :: state.names }.openGroup state.flags, rest)

def openSpecial (state : State) : List Char → Option (State × List Char)
  | '=' :: _ => none
  | '!' :: _ => none
  | '<' :: '=' :: _ => none
  | '<' :: '!' :: _ => none
  | '<' :: rest => state.openNamed rest
  | 'P' :: '<' :: rest => state.openNamed rest
  | cs => do
    let (change, last, rest) ← FlagChange.read {} cs
    let flags := state.flags.update change
    if last = ':' then return (state.openGroup flags, rest)
    guard (!change.letters.isEmpty)
    return (state.setFlags flags, rest)

def atom (state : State) (atom : Atom) (rest : List Char) : Option (State × List Char) :=
  if atom.allowed state.flags then some (state.piece 0, rest) else none

def next (state : State) : List Char → Option (State × List Char)
  | [] => none
  | '(' :: rest =>
    match state.flags.skip rest with
    | '?' :: rest => state.openSpecial rest
    | rest => some (state.openGroup state.flags, rest)
  | ')' :: rest => state.closeGroup?.map (·, rest)
  | '|' :: rest => some (state.branch, rest)
  | '[' :: rest => (Class.read state.flags rest).map fun (depth, rest) => (state.piece depth, rest)
  | '\x7b' :: _ => none
  | '.' :: rest => if state.flags.wide then some (state.piece 0, rest) else none
  | '\\' :: rest => do
    let (read, rest) ← Atom.readEscape state.flags rest
    state.atom read rest
  | c :: rest =>
    if c = '?' || c = '*' || c = '+' then
      if state.repeatable then
        some (state.deepen, match rest with
          | '?' :: rest => rest
          | rest => rest)
      else none
    else state.atom (if c = '^' || c = '$' then .anchor else .literal c false) rest

end State

def readFrom (state : State) : (fuel : Nat) → List Char → Bool
  | 0, _ => false
  | fuel + 1, cs =>
    match state.flags.skip cs with
    | [] => state.outer.isEmpty && decide (state.group.depth ≤ depthLimit)
    | cs =>
      match state.next cs with
      | some (state, rest) => readFrom state fuel rest
      | none => false

/-- The pattern can be read. An opening brace has no end within a filter. -/
def valid (cs : List Char) : Bool := readFrom {} (cs.length + 1) cs

end Availability.Logging.Pattern
