import Availability.Proofs.Except
import Availability.Proofs.Percent
import Availability.Url.Reader

namespace Availability.Url

variable {scheme reference : String} {base url : Url} {cs main : List Char} {parts : Sections}

/-- Two slashes at the start of a reference are followed by a host of its own. -/
def isNetworkPath : List Char → Bool
  | first :: second :: _ => isSlash true first && isSlash true second
  | _ => false

/-- The url of a file names a host, if only the empty one, and no port. -/
def FileHosted (url : Url) : Prop := url.scheme = "file" → url.host.isSome = true ∧ url.port = none

theorem origin_withPairs (url : Url) (pairs : List (String × String)) :
    (url.withPairs pairs).origin = url.origin := by
  unfold withPairs
  split
  · rfl
  · split <;> rfl

theorem query_withPairs (bare : url.query = none) (pairs : List (String × String)) :
    Percent.pairs ((url.withPairs pairs).query.getD "") = pairs := by
  unfold withPairs
  split
  · next empty =>
    rw [bare, List.isEmpty_iff.mp empty]
    rfl
  · simp only [bare]
    exact Percent.pairs_query pairs

theorem scheme_ofAuthority (read : ofAuthority scheme cs parts = .ok url) : url.scheme = scheme := by
  obtain ⟨authority, -, built⟩ := Except.bind_eq_ok.mp read
  cases built
  rfl

theorem fileHosted_ofFileHost (read : ofFileHost cs parts = .ok url) : url.FileHosted := by
  unfold ofFileHost at read
  dsimp only at read
  split at read
  · cases read
    exact fun _ => ⟨rfl, rfl⟩
  · split at read
    all_goals
      obtain ⟨host, -, built⟩ := Except.bind_eq_ok.mp read
      cases built
      exact fun _ => ⟨rfl, rfl⟩

theorem fileHosted_ofFile (read : ofFile none cs parts = .ok url) : url.FileHosted := by
  unfold ofFile at read
  dsimp only [Option.map_none] at read
  split at read
  · next absent => cases absent
  · cases read
    exact fun _ => ⟨rfl, rfl⟩
  · split at read
    · exact fileHosted_ofFileHost read
    · next absent => cases absent
    · cases read
      exact fun _ => ⟨rfl, rfl⟩

theorem fileHosted_of_scheme_ne (other : url.scheme ≠ "file") : url.FileHosted := fun same => absurd same other

theorem fileHosted_absolute (read : absolute none scheme cs = .ok url) : url.FileHosted := by
  unfold absolute at read
  dsimp only [Option.filter_none] at read
  split at read
  · exact fileHosted_ofFile read
  · next other =>
    refine fileHosted_of_scheme_ne ?_
    suffices own : url.scheme = scheme by
      rw [own]
      exact fun same => other (beq_iff_eq.mpr same)
    split at read
    · exact scheme_ofAuthority read
    · split at read
      · exact scheme_ofAuthority read
      · cases read
        rfl
      · cases read
        rfl

theorem ofText?_eq_some_iff {text : String} : ofText? text = some url ↔ Url.read none text = .ok url := by
  rw [ofText?]
  cases Url.read none text <;> simp [Except.toOption]

theorem fileHosted_of_ofText? {text : String} (read : ofText? text = some url) : url.FileHosted := by
  have read := ofText?_eq_some_iff.mp read
  unfold Url.read at read
  dsimp only at read
  split at read
  · exact fileHosted_absolute read
  · cases read

theorem isNetworkPath_cons (first : Char) (rest : List Char) :
    isNetworkPath (first :: rest) = (isSlash true first && rest.head?.any (isSlash true)) := by
  cases rest with
  | nil => exact (Bool.and_false _).symm
  | cons second rest => rfl

theorem isNetworkPath_of_cut? {separator : Char} {behind : List Char} (other : isSlash true separator = false)
    (found : Text.cut? separator cs = some (main, behind)) : isNetworkPath main = isNetworkPath cs := by
  rw [Text.eq_append_of_cut? found]
  match main with
  | [] =>
    rw [List.nil_append, isNetworkPath_cons, other]
    rfl
  | [first] =>
    rw [List.cons_append, List.nil_append, isNetworkPath, other, Bool.and_false]
    rfl
  | first :: second :: rest => rfl

theorem isNetworkPath_main (cs : List Char) : isNetworkPath (sections cs).main = isNetworkPath cs := by
  unfold sections
  dsimp only
  cases hash : Text.cut? '#' cs with
  | none =>
    dsimp only
    cases mark : Text.cut? '?' cs with
    | none => rfl
    | some pair => exact isNetworkPath_of_cut? (by decide) mark
  | some pair =>
    dsimp only
    cases mark : Text.cut? '?' pair.1 with
    | none => exact isNetworkPath_of_cut? (by decide) hash
    | some inner => exact (isNetworkPath_of_cut? (by decide) mark).trans (isNetworkPath_of_cut? (by decide) hash)

def queryIn (scheme : String) (parts : Sections) : Option String :=
  parts.query.map (encodeChars (reservedInQuery (isSpecial scheme)))

theorem relative_below (below : isNetworkPath cs = false) (read : relative base cs parts = .ok url) :
    url.origin = base.origin ∧ (cs ≠ [] → url.query = queryIn base.scheme parts) := by
  unfold relative at read
  split at read
  · cases read
    exact ⟨rfl, fun filled => absurd rfl filled⟩
  · cases below
  · split at read
    · next double next =>
      rw [isNetworkPath_cons, double, next] at below
      cases below
    · cases read
      exact ⟨rfl, fun _ => rfl⟩
    · cases read
      exact ⟨rfl, fun _ => rfl⟩
  · cases read

theorem ofFile_below (file : base.scheme = "file") (hosted : base.FileHosted) (below : isNetworkPath cs = false)
    (read : ofFile (some base) cs parts = .ok url) :
    url.origin = base.origin ∧ (cs ≠ [] → url.query = queryIn base.scheme parts) := by
  obtain ⟨named, port⟩ := hosted file
  have origin : ("file", some (base.host.getD (.name "")), none) = base.origin := by
    rw [Url.origin, file, port, Option.getD_of_ne_none (Option.isSome_iff_ne_none.mp named)]
  rw [file, ← origin]
  unfold ofFile at read
  dsimp only [Option.bind_some] at read
  split at read
  · cases read
    exact ⟨rfl, fun filled => absurd rfl filled⟩
  · cases read
    exact ⟨rfl, fun _ => rfl⟩
  · split at read
    · next double next =>
      rw [isNetworkPath_cons, double, next] at below
      cases below
    · cases read
      exact ⟨rfl, fun _ => rfl⟩
    · cases read
      exact ⟨rfl, fun _ => rfl⟩

/-- A reference with no scheme and no host of its own stays at the origin of the base, whose query it drops if it has a
path. -/
theorem join_below (hosted : base.FileHosted) (unnamed : scheme? (clean reference) = none)
    (below : isNetworkPath (clean reference) = false) (joined : base.join reference = .ok url) :
    url.origin = base.origin ∧
      ((sections (clean reference)).main ≠ [] → url.query = queryIn base.scheme (sections (clean reference))) := by
  have low := (isNetworkPath_main (clean reference)).trans below
  unfold join Url.read at joined
  simp only [unnamed] at joined
  split at joined
  · exact relative_below low joined
  · cases joined
  · split at joined
    · next file => exact ofFile_below (beq_iff_eq.mp file) hosted low joined
    · exact relative_below low joined

theorem ofFile_of_isNetworkPath (network : isNetworkPath cs = true) (base : Option Url) :
    ofFile base cs parts = ofFileHost (cs.drop 2) parts := by
  cases cs with
  | nil => cases network
  | cons first rest =>
    rw [isNetworkPath_cons, Bool.and_eq_true] at network
    unfold ofFile
    simp only [network.1, network.2]
    rfl

theorem length_takeWhile_lt_two : (cs.takeWhile (isSlash true)).length < 2 ↔ isNetworkPath cs = false := by
  match cs with
  | [] => simp [isNetworkPath]
  | [first] =>
    cases one : isSlash true first <;> simp [isNetworkPath, List.takeWhile, one]
  | first :: second :: rest =>
    cases one : isSlash true first
    · simp [isNetworkPath, List.takeWhile, one]
    · cases two : isSlash true second <;> simp [isNetworkPath, List.takeWhile, one, two]

/-- Where a reference has nothing to put in the place of the host of the base: neither a scheme, unless it is a special
one that the base has too, nor two slashes. -/
def StaysAt (base : Url) (reference : String) : Prop :=
  match scheme? (clean reference) with
  | none => isNetworkPath (clean reference) = false
  | some (scheme, behind) => scheme = base.scheme ∧ isSpecial scheme = true ∧ isNetworkPath behind = false

theorem origin_join (hosted : base.FileHosted) (stays : StaysAt base reference) (joined : base.join reference = .ok url) :
    url.origin = base.origin := by
  unfold StaysAt at stays
  split at stays
  · next unnamed => exact (join_below hosted unnamed stays joined).1
  · next scheme behind named =>
    obtain ⟨rfl, special, below⟩ := stays
    have low := (isNetworkPath_main behind).trans below
    unfold join Url.read at joined
    simp only [named] at joined
    unfold absolute at joined
    dsimp only at joined
    split at joined
    · next file =>
      rw [Option.filter_some, if_pos file] at joined
      exact (ofFile_below (beq_iff_eq.mp file) hosted low joined).1
    · rw [Option.filter_some, beq_self_eq_true, Bool.true_and,
        if_pos (decide_eq_true (length_takeWhile_lt_two.mpr low))] at joined
      exact (relative_below low joined).1

theorem join_of_not_staysAt {behind : List Char} (named : scheme? (clean reference) = some (scheme, behind))
    (leaves : ¬StaysAt base reference) : base.join reference = Url.read none reference := by
  have apart (special : isSpecial scheme = true) :
      base.scheme ≠ scheme ∨ isNetworkPath (sections behind).main = true := by
    by_cases same : base.scheme = scheme
    · unfold StaysAt at leaves
      rw [named] at leaves
      rw [isNetworkPath_main]
      exact .inr (eq_true_of_ne_false fun below => leaves ⟨same.symm, special, below⟩)
    · exact .inl same
  unfold join Url.read
  simp only [named]
  unfold absolute
  dsimp only
  split
  · next file =>
    obtain rfl := beq_iff_eq.mp file
    rcases apart (by decide) with other | network
    · rw [Option.filter_some, beq_eq_false_iff_ne.mpr other]
      rfl
    · rw [ofFile_of_isNetworkPath network, ofFile_of_isNetworkPath network]
  · split
    · next special =>
      -- With a host behind the scheme, a base of that scheme has nothing to add.
      have unused : (base.scheme == scheme &&
          decide (((sections behind).main.takeWhile (isSlash true)).length < 2)) = false := by
        rcases apart special with other | network
        · rw [beq_eq_false_iff_ne.mpr other, Bool.false_and]
        · rw [decide_eq_false (by rw [length_takeWhile_lt_two, network]; decide), Bool.and_false]
      rw [Option.filter_some, unused]
      rfl
    · rfl

end Availability.Url
