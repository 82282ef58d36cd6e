import Availability.Json.Fields
import Availability.Proofs.Json.Number
import Availability.Proofs.Json.Writer

/-! What is written is read. -/

namespace Availability.Json

section

variable {c : Char} {fuel n : Nat} {rest bytes : Bytes}

theorem plain_ofNat (small : n < 256) (visible : 0x20 ≤ n) (unquoted : n ≠ 0x22) (unescaped : n ≠ 0x5c) :
    Plain (UInt8.ofNat n) := by
  have value : (UInt8.ofNat n).toNat = n := UInt8.toNat_ofNat_of_lt' small
  refine ⟨UInt8.le_iff_toNat_le.mpr (value.symm ▸ visible), fun same => unquoted ?_, fun same => unescaped ?_⟩
  · rw [← value, same]
    rfl
  · rw [← value, same]
    rfl

theorem plain_utf8EncodeChar (visible : ' ' ≤ c) (unquoted : c ≠ '"') (unescaped : c ≠ '\\') :
    ∀ byte ∈ String.utf8EncodeChar c, Plain byte := by
  have low : 0x20 ≤ c.val.toNat := visible
  have quote : c.val.toNat ≠ 0x22 := fun same => unquoted (Char.ext (UInt32.toNat_inj.mp same))
  have backslash : c.val.toNat ≠ 0x5c := fun same => unescaped (Char.ext (UInt32.toNat_inj.mp same))
  unfold String.utf8EncodeChar
  dsimp only
  split
  · exact List.forall_mem_singleton.mpr (plain_ofNat (by omega) low quote backslash)
  split
  · simp only [List.forall_mem_cons]
    refine ⟨?_, ?_, List.forall_mem_nil _⟩ <;> apply plain_ofNat <;> omega
  split
  · simp only [List.forall_mem_cons]
    refine ⟨?_, ?_, ?_, List.forall_mem_nil _⟩ <;> apply plain_ofNat <;> omega
  · simp only [List.forall_mem_cons]
    refine ⟨?_, ?_, ?_, ?_, List.forall_mem_nil _⟩ <;> apply plain_ofNat <;> omega

theorem digits_of_hexDigit : ∀ n < 16, ∃ byte, String.utf8EncodeChar (hexDigit n) = [byte] ∧
    Hex.digitValue? byte = some n := by
  have known : ∀ n < 16, String.utf8EncodeChar (hexDigit n) = [UInt8.ofNat (hexDigit n).toNat] ∧
      Hex.digitValue? (UInt8.ofNat (hexDigit n).toNat) = some n := by decide +kernel
  exact fun n small => ⟨_, known n small⟩

theorem readText_control (control : c.toNat < 0x20) (fuel : Nat) (rest read : Bytes) :
    readText (fuel + 1) ([0x5c, 0x75, 0x30, 0x30] ++ String.utf8EncodeChar (hexDigit (c.toNat / 16)) ++
        String.utf8EncodeChar (hexDigit (c.toNat % 16)) ++ rest) (some read) =
      readText fuel rest (some ((String.utf8EncodeChar c).reverse ++ read)) := by
  obtain ⟨high, first, highValue⟩ := digits_of_hexDigit (c.toNat / 16) (by omega)
  obtain ⟨low, second, lowValue⟩ := digits_of_hexDigit (c.toNat % 16) (by omega)
  have zero : Hex.digitValue? 0x30 = some 0 := by decide
  have unit : readUnit (0x30 :: 0x30 :: high :: low :: rest) = some (c.toNat, rest) := by
    simp only [readUnit, zero, highValue, lowValue, Option.bind_eq_bind, Option.bind_some, Option.pure_def]
    congr 2
    omega
  have plain : escapedChar c.toNat rest = (some c, rest) := by
    have highest : isHighSurrogate c.toNat = false := by
      simp only [isHighSurrogate, Bool.and_eq_false_iff, decide_eq_false_iff_not]
      omega
    have lowest : isLowSurrogate c.toNat = false := by
      simp only [isLowSurrogate, Bool.and_eq_false_iff, decide_eq_false_iff_not]
      omega
    simp only [escapedChar, highest, lowest, Char.ofNat_toNat, Bool.false_eq_true, if_false]
  have bytes : Bytes.ofText c.toString = String.utf8EncodeChar c := Bytes.ofText_singleton c
  rw [first, second]
  simp only [List.cons_append, List.nil_append, readText, unit, plain, Option.bind_eq_bind, Option.bind_some,
    Option.pure_def, bytes]

theorem readText_shortLetter {letter : Char} (short : shortLetter? c = some letter) (fuel : Nat) (rest read : Bytes) :
    readText (fuel + 1) (0x5c :: String.utf8EncodeChar letter ++ rest) (some read) =
      readText fuel rest (some ((String.utf8EncodeChar c).reverse ++ read)) := by
  unfold shortLetter? at short
  split at short <;> cases short <;> rfl

theorem plain_of_shortLetter (long : shortLetter? c = none) : c ≠ '"' ∧ c ≠ '\\' := by
  constructor <;> rintro rfl <;> cases long

theorem readText_escaped (c : Char) :
    ∃ steps ≤ (escaped c).length, ∀ fuel rest read, readText (fuel + steps) (escaped c ++ rest) (some read) =
      readText fuel rest (some ((String.utf8EncodeChar c).reverse ++ read)) := by
  -- An escape is one step however long it is, any other character is one for each of its bytes.
  unfold escaped
  cases short : shortLetter? c with
  | some letter => exact ⟨1, by simp, fun fuel rest read => readText_shortLetter short fuel rest read⟩
  | none =>
    obtain ⟨unquoted, unescaped⟩ := plain_of_shortLetter short
    dsimp only
    split
    · next control =>
      exact ⟨1, by simp, fun fuel rest read => readText_control control fuel rest read⟩
    · next visible =>
      exact ⟨_, Nat.le_refl _, readText_append (plain_utf8EncodeChar (Char.not_lt.mp visible) unquoted unescaped)⟩

theorem readText_flatMap {cs : List Char} (enough : (cs.flatMap escaped).length < fuel) (read : Bytes) :
    readText fuel (cs.flatMap escaped ++ 0x22 :: rest) (some read) =
      some (Utf8.decode? (read.reverse ++ cs.flatMap String.utf8EncodeChar), rest) := by
  induction cs generalizing fuel read with
  | nil =>
    obtain ⟨fuel, rfl⟩ := Nat.exists_eq_add_one_of_ne_zero (Nat.ne_of_gt enough)
    rw [List.flatMap_nil, List.flatMap_nil, List.nil_append, List.append_nil, readText]
    rfl
  | cons c cs ih =>
    obtain ⟨steps, short, step⟩ := readText_escaped c
    rw [List.flatMap_cons, List.length_append] at enough
    obtain ⟨fuel, rfl⟩ := Nat.exists_eq_add_of_le' (show steps ≤ fuel by omega)
    rw [List.flatMap_cons, List.append_assoc, step, ih (by omega), List.reverse_append, List.reverse_reverse,
      List.flatMap_cons, List.append_assoc]

/-- A text is read up to its quote. -/
theorem readText_quoted (text : String) (rest : Bytes) :
    readText ((text.toList.flatMap escaped ++ 0x22 :: rest).length + 1) (text.toList.flatMap escaped ++ 0x22 :: rest)
      (some []) = some (some text, rest) := by
  have enough : (text.toList.flatMap escaped).length < (text.toList.flatMap escaped ++ 0x22 :: rest).length + 1 := by
    rw [List.length_append]
    omega
  rw [readText_flatMap enough, List.reverse_nil, List.nil_append, ← Bytes.ofText_eq_flatMap, Utf8.decode?_ofText]

end

/-- Values that can be read from what is written for them, no more than `depth` containers deep. -/
inductive Readable : (depth : Nat) → Json → Prop where
  | null {depth : Nat} : Readable depth .null
  | bool {depth : Nat} (value : Bool) : Readable depth (.bool value)
  | int {depth : Nat} {value : Int} (whole : Number.Whole value) : Readable depth (.int value)
  | text {depth : Nat} (value : String) : Readable depth (.text value)
  | list {depth : Nat} {items : List Json} (inner : ∀ item ∈ items, Readable depth item) :
      Readable (depth + 1) (.list items)
  | object {depth : Nat} {members : List (String × Json)} (inner : ∀ member ∈ members, Readable depth member.2) :
      Readable (depth + 1) (.object members)

namespace Readable

variable {depth : Nat}

theorem nat {n : Nat} (small : n < UInt64.size) : Readable depth (.nat n) := .int ⟨by omega, by exact_mod_cast small⟩

theorem ofWord (word : UInt64) : Readable depth (.ofWord word) := nat word.toNat_lt

theorem list_map {α : Type} {write : α → Json} {items : List α} (inner : ∀ item ∈ items, Readable depth (write item)) :
    Readable (depth + 1) (.list (items.map write)) :=
  .list (List.forall_mem_map.mpr inner)

theorem ofBytes (bytes : Bytes) : Readable (depth + 1) (.ofBytes bytes) :=
  list_map fun byte _ => nat (Nat.lt_trans byte.toNat_lt (by decide))

end Readable

mutual

def Fragment.ofJson : Json → Fragment
  | .list items => .list (ofItems items) true
  | .object members => .object (ofMembers members) true
  | value => .whole value

def Fragment.ofItems : List Json → List Fragment
  | [] => []
  | item :: rest => ofJson item :: ofItems rest

def Fragment.ofMembers : List (String × Json) → List (Option String × Fragment)
  | [] => []
  | (name, value) :: rest => (some name, ofJson value) :: ofMembers rest

end

section

variable {depth fuel : Nat} {value : Json} {rest : Bytes}

theorem Fragment.toJson?_ofJson (readable : Readable depth value) : (ofJson value).toJson? depth = some value := by
  induction readable with
  | null => rfl
  | bool value => rfl
  | int whole => rfl
  | text value => rfl
  | list inner ih =>
    next depth items =>
    have all : itemsToJson? depth (ofItems items) = some items := by
      clear inner
      induction items with
      | nil => rfl
      | cons item items others =>
        obtain ⟨first, rest⟩ := List.forall_mem_cons.mp ih
        simp only [ofItems, itemsToJson?, first, others rest, Option.bind_eq_bind, Option.bind_some, Option.pure_def]
    rw [ofJson, toJson?, all]
    rfl
  | object inner ih =>
    next depth members =>
    have all : membersToJson? depth (ofMembers members) = some members := by
      clear inner
      induction members with
      | nil => rfl
      | cons member members others =>
        obtain ⟨first, rest⟩ := List.forall_mem_cons.mp ih
        simp only [ofMembers, membersToJson?, first, others rest, Option.bind_eq_bind, Option.bind_some,
          Option.pure_def]
    rw [ofJson, toJson?, all]
    rfl

theorem written_eq_cons (readable : Readable depth value) :
    ∃ byte tail, written value = byte :: tail ∧ isBlank byte = false ∧ byte ≠ 0x5d := by
  cases readable with
  | null => exact ⟨_, _, written_null, by decide, by decide⟩
  | bool value =>
    cases value with
    | true => exact ⟨_, _, written_true, by decide, by decide⟩
    | false => exact ⟨_, _, written_false, by decide, by decide⟩
  | int whole =>
    next number =>
    obtain ⟨byte, tail, split, first⟩ := Number.ofText_eq_cons number
    exact ⟨byte, tail, (written_int number).trans split, Number.isBlank_of_starts first, Number.ne_of_starts first rfl⟩
  | text value => exact ⟨_, _, written_text value, by decide, by decide⟩
  | list inner => exact ⟨_, _, written_list _, by decide, by decide⟩
  | object inner => exact ⟨_, _, written_object _, by decide, by decide⟩

def ReadBack (value : Json) : Prop := ∀ fuel rest, 2 * (written value).length ≤ fuel → Number.Ends rest →
  readValue fuel (written value ++ rest) = (Fragment.ofJson value, some rest)

theorem ends_of_mark {mark : UInt8} (listed : mark ∈ [(0x2c : UInt8), 0x5d, 0x7d]) (rest : Bytes) :
    Number.Ends (mark :: rest) := by
  intro byte head
  cases head
  simp only [List.mem_cons, List.not_mem_nil, or_false] at listed
  rcases listed with rfl | rfl | rfl <;> decide

theorem joined_cons_cons (piece next : Bytes) (pieces : List Bytes) :
    joined true (piece :: next :: pieces) = piece ++ 0x2c :: joined true (next :: pieces) := by
  simp [joined]

theorem readItems_joined {items : List Json} (filled : items ≠ []) (inner : ∀ item ∈ items, ReadBack item)
    (enough : 2 * (joined true (items.map written)).length + 1 ≤ fuel) (rest : Bytes) :
    readItems fuel (joined true (items.map written) ++ 0x5d :: rest) = (Fragment.ofItems items, some rest) := by
  -- Every item takes a step of its own, for which the comma or the bracket behind it is counted twice.
  induction items generalizing fuel with
  | nil => exact absurd rfl filled
  | cons item items ih =>
    obtain ⟨first, others⟩ := List.forall_mem_cons.mp inner
    obtain ⟨fuel, rfl⟩ := Nat.exists_eq_add_one_of_ne_zero (show fuel ≠ 0 by omega)
    cases items with
    | nil =>
      have alone : joined true ([item].map written) = written item := List.append_nil _
      rw [alone] at enough ⊢
      rw [readItems, first fuel _ (by omega) (ends_of_mark (by decide) rest)]
      simp only [skipBlanks_cons (show isBlank 0x5d = false from rfl)]
      rfl
    | cons next items =>
      rw [List.map_cons, List.map_cons, joined_cons_cons] at enough ⊢
      rw [List.length_append, List.length_cons] at enough
      have behind : readItems fuel (joined true (written next :: items.map written) ++ 0x5d :: rest) =
          (Fragment.ofItems (next :: items), some rest) :=
        ih (List.cons_ne_nil next items) others (by rw [List.map_cons]; omega)
      rw [List.append_assoc, List.cons_append, readItems, first fuel _ (by omega) (ends_of_mark (by decide) _)]
      simp only [skipBlanks_cons (show isBlank 0x2c = false from rfl), behind]
      rfl

section

variable (name : String) (read : ReadBack value) (enough : 2 * (written value).length ≤ fuel)
include read enough

theorem readMembers_last (rest : Bytes) :
    readMembers (fuel + 1) (writtenMember (name, value) ++ 0x7d :: rest) =
      ([(some name, Fragment.ofJson value)], some rest) := by
  have valued := read fuel (0x7d :: rest) enough (ends_of_mark (by decide) rest)
  rw [writtenMember, quoted, List.cons_append, List.cons_append, readMembers, skipBlanks_cons rfl]
  simp only [List.append_assoc, List.cons_append, List.nil_append, readText_quoted, valued,
    skipBlanks_cons (show isBlank 0x3a = false from rfl), skipBlanks_cons (show isBlank 0x7d = false from rfl)]

theorem readMembers_next {members : List (Option String × Fragment)} {after : Option Bytes}
    (behind : readMembers fuel rest = (members, after)) :
    readMembers (fuel + 1) (writtenMember (name, value) ++ 0x2c :: rest) =
      ((some name, Fragment.ofJson value) :: members, after) := by
  have valued := read fuel (0x2c :: rest) enough (ends_of_mark (by decide) rest)
  rw [writtenMember, quoted, List.cons_append, List.cons_append, readMembers, skipBlanks_cons rfl]
  simp only [List.append_assoc, List.cons_append, List.nil_append, readText_quoted, valued,
    skipBlanks_cons (show isBlank 0x3a = false from rfl), skipBlanks_cons (show isBlank 0x2c = false from rfl), behind]

end

theorem readMembers_joined {members : List (String × Json)} (filled : members ≠ [])
    (inner : ∀ member ∈ members, ReadBack member.2)
    (enough : 2 * (joined true (members.map writtenMember)).length + 1 ≤ fuel) (rest : Bytes) :
    readMembers fuel (joined true (members.map writtenMember) ++ 0x7d :: rest) =
      (Fragment.ofMembers members, some rest) := by
  have longer (member : String × Json) : (written member.2).length < (writtenMember member).length := by
    rw [writtenMember, List.length_append, List.length_cons]
    omega
  induction members generalizing fuel with
  | nil => exact absurd rfl filled
  | cons member members ih =>
    obtain ⟨first, others⟩ := List.forall_mem_cons.mp inner
    obtain ⟨fuel, rfl⟩ := Nat.exists_eq_add_one_of_ne_zero (show fuel ≠ 0 by omega)
    have short := longer member
    cases members with
    | nil =>
      have alone : joined true ([member].map writtenMember) = writtenMember member := List.append_nil _
      rw [alone] at enough ⊢
      exact readMembers_last member.1 first (by omega) rest
    | cons next members =>
      rw [List.map_cons, List.map_cons, joined_cons_cons] at enough ⊢
      rw [List.length_append, List.length_cons] at enough
      have behind : readMembers fuel (joined true (writtenMember next :: members.map writtenMember) ++ 0x7d :: rest) =
          (Fragment.ofMembers (next :: members), some rest) :=
        ih (List.cons_ne_nil next members) others (by rw [List.map_cons]; omega)
      rw [List.append_assoc, List.cons_append]
      exact readMembers_next member.1 first (by omega) behind

theorem readBack_of_cons {byte : UInt8} {tail : Bytes} (split : written value = byte :: tail)
    (read : ∀ fuel rest, 2 * tail.length + 1 ≤ fuel → Number.Ends rest →
      readValue (fuel + 1) (byte :: (tail ++ rest)) = (Fragment.ofJson value, some rest)) : ReadBack value := by
  intro fuel rest enough ends
  rw [split] at enough ⊢
  rw [List.length_cons] at enough
  obtain ⟨fuel, rfl⟩ := Nat.exists_eq_add_one_of_ne_zero (show fuel ≠ 0 by omega)
  exact read fuel rest (by omega) ends

theorem readBack_list {items : List Json} (inner : ∀ item ∈ items, Readable depth item ∧ ReadBack item) :
    ReadBack (.list items) := by
  refine readBack_of_cons (written_list items) fun fuel rest enough _ => ?_
  rw [List.length_append, List.length_singleton] at enough
  rw [List.append_assoc, readValue, skipBlanks_cons rfl]
  cases items with
  | nil => rfl
  | cons item items =>
    have read : readItems fuel (joined true ((item :: items).map written) ++ 0x5d :: rest) =
        (Fragment.ofItems (item :: items), some rest) :=
      readItems_joined (List.cons_ne_nil item items) (fun item member => (inner item member).2) (by omega) rest
    obtain ⟨byte, tail, split, visible, goesOn⟩ := written_eq_cons (inner item List.mem_cons_self).1
    simp only [List.map_cons, joined, if_true, split, List.cons_append, List.nil_append] at read ⊢
    simp only [skipBlanks_cons visible]
    split
    · next ended => exact absurd (List.cons.inj ended).1 goesOn
    · exact congrArg (fun read => (Fragment.list read.1 read.2.isSome, read.2)) read

theorem readBack_object {members : List (String × Json)} (inner : ∀ member ∈ members, ReadBack member.2) :
    ReadBack (.object members) := by
  refine readBack_of_cons (written_object members) fun fuel rest enough _ => ?_
  rw [List.length_append, List.length_singleton] at enough
  rw [List.append_assoc, readValue, skipBlanks_cons rfl]
  cases members with
  | nil => rfl
  | cons member members =>
    have read : readMembers fuel (joined true ((member :: members).map writtenMember) ++ 0x7d :: rest) =
        (Fragment.ofMembers (member :: members), some rest) :=
      readMembers_joined (List.cons_ne_nil member members) inner (by omega) rest
    simp only [List.map_cons, joined, if_true, writtenMember, quoted, List.cons_append, List.nil_append] at read ⊢
    simp only [skipBlanks_cons (show isBlank 0x22 = false from rfl)]
    exact congrArg (fun read => (Fragment.object read.1 read.2.isSome, read.2)) read

/-- Whatever can be read is, from what is written for it. -/
theorem readBack (readable : Readable depth value) : ReadBack value := by
  induction readable with
  | null => exact readBack_of_cons written_null fun _ _ _ _ => rfl
  | bool value =>
    cases value with
    | true => exact readBack_of_cons written_true fun _ _ _ _ => rfl
    | false => exact readBack_of_cons written_false fun _ _ _ _ => rfl
  | int whole =>
    next depth number =>
    obtain ⟨byte, tail, split, first⟩ := Number.ofText_eq_cons number
    refine readBack_of_cons ((written_int number).trans split) fun fuel rest _ ends => ?_
    rw [readValue_number first, ← List.cons_append, ← split, numberFragment_int whole ends]
    rfl
  | text text =>
    refine readBack_of_cons (written_text text) fun fuel rest _ _ => ?_
    rw [List.append_assoc, readValue, skipBlanks_cons rfl]
    simp only [List.singleton_append, readText_quoted, textFragment]
    rfl
  | list inner ih => exact readBack_list fun item member => ⟨inner item member, ih item member⟩
  | object inner ih => exact readBack_object ih

theorem Fragment.ofBytes_written (readable : Readable depth value) :
    ofBytes (written value) = (ofJson value, some []) := by
  have read := readBack readable (2 * (written value).length + 2) [] (by omega) (by simp [Number.Ends])
  rwa [List.append_nil] at read

theorem Fragment.ofDocument?_render (readable : Readable depth value) :
    ofDocument? (Bytes.ofText (render value)) = some (ofJson value) := by
  have read : ofBytes (Bytes.ofText (render value)) = _ := ofBytes_written readable
  rw [ofDocument?, read]
  rfl

theorem ofText?_render (readable : Readable depthLimit value) : ofText? (render value) = some value := by
  rw [ofText?, document?, Fragment.ofDocument?_render readable, Option.bind_some]
  exact Fragment.toJson?_ofJson readable

mutual

theorem Fragment.complete_ofJson : (value : Json) → (ofJson value).complete
  | .null | .bool _ | .int _ | .real _ | .text _ => rfl
  | .list items => by rw [ofJson, complete, completeAll_ofItems items, Bool.and_true]
  | .object members => by rw [ofJson, complete, completeMembers_ofMembers members, Bool.and_true]

theorem Fragment.completeAll_ofItems : (items : List Json) → completeAll (ofItems items)
  | [] => rfl
  | item :: rest => by rw [ofItems, completeAll, complete_ofJson item, completeAll_ofItems rest, Bool.and_true]

theorem Fragment.completeMembers_ofMembers : (members : List (String × Json)) → completeMembers (ofMembers members)
  | [] => rfl
  | (_, value) :: rest => by
    rw [ofMembers, completeMembers, complete_ofJson value, completeMembers_ofMembers rest, Bool.and_true]

end

theorem Fragment.ofNames_ofJson (names : List String) (members : List (String × Json)) :
    (ofJson (.object members)).ofNames names = ofJson (.object (members.filter (names.contains ·.1))) := by
  rw [ofJson, ofNames, ofJson]
  refine congrArg (object · true) ?_
  induction members with
  | nil => rfl
  | cons member members ih =>
    rw [ofMembers, List.filter_cons, List.filter_cons, ih]
    simp only [Option.any_some, complete_ofJson, Bool.and_true, Bool.not_not]
    split <;> rfl

theorem structure?_render {members : List (String × Json)} (names : List String)
    (readable : Readable depthLimit (.object members)) :
    structure? names (Bytes.ofText (render (.object members))) =
      some (.object (members.filter (names.contains ·.1))) := by
  have inner : Readable depthLimit (.object (members.filter (names.contains ·.1))) := by
    cases readable with
    | object inner => exact .object fun member listed => inner member (List.mem_of_mem_filter listed)
  rw [structure?, Fragment.ofDocument?_render readable, Option.bind_some, Fragment.ofNames_ofJson]
  exact Fragment.toJson?_ofJson inner

end

section

variable {name item : String}

theorem exists_not_plain {c letter : Char} (short : shortLetter? c = some letter) :
    ∃ byte ∈ String.utf8EncodeChar c, ¬Plain byte := by
  unfold shortLetter? at short
  split at short <;> cases short <;> exact ⟨_, List.mem_cons_self, by decide⟩

theorem le_of_plain {c : Char} (plain : ∀ byte ∈ String.utf8EncodeChar c, Plain byte) : ' ' ≤ c := by
  refine Char.not_lt.mp fun control => ?_
  have low : c.val.toNat < 0x20 := control
  have alone : String.utf8EncodeChar c = [UInt8.ofNat c.val.toNat] := if_pos (by omega)
  have visible := UInt8.le_iff_toNat_le.mp (plain _ (alone ▸ List.mem_singleton_self _)).1
  rw [UInt8.toNat_ofNat_of_lt' (Nat.lt_trans low (by decide))] at visible
  exact absurd low (Nat.not_lt.mpr visible)

theorem escaped_of_plain {c : Char} (plain : ∀ byte ∈ String.utf8EncodeChar c, Plain byte) :
    escaped c = String.utf8EncodeChar c := by
  unfold escaped
  cases short : shortLetter? c with
  | none => exact if_neg (Char.not_lt.mpr (le_of_plain plain))
  | some letter =>
    obtain ⟨byte, member, other⟩ := exists_not_plain short
    exact absurd (plain byte member) other

theorem quoted_of_plain (plain : ∀ byte ∈ Bytes.ofText item, Plain byte) :
    quoted item = 0x22 :: (Bytes.ofText item ++ [0x22]) := by
  have bytes := Bytes.ofText_eq_flatMap item
  have same : item.toList.flatMap escaped = item.toList.flatMap String.utf8EncodeChar :=
    List.flatMap_congr fun c member => escaped_of_plain fun byte part =>
      plain byte (bytes ▸ List.mem_flatMap.mpr ⟨c, member, part⟩)
  rw [quoted, same, bytes]

theorem ofBytes_listing (named : ∀ byte ∈ Bytes.ofText name, Plain byte)
    (plain : ∀ byte ∈ Bytes.ofText item, Plain byte) :
    Fragment.ofBytes (Bytes.ofText (listing name item)) =
      (.object [(some name, .list [.whole (.text item)] true)] true, some []) := by
  have readable : Readable 2 (.object [(name, .list [.text item])]) :=
    .object (List.forall_mem_singleton.mpr (.list (List.forall_mem_singleton.mpr (.text item))))
  have same : Bytes.ofText (listing name item) = written (.object [(name, .list [.text item])]) := by
    rw [ofText_listing, written_object, List.map_singleton, writtenMember, written_list, List.map_singleton, written_text,
      quoted_of_plain named, quoted_of_plain plain]
    simp [joined]
  rw [same, Fragment.ofBytes_written readable]
  rfl

end

end Availability.Json
