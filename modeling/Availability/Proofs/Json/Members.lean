import Mathlib.Data.List.Nodup
import Availability.Json.Fields

namespace Availability.Json

section

variable {α : Type}

/-- A document is read as a value just when it is what is written for the value, which is valid then. -/
def Exact (write : α → Json) (read? : Json → Option α) (valid : α → Prop) : Prop :=
  ∀ document value, read? document = some value ↔ document = write value ∧ valid value

theorem exact_text : Exact .text toText? fun _ => True := by
  intro document value
  cases document <;> simp [toText?]

theorem exact_index : Exact nat toWord? (· < UInt64.size) := by
  intro document index
  cases document with
  | int number =>
    simp only [toWord?, nat, Json.int.injEq]
    split
    · rw [Option.some_inj]
      omega
    · simp only [reduceCtorEq, false_iff]
      omega
  | _ => simp [toWord?, nat]

theorem exact_word : Exact ofWord word? fun _ => True := by
  intro document word
  have small := word.toNat_lt
  simp only [word?, Option.map_eq_some_iff, exact_index document, and_true]
  constructor
  · rintro ⟨index, ⟨rfl, fits⟩, rfl⟩
    rw [ofWord, UInt64.toNat_ofNat_of_lt' fits]
    rfl
  · rintro rfl
    exact ⟨word.toNat, ⟨rfl, small⟩, UInt64.ofNat_toNat⟩

theorem exact_byte : Exact (fun byte : UInt8 => .int byte.toNat) toByte? fun _ => True := by
  intro document byte
  have small := byte.toNat_lt
  cases document with
  | int number =>
    simp only [toByte?, Json.int.injEq, and_true]
    split
    · rw [Option.some_inj, ← UInt8.toNat_inj, UInt8.toNat_ofNat']
      omega
    · simp only [reduceCtorEq, false_iff]
      omega
  | _ => simp [toByte?]

theorem Exact.list {write : α → Json} {read? : Json → Option α} {valid : α → Prop} (exact : Exact write read? valid) :
    Exact (fun items => .list (items.map write)) (toList? read?) fun items => ∀ item ∈ items, valid item := by
  intro document items
  cases document with
  | list documents =>
    simp only [toList?, Json.list.injEq]
    induction documents generalizing items with
    | nil => cases items <;> simp
    | cons document documents ih =>
      cases items with
      | nil => simp [List.mapM_cons, Option.bind_eq_some_iff]
      | cons item items =>
        simp only [List.mapM_cons, Option.bind_eq_bind, Option.bind_eq_some_iff, Option.pure_def, Option.some_inj,
          List.cons.injEq, List.map_cons, List.forall_mem_cons]
        constructor
        · rintro ⟨first, head, rest, tail, rfl, rfl⟩
          obtain ⟨same, sound⟩ := (exact document first).mp head
          obtain ⟨others, valid⟩ := (ih rest).mp tail
          exact ⟨⟨same, others⟩, sound, valid⟩
        · rintro ⟨⟨same, others⟩, sound, valid⟩
          exact ⟨item, (exact document item).mpr ⟨same, sound⟩, items, (ih items).mpr ⟨others, valid⟩, rfl, rfl⟩
  | _ => simp [toList?]

theorem Exact.always {write : α → Json} {read? : Json → Option α} {valid : α → Prop} (exact : Exact write read? valid)
    (all : ∀ value, valid value) : Exact write read? fun _ => True := by
  intro document value
  rw [exact document value, iff_true_intro (all value)]

theorem exact_bytes : Exact ofBytes bytes? fun _ => True := exact_byte.list.always fun _ _ _ => trivial

end

section

variable {names : List String} {members others : List (String × Json)} {entry : String × Json} {fields : Fields}

def Holds (members : List (String × Json)) (entry : String × Json) : Prop := members.filter (·.1 == entry.1) = [entry]

theorem Holds.mem (holds : Holds members entry) : entry ∈ members :=
  (List.mem_filter.mp (holds ▸ List.mem_singleton_self entry)).1

theorem Holds.eq_of_mem {value : Json} (holds : Holds members entry) (member : (entry.1, value) ∈ members) :
    value = entry.2 := by
  have found : (entry.1, value) ∈ members.filter (·.1 == entry.1) := List.mem_filter.mpr ⟨member, beq_self_eq_true _⟩
  rw [holds, List.mem_singleton] at found
  exact congrArg Prod.snd found

theorem occurrences_eq_count (name : String) (members : List (String × Json)) :
    occurrences name members = (members.map (·.1)).count name := by
  rw [occurrences, ← List.countP_eq_length_filter, List.count, List.countP_map]
  rfl

theorem holds_of_nodup (distinct : (members.map (·.1)).Nodup) (member : entry ∈ members) : Holds members entry := by
  have once := List.nodup_iff_count_le_one.mp distinct entry.1
  rw [← occurrences_eq_count, occurrences] at once
  have found : entry ∈ members.filter (·.1 == entry.1) := List.mem_filter.mpr ⟨member, beq_self_eq_true _⟩
  obtain ⟨only, same⟩ := List.length_eq_one_iff.mp (Nat.le_antisymm once (List.length_pos_of_mem found))
  rw [same, List.mem_singleton] at found
  rw [Holds, same, found]

theorem filter_filter_ne {name other : String} (different : name ≠ other) (members : List (String × Json)) :
    (members.filter (·.1 != other)).filter (·.1 == name) = members.filter (·.1 == name) := by
  rw [List.filter_filter]
  apply List.filter_congr
  intro entry _
  by_cases same : entry.1 = name
  · simp [same, different]
  · simp [same]

theorem find?_eq_of_perm {name : String} (same : (members.filter (·.1 == name)).Perm (others.filter (·.1 == name)))
    (once : occurrences name members ≤ 1) : members.find? (·.1 == name) = others.find? (·.1 == name) := by
  rw [← List.head?_filter, ← List.head?_filter]
  rw [occurrences] at once
  cases given : members.filter (·.1 == name) with
  | nil =>
    rw [given, List.nil_perm] at same
    rw [same]
  | cons entry rest =>
    rw [given] at once same
    rw [List.length_eq_zero_iff.mp (Nat.le_zero.mp (Nat.le_of_succ_le_succ once)), List.singleton_perm] at same
    rw [← same]
    rfl

theorem fields?_congr (same : ∀ name ∈ names, (members.filter (·.1 == name)).Perm (others.filter (·.1 == name))) :
    fields? names (.object members) = fields? names (.object others) := by
  have counts : ∀ name ∈ names, occurrences name members = occurrences name others :=
    fun name listed => (same name listed).length_eq
  have checks : (names.all fun name => decide (occurrences name members ≤ 1)) =
      names.all fun name => decide (occurrences name others ≤ 1) := by
    rw [Bool.eq_iff_iff, List.all_eq_true, List.all_eq_true]
    exact forall₂_congr fun name listed => by rw [counts name listed]
  rw [fields?, fields?, checks]
  split
  · next once =>
    rw [← checks, List.all_eq_true] at once
    have found : ∀ name ∈ names, (name, (members.find? (·.1 == name)).map (·.2)) =
        (name, (others.find? (·.1 == name)).map (·.2)) := fun name listed => by
      rw [find?_eq_of_perm (same name listed) (of_decide_eq_true (once name listed))]
    rw [List.map_congr_left found]
  · rfl

theorem fields?_of_nodup (distinct : (members.map (·.1)).Nodup) :
    ∃ fields, fields? (members.map (·.1)) (.object members) = some fields ∧
      ∀ name value, (name, value) ∈ members → fields.find? name = some value := by
  have once : (members.map (·.1)).all (fun name => decide (occurrences name members ≤ 1)) = true := by
    rw [List.all_eq_true]
    intro name _
    rw [occurrences_eq_count]
    exact decide_eq_true (List.nodup_iff_count_le_one.mp distinct name)
  refine ⟨_, if_pos once, fun name value member => ?_⟩
  have first : members.find? (·.1 == name) = some (name, value) := by
    rw [← List.head?_filter, show members.filter (·.1 == name) = [(name, value)] from holds_of_nodup distinct member]
    rfl
  simp only [Fields.find?, List.find?_map, Function.comp_def, first, Option.map_some, Option.bind_some]

theorem holds_of_find? (given : fields? names (.object members) = some fields) {name : String} {value : Json}
    (found : fields.find? name = some value) : Holds members (name, value) := by
  simp only [fields?, Option.ite_none_right_eq_some, List.all_eq_true, decide_eq_true_eq, Option.some_inj] at given
  obtain ⟨once, rfl⟩ := given
  obtain ⟨⟨_, _⟩, search, rfl⟩ := Option.bind_eq_some_iff.mp found
  obtain ⟨listed, inside, same⟩ := List.mem_map.mp (List.mem_of_find?_eq_some search)
  have named := List.find?_some search
  obtain ⟨rfl, entry⟩ := Prod.mk.inj same
  obtain rfl := beq_iff_eq.mp named
  obtain ⟨⟨other, _⟩, first, rfl⟩ := Option.map_eq_some_iff.mp entry
  have also := List.find?_some first
  obtain rfl := beq_iff_eq.mp also
  have single := once _ inside
  rw [occurrences] at single
  rw [← List.head?_filter] at first
  obtain ⟨rest, split⟩ := List.head?_eq_some_iff.mp first
  rw [split] at single
  rw [Holds, split, List.length_eq_zero_iff.mp (Nat.le_zero.mp (Nat.le_of_succ_le_succ single))]

theorem required_of_find? {α : Type} {write : α → Json} {read? : Json → Option α} {valid : α → Prop}
    (exact : Exact write read? valid) {name : String} {value : α} (found : fields.find? name = some (write value))
    (sound : valid value) : fields.required name read? = some value := by
  rw [Fields.required, found]
  exact (exact _ _).mpr ⟨rfl, sound⟩

theorem holds_of_required {α : Type} {write : α → Json} {read? : Json → Option α} {valid : α → Prop}
    (exact : Exact write read? valid) (given : fields? names (.object members) = some fields) {name : String}
    {value : α} (read : fields.required name read? = some value) :
    Holds members (name, write value) ∧ valid value := by
  obtain ⟨document, found, same⟩ := Option.bind_eq_some_iff.mp read
  obtain ⟨rfl, sound⟩ := (exact document value).mp same
  exact ⟨holds_of_find? given found, sound⟩

end

/-- A notation by objects says all there is to say, once and in any order, whatever else stands in between.
The names that are looked for may depend on the object. -/
structure Faithful {α : Type} (valid : α → Prop) (write : α → Json) (read? : Json → Option α)
    (known : List (String × Json) → String → Prop) : Prop where
  read_write : ∀ value, valid value → read? (write value) = some value
  unordered : ∀ members others extra, (∀ entry ∈ extra, ¬ known members entry.1) → others.Perm (members ++ extra) →
    read? (.object others) = read? (.object members)
  distinct : ∀ first second members others, valid first → valid second → write first = .object members →
    write second = .object others → members.Perm others → first = second
  complete : ∀ members name, known members name → (∀ value, (name, value) ∉ members) →
    read? (.object members) = none

theorem faithful_of_congr {α : Type} {valid : α → Prop} {write : α → Json} {read? : Json → Option α}
    {known : List (String × Json) → String → Prop}
    (written : ∀ value, valid value → read? (write value) = some value)
    (congr : ∀ members others, (∀ name, known members name →
      (members.filter (·.1 == name)).Perm (others.filter (·.1 == name))) →
        read? (.object members) = read? (.object others))
    (complete : ∀ members name, known members name → (∀ value, (name, value) ∉ members) →
      read? (.object members) = none) : Faithful valid write read? known := by
  have unordered (members others extra : List (String × Json)) (skipped : ∀ entry ∈ extra, ¬ known members entry.1)
      (same : others.Perm (members ++ extra)) : read? (.object others) = read? (.object members) := by
    refine (congr members others fun name looked => ?_).symm
    have none_extra : extra.filter (·.1 == name) = [] := by
      rw [List.filter_eq_nil_iff]
      intro entry member found
      exact skipped entry member (beq_iff_eq.mp found ▸ looked)
    have split := same.symm.filter (·.1 == name)
    rwa [List.filter_append, none_extra, List.append_nil] at split
  refine ⟨written, unordered, fun first second members others sound also left right same => ?_, complete⟩
  have reads := unordered others members [] (fun _ member => absurd member List.not_mem_nil) (by simpa using same)
  rw [← left, ← right, written first sound, written second also] at reads
  exact Option.some_inj.mp reads

end Availability.Json
