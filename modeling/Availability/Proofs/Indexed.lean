import Mathlib.Data.Finset.Card
import Mathlib.Data.List.Sort
import Mathlib.Order.RelIso.Basic
import Availability.Indexed
import Availability.Proofs.Except

namespace Availability

namespace Indexed

variable {α ε : Type}

theorem insert_perm (entry : Nat × α) (entries : List (Nat × α)) : (insert entry entries).Perm (entry :: entries) := by
  induction entries with
  | nil => rfl
  | cons head rest ih =>
    rw [insert]
    split
    · rfl
    · exact (ih.cons head).trans (.swap entry head rest)

theorem insert_sorted {entry : Nat × α} {entries : List (Nat × α)}
    (sorted : entries.Pairwise (·.1 ≤ ·.1)) : (insert entry entries).Pairwise (·.1 ≤ ·.1) := by
  induction entries with
  | nil => exact List.pairwise_singleton _ _
  | cons head rest ih =>
    obtain ⟨first, later⟩ := List.pairwise_cons.mp sorted
    rw [insert]
    split
    · rename_i before
      refine List.pairwise_cons.mpr ⟨fun other member => ?_, sorted⟩
      rcases List.mem_cons.mp member with rfl | member
      · exact before
      · exact before.trans (first other member)
    · rename_i behind
      refine List.pairwise_cons.mpr ⟨fun other member => ?_, ih later⟩
      rcases List.mem_cons.mp ((insert_perm entry rest).mem_iff.mp member) with rfl | member
      · exact le_of_not_ge behind
      · exact first other member

theorem collect_perm (finished : List (Nat × α)) : (collect finished).Perm finished := by
  induction finished with
  | nil => rfl
  | cons entry rest ih => exact (insert_perm entry _).trans (ih.cons entry)

theorem collect_sorted (finished : List (Nat × α)) : (collect finished).Pairwise (·.1 ≤ ·.1) := by
  induction finished with
  | nil => exact .nil
  | cons entry rest ih => exact insert_sorted ih

theorem collect_of_ascending {finished : List (Nat × α)} (ascending : finished.Pairwise (·.1 ≤ ·.1)) :
    collect finished = finished := by
  induction finished with
  | nil => rfl
  | cons entry rest ih =>
    obtain ⟨first, later⟩ := List.pairwise_cons.mp ascending
    change insert entry (collect rest) = _
    rw [ih later]
    cases rest with
    | nil => rfl
    | cons next rest => rw [insert, if_pos (first next List.mem_cons_self)]

section

variable {finished : List (Nat × α)} {count : Nat}

/-- Once every worker has ended, its result is at its position, in whatever order they ended. -/
theorem collect_positions (complete : (finished.map (·.1)).Perm (List.range count)) :
    (collect finished).map (·.1) = List.range count := by
  have sorted : ((collect finished).map (·.1)).Pairwise (· ≤ ·) := List.pairwise_map.mpr (collect_sorted finished)
  have ascending : (List.range count).Pairwise (· ≤ ·) := List.pairwise_lt_range.imp Nat.le_of_lt
  exact (((collect_perm finished).map _).trans complete).eq_of_pairwise' sorted ascending

theorem collect_ascending (complete : (finished.map (·.1)).Perm (List.range count)) :
    (collect finished).Pairwise (·.1 < ·.1) := by
  rw [← List.pairwise_map, collect_positions complete]
  exact List.pairwise_lt_range

theorem position_eq_of_getElem?_collect (complete : (finished.map (·.1)).Perm (List.range count)) {position : Nat}
    {entry : Nat × α} (found : (collect finished)[position]? = some entry) : entry.1 = position := by
  have positions := congrArg (·[position]?) (collect_positions complete)
  simp only [List.getElem?_map, found, Option.map_some] at positions
  obtain ⟨_, same⟩ := List.getElem?_eq_some_iff.mp positions.symm
  rw [← same, List.getElem_range]

theorem length_collect (complete : (finished.map (·.1)).Perm (List.range count)) :
    (collect finished).length = count := by
  rw [(collect_perm finished).length_eq, ← List.length_map, complete.length_eq, List.length_range]

theorem getElem?_collect (complete : (finished.map (·.1)).Perm (List.range count)) (position : Nat)
    (result : α) : ((collect finished).map (·.2))[position]? = some result ↔ (position, result) ∈ finished := by
  rw [← (collect_perm finished).mem_iff, List.getElem?_map, Option.map_eq_some_iff]
  constructor
  · rintro ⟨entry, found, rfl⟩
    rw [← position_eq_of_getElem?_collect complete found]
    exact List.mem_of_getElem? found
  · intro member
    obtain ⟨index, found⟩ := List.mem_iff_getElem?.mp member
    have here : position = index := position_eq_of_getElem?_collect complete found
    exact ⟨(position, result), here ▸ found, rfl⟩

theorem zipIdx_collect (complete : (finished.map (·.1)).Perm (List.range count)) :
    ((collect finished).map (·.2)).zipIdx.map (fun (result, position) => (position, result)) = collect finished := by
  apply List.ext_getElem (by simp)
  intro position _ inside
  have place := position_eq_of_getElem?_collect complete (List.getElem?_eq_getElem inside)
  simp only [List.getElem_map, List.getElem_zipIdx, Nat.zero_add]
  exact Prod.ext place.symm rfl

theorem collect_map_item {ι : Type} {items : List ι} (complete : (finished.map (·.1)).Perm (List.range items.length))
    (fallback : ι) :
    (collect finished).map (fun entry => (items.getD entry.1 fallback, entry.2)) =
      items.zip ((collect finished).map (·.2)) := by
  apply List.ext_getElem (by simp [length_collect complete])
  intro position _ _
  have inside : position < (collect finished).length := by simp_all
  have within : position < items.length := length_collect complete ▸ inside
  have place := position_eq_of_getElem?_collect complete (List.getElem?_eq_getElem inside)
  simp [place, within]

theorem collect_eq_map {f : Nat → α} (complete : (finished.map (·.1)).Perm (List.range count))
    (each : ∀ position result, (position, result) ∈ finished → result = f position) :
    collect finished = (List.range count).map fun position => (position, f position) := by
  rw [← collect_positions complete, List.map_map]
  conv_lhs => rw [← List.map_id (collect finished)]
  apply List.map_congr_left
  intro entry member
  exact Prod.ext rfl (each entry.1 entry.2 ((collect_perm finished).mem_iff.mp member))

end

section

variable {entries others : List (Nat × α)}

theorem find?_eq_some_iff (ascending : entries.Pairwise (·.1 < ·.1)) {position : Nat} {value : α} :
    (entries.find? (·.1 == position)).map (·.2) = some value ↔ (position, value) ∈ entries := by
  induction entries with
  | nil => simp
  | cons entry rest ih =>
    obtain ⟨first, later⟩ := List.pairwise_cons.mp ascending
    rw [List.find?_cons, List.mem_cons]
    by_cases here : entry.1 = position
    · have elsewhere : (position, value) ∉ rest := fun member => absurd (first _ member) (by simp [here])
      simp only [here, beq_self_eq_true, Option.map_some, Option.some_inj, elsewhere, or_false]
      constructor
      · rintro rfl
        exact Prod.ext here.symm rfl
      · intro same
        exact (congrArg Prod.snd same).symm
    · have skipped : (entry.1 == position) = false := by simpa using here
      have other : (position, value) ≠ entry := fun same => here (congrArg Prod.fst same).symm
      simp only [skipped, other, false_or]
      exact ih later

theorem nodup_of_ascending (ascending : entries.Pairwise (·.1 < ·.1)) : entries.Nodup :=
  ascending.imp fun before => ne_of_apply_ne (·.1) (Nat.ne_of_lt before)

theorem length_eq_card (ascending : entries.Pairwise (·.1 < ·.1)) {positions : Finset Nat}
    (same : ∀ position, position ∈ positions ↔ ∃ value, (position, value) ∈ entries) :
    entries.length = positions.card := by
  have distinct : (entries.map (·.1)).Nodup := List.pairwise_map.mpr (ascending.imp Nat.ne_of_lt)
  have listed : (entries.map (·.1)).toFinset = positions := by
    ext position
    rw [List.mem_toFinset, List.mem_map, same]
    constructor
    · rintro ⟨entry, member, rfl⟩
      exact ⟨entry.2, member⟩
    · rintro ⟨value, member⟩
      exact ⟨(position, value), member, rfl⟩
  rw [← listed, List.toFinset_card_of_nodup distinct, List.length_map]

theorem eq_of_mem_iff (ascending : entries.Pairwise (·.1 < ·.1)) (also : others.Pairwise (·.1 < ·.1))
    (same : ∀ entry, entry ∈ entries ↔ entry ∈ others) : entries = others := by
  have permuted := (List.perm_ext_iff_of_nodup (nodup_of_ascending ascending) (nodup_of_ascending also)).mpr same
  exact permuted.eq_of_pairwise (fun _ _ _ _ one other => absurd one (Nat.lt_asymm other)) ascending also

end

def succeeded (results : List (Nat × Except ε α)) : List (Nat × α) :=
  results.filterMap fun (position, result) => result.toOption.map (position, ·)

theorem join_tolerate (results : List (Nat × Except ε α)) : join .tolerate results = .ok (succeeded results) := by
  induction results with
  | nil => rfl
  | cons entry rest ih =>
    obtain ⟨position, result⟩ := entry
    cases result with
    | error err => simpa [join, succeeded, Except.toOption] using ih
    | ok value => simpa [join, succeeded, Except.map, Except.toOption] using congrArg (Except.map _) ih

theorem join_of_ok (policy : Policy) (results : List (Nat × Except ε α))
    (each : ∀ entry ∈ results, ∃ value, entry.2 = .ok value) : ∃ values, join policy results = .ok values := by
  induction results with
  | nil => exact ⟨[], rfl⟩
  | cons entry rest ih =>
    obtain ⟨position, result⟩ := entry
    obtain ⟨value, rfl⟩ := each (position, result) List.mem_cons_self
    obtain ⟨values, joined⟩ := ih fun other member => each other (List.mem_cons_of_mem _ member)
    exact ⟨(position, value) :: values, by rw [join, joined]; rfl⟩

theorem join_abort_eq_ok {results : List (Nat × Except ε α)} {values : List (Nat × α)}
    (joined : join .abort results = .ok values) : results = values.map fun entry => (entry.1, .ok entry.2) := by
  induction results generalizing values with
  | nil =>
    cases joined
    rfl
  | cons entry rest ih =>
    obtain ⟨position, err | value⟩ := entry
    · cases joined
    · rw [join] at joined
      cases later : join .abort rest with
      | error err =>
        rw [later] at joined
        cases joined
      | ok others =>
        rw [later] at joined
        cases joined
        rw [ih later]
        rfl

theorem join_abort_eq_ok_iff {results : List (Nat × Except ε α)} {values : List (Nat × α)} :
    join .abort results = .ok values ↔ results = values.map fun entry => (entry.1, .ok entry.2) := by
  refine ⟨join_abort_eq_ok, ?_⟩
  rintro rfl
  induction values with
  | nil => rfl
  | cons entry rest ih =>
    rw [List.map_cons, join, ih]
    rfl

def FirstFailure (results : List (Except ε α)) (err : ε) : Prop :=
  ∃ position : Nat, results[position]? = some (.error err) ∧
    ∀ earlier < position, ∃ value, results[earlier]? = some (.ok value)

theorem join_abort_eq_error_iff {results : List (Nat × Except ε α)} {err : ε} :
    join .abort results = .error err ↔ FirstFailure (results.map (·.2)) err := by
  unfold FirstFailure
  induction results with
  | nil => simp [join]
  | cons entry rest ih =>
    obtain ⟨place, failure | value⟩ := entry
    · -- The head has failed, so no later failure is the first.
      have first : join .abort ((place, .error failure) :: rest) = .error failure := rfl
      rw [first]
      constructor
      · intro same
        cases same
        exact ⟨0, rfl, fun _ before => absurd before (Nat.not_lt_zero _)⟩
      · rintro ⟨position, here, before⟩
        cases position with
        | zero =>
          cases here
          rfl
        | succ position =>
          obtain ⟨value, found⟩ := before 0 position.succ_pos
          cases found
    · have later : join .abort ((place, .ok value) :: rest) = .error err ↔ join .abort rest = .error err := by
        rw [join]
        cases join .abort rest <;> simp [Except.map]
      rw [later, ih]
      constructor
      · rintro ⟨position, here, before⟩
        refine ⟨position + 1, here, fun earlier behind => ?_⟩
        cases earlier with
        | zero => exact ⟨value, rfl⟩
        | succ earlier => exact before earlier (Nat.lt_of_succ_lt_succ behind)
      · rintro ⟨position, here, before⟩
        cases position with
        | zero => cases here
        | succ position => exact ⟨position, here, fun earlier behind => before (earlier + 1) (Nat.succ_lt_succ behind)⟩

theorem join_abort_values_iff {results : List (Nat × Except ε α)} {values : List α} :
    (join .abort results).map (·.map (·.2)) = .ok values ↔ results.map (·.2) = values.map .ok := by
  constructor
  · intro resolved
    obtain ⟨entries, joined, rfl⟩ := Except.map_eq_ok.mp resolved
    rw [join_abort_eq_ok joined, List.map_map, List.map_map]
    rfl
  · intro same
    rcases joined : join .abort results with err | entries
    · obtain ⟨position, failed, -⟩ := join_abort_eq_error_iff.mp joined
      rw [same, List.getElem?_map, Option.map_eq_some_iff] at failed
      obtain ⟨value, -, returned⟩ := failed
      cases returned
    · rw [join_abort_eq_ok joined, List.map_map] at same
      have every : (entries.map (·.2)).map Except.ok = values.map (Except.ok : α → Except ε α) := by
        rw [← same, List.map_map]
        rfl
      exact congrArg Except.ok (List.map_injective_iff.mpr (fun _ _ => Except.ok.inj) every)

theorem filter_succeeded {positions : List Nat} {look : Nat → Except ε α} {value : Nat → α} {p : Nat → Bool}
    {q : Nat × α → Bool}
    (picked : ∀ position ∈ positions, p position = true → look position = .ok (value position) ∧
      q (position, value position) = true)
    (dropped : ∀ position ∈ positions, p position = false → ∀ other, look position = .ok other →
      q (position, other) = false) :
    (succeeded (positions.map fun position => (position, look position))).filter q =
      (positions.filter p).map fun position => (position, value position) := by
  induction positions with
  | nil => rfl
  | cons position rest ih =>
    have others := ih (fun other member => picked other (List.mem_cons_of_mem _ member))
      fun other member => dropped other (List.mem_cons_of_mem _ member)
    rw [List.map_cons, succeeded, List.filterMap_cons]
    cases kind : p position with
    | true =>
      obtain ⟨found, passes⟩ := picked position List.mem_cons_self kind
      rw [List.filter_cons_of_pos kind, List.map_cons, found]
      simp only [Except.toOption, Option.map_some]
      rw [List.filter_cons_of_pos passes]
      exact congrArg _ others
    | false =>
      rw [List.filter_cons_of_neg (by simp [kind])]
      cases found : look position with
      | error err => exact others
      | ok other =>
        have fails := dropped position List.mem_cons_self kind other found
        simp only [Except.toOption, Option.map_some]
        rw [List.filter_cons_of_neg (by simp [fails])]
        exact others

theorem mem_succeeded {results : List (Nat × Except ε α)} {position : Nat} {value : α} :
    (position, value) ∈ succeeded results ↔ (position, .ok value) ∈ results := by
  simp only [succeeded, List.mem_filterMap, Option.map_eq_some_iff, Prod.mk.injEq]
  constructor
  · rintro ⟨⟨_, result⟩, member, _, found, rfl, rfl⟩
    cases result with
    | error err => cases found
    | ok value =>
      cases found
      exact member
  · intro member
    exact ⟨_, member, value, rfl, rfl, rfl⟩

theorem succeeded_of_ascending {results : List (Nat × Except ε α)} (ascending : results.Pairwise (·.1 < ·.1)) :
    (succeeded results).Pairwise (·.1 < ·.1) := by
  refine ascending.filterMap _ fun first second before => ?_
  rintro _ found _ behind
  obtain ⟨_, _, rfl⟩ := Option.map_eq_some_iff.mp found
  obtain ⟨_, _, rfl⟩ := Option.map_eq_some_iff.mp behind
  exact before

section

variable {finished : List (Nat × Except ε α)} {count : Nat}

theorem succeeded_ascending (complete : (finished.map (·.1)).Perm (List.range count)) :
    (succeeded (collect finished)).Pairwise (·.1 < ·.1) :=
  succeeded_of_ascending (collect_ascending complete)

theorem mem_succeeded_collect {position : Nat} {value : α} :
    (position, value) ∈ succeeded (collect finished) ↔ (position, .ok value) ∈ finished := by
  rw [mem_succeeded, (collect_perm finished).mem_iff]

theorem result_unique {finished : List (Nat × α)} (complete : (finished.map (·.1)).Perm (List.range count))
    {position : Nat} {first second : α} (one : (position, first) ∈ finished) (other : (position, second) ∈ finished) :
    first = second := by
  have found := (getElem?_collect complete position first).mpr one
  rw [(getElem?_collect complete position second).mpr other] at found
  exact (Option.some_inj.mp found).symm

/-- The values of a complete map are those of its workers, each at its position. -/
theorem values_of_collect (complete : (finished.map (·.1)).Perm (List.range count)) {values : List α}
    (joined : (join .abort (collect finished)).map (·.map (·.2)) = .ok values) :
    values.length = count ∧ ∀ position value, values[position]? = some value → (position, .ok value) ∈ finished := by
  have every := join_abort_values_iff.mp joined
  constructor
  · have length := congrArg List.length every
    rw [List.length_map, List.length_map, length_collect complete] at length
    exact length.symm
  · intro position value listed
    rw [← getElem?_collect complete, every, List.getElem?_map, listed, Option.map_some]

end

end Indexed

end Availability
