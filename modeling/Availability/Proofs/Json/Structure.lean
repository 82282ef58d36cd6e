import Availability.Json.Shape
import Availability.Proofs.Json.Members
import Availability.Proofs.Json.ReadBack

namespace Availability.Json

variable {fields : List (String × Shape)} {members read : List (String × Json)} {name : String} {value : Json}

theorem member?_of_nodup (distinct : (members.map (·.1)).Nodup) (member : (name, value) ∈ members) :
    (Json.object members).member? name = some value := by
  have alone : members.filter (·.1 == name) = [(name, value)] := holds_of_nodup distinct member
  rw [member?, ← List.head?_filter, List.filter_reverse, alone]
  rfl

namespace Shape

def Fits (fields : List (String × Shape)) (members : List (String × Json)) : Prop :=
  ∀ member ∈ members, ∃ shape, fields.lookup member.1 = some shape ∧
    shape.read (Fragment.ofJson member.2) = .ok member.2

theorem readMembers_of_fits (fits : Fits fields members) (distinct : ((read.reverse ++ members).map (·.1)).Nodup) :
    readMembers fields (Fragment.ofMembers members) read = .ok (read.reverse ++ members) := by
  induction members generalizing read with
  | nil => rw [List.append_nil, Fragment.ofMembers, readMembers]
  | cons member members ih =>
    obtain ⟨⟨shape, listed, same⟩, others⟩ := List.forall_mem_cons.mp fits
    have fresh : read.any (·.1 == member.1) = false := by
      simp only [List.any_eq_false, beq_iff_eq]
      intro other earlier named
      have twice : other.1 ∈ read.reverse.map (·.1) := List.mem_map_of_mem (List.mem_reverse.mpr earlier)
      rw [List.map_append] at distinct
      exact (List.disjoint_of_nodup_append distinct twice) (named ▸ List.mem_map_of_mem List.mem_cons_self)
    have step : readMembers fields (Fragment.ofMembers (member :: members)) read =
        readMembers fields (Fragment.ofMembers members) (member :: read) := by
      simp only [Fragment.ofMembers, readMembers, listed, fresh, same, bind, Except.bind]
      rfl
    rw [List.append_cons, ← List.reverse_cons] at distinct ⊢
    rw [step, ih others distinct]

/-- A structure is read from its members in any order. -/
theorem readStructure_of_fits (fits : Fits fields members) (distinct : (members.map (·.1)).Nodup)
    (full : ∀ field ∈ fields, field.1 ∈ members.map (·.1)) :
    readStructure fields (Fragment.ofJson (.object members)) = .ok (.object members) := by
  have read : readMembers fields (Fragment.ofMembers members) [] = .ok members := readMembers_of_fits fits distinct
  have all : (fields.all fun field => members.any (·.1 == field.1)) = true := by
    rw [List.all_eq_true]
    intro field listed
    obtain ⟨member, inside, same⟩ := List.mem_map.mp (full field listed)
    exact List.any_eq_true.mpr ⟨member, inside, beq_iff_eq.mpr same⟩
  simp only [Fragment.ofJson, readStructure, read, all, bind, Except.bind]
  rfl

end Shape

end Availability.Json
