import Availability.Storage

namespace Availability.Protocol

theorem afterScheme?_append (scheme id : String) : afterScheme? scheme (scheme ++ id) = some id := by
  have front : scheme.toList.isPrefixOf (scheme ++ id).toList = true := by simp
  rw [afterScheme?, if_pos front, String.toList_append, ← String.length_toList, List.drop_left, String.ofList_toList]

theorem afterScheme?_uriFor {protocol other : Protocol} (distinct : other ≠ protocol) (id : String) :
    afterScheme? other.scheme (protocol.uriFor id) = none := by
  have apart : other.scheme.toList.isPrefixOf (protocol.uriFor id).toList = false := by
    rw [uriFor, String.toList_append]
    cases other <;> cases protocol
    · exact absurd rfl distinct
    · rfl
    · rfl
    · exact absurd rfl distinct
  rw [afterScheme?, apart]
  rfl

theorem ofUri?_uriFor (protocol : Protocol) (id : String) : ofUri? (protocol.uriFor id) = some protocol := by
  have own : afterScheme? protocol.scheme (protocol.uriFor id) = some id := afterScheme?_append protocol.scheme id
  cases protocol with
  | ipfs => simp [ofUri?, all, own]
  | arweave =>
    have other : afterScheme? Protocol.ipfs.scheme (arweave.uriFor id) = none := afterScheme?_uriFor (by decide) id
    simp [ofUri?, all, own, other]

theorem eq_of_uriFor {protocol other : Protocol} {first second : String}
    (same : protocol.uriFor first = other.uriFor second) : protocol = other := by
  have networks := congrArg ofUri? same
  rw [ofUri?_uriFor, ofUri?_uriFor] at networks
  exact Option.some.inj networks

theorem uriFor_injective (protocol : Protocol) {first second : String}
    (same : protocol.uriFor first = protocol.uriFor second) : first = second := by
  have rest := congrArg (afterScheme? protocol.scheme) same
  rw [uriFor, uriFor, afterScheme?_append, afterScheme?_append] at rest
  exact Option.some.inj rest

theorem uriFor_ne_empty (protocol : Protocol) (id : String) : protocol.uriFor id ≠ "" := by
  intro empty
  have texts := congrArg String.toList empty
  rw [uriFor, String.toList_append] at texts
  have scheme := (List.append_eq_nil_iff.mp texts).1
  cases protocol <;> cases scheme

section

variable {protocol first second : Protocol} {uri id : String}

theorem afterScheme?_eq_some_iff {scheme rest : String} :
    afterScheme? scheme uri = some rest ↔ uri = scheme ++ rest := by
  constructor
  · intro found
    unfold afterScheme? at found
    split at found
    · next front =>
      obtain ⟨behind, same⟩ := List.isPrefixOf_iff_prefix.mp front
      rw [← same, ← String.length_toList, List.drop_left] at found
      rw [← Option.some.inj found, ← String.toList_inj, String.toList_append, String.toList_ofList, same]
    · cases found
  · rintro rfl
    exact afterScheme?_append scheme rest

def Owns (protocol : Protocol) (uri : String) : Prop := protocol.scheme.toList <+: uri.toList

theorem owns_iff : protocol.Owns uri ↔ ∃ id, uri = protocol.uriFor id := by
  constructor
  · rintro ⟨behind, same⟩
    refine ⟨String.ofList behind, ?_⟩
    rw [← String.toList_inj, uriFor, String.toList_append, String.toList_ofList, same]
  · rintro ⟨id, rfl⟩
    rw [Owns, uriFor, String.toList_append]
    exact List.prefix_append _ _

theorem owns_uriFor (protocol : Protocol) (id : String) : protocol.Owns (protocol.uriFor id) := owns_iff.mpr ⟨id, rfl⟩

/-- No scheme is the start of another. -/
theorem Owns.unique (one : first.Owns uri) (other : second.Owns uri) : first = second := by
  obtain ⟨id, rfl⟩ := owns_iff.mp one
  obtain ⟨_, same⟩ := owns_iff.mp other
  exact eq_of_uriFor same

theorem Owns.ofUri?_eq (owned : protocol.Owns uri) : ofUri? uri = some protocol := by
  obtain ⟨id, rfl⟩ := owns_iff.mp owned
  exact ofUri?_uriFor protocol id

theorem owns_of_ofUri? (found : ofUri? uri = some protocol) : protocol.Owns uri := by
  have begins : (afterScheme? protocol.scheme uri).isSome = true := by simpa using List.find?_some found
  obtain ⟨rest, behind⟩ := Option.isSome_iff_exists.mp begins
  exact owns_iff.mpr ⟨rest, afterScheme?_eq_some_iff.mp behind⟩

theorem ofUri?_eq_some_iff : ofUri? uri = some protocol ↔ protocol.Owns uri := ⟨owns_of_ofUri?, Owns.ofUri?_eq⟩

theorem ofUri?_eq_none_iff : ofUri? uri = none ↔ ∀ protocol : Protocol, ¬protocol.Owns uri := by
  simp only [Option.eq_none_iff_forall_ne_some, ne_eq, ofUri?_eq_some_iff]

theorem objectId?_eq_some_iff : protocol.objectId? uri = some id ↔ id ≠ "" ∧ uri = protocol.uriFor id := by
  simp only [objectId?, Option.filter_eq_some_iff, afterScheme?_eq_some_iff, uriFor, decide_eq_true_eq]
  exact and_comm

end

end Availability.Protocol

namespace Availability.Storage

section

variable {protocol other : Protocol} {uri id : String} {err : Error}

theorem protocolOfUri_eq_ok_iff : protocolOfUri uri = .ok protocol ↔ protocol.Owns uri := by
  rw [← Protocol.ofUri?_eq_some_iff, protocolOfUri]
  cases Protocol.ofUri? uri <;> simp

theorem protocolOfUri_eq_error_iff :
    protocolOfUri uri = .error err ↔ err = .unsupportedProtocol uri ∧ ∀ protocol : Protocol, ¬protocol.Owns uri := by
  rw [← Protocol.ofUri?_eq_none_iff, protocolOfUri]
  cases Protocol.ofUri? uri <;> simp [eq_comm]

theorem objectId_eq_ok_iff : objectId protocol uri = .ok id ↔ id ≠ "" ∧ uri = protocol.uriFor id := by
  rw [← Protocol.objectId?_eq_some_iff, objectId]
  cases protocol.objectId? uri <;> simp

theorem objectId_uriFor (protocol : Protocol) {id : String} (filled : id ≠ "") :
    objectId protocol (protocol.uriFor id) = .ok id := objectId_eq_ok_iff.mpr ⟨filled, rfl⟩

theorem objectId_of_ne_ok (refused : ∀ id, objectId protocol uri ≠ .ok id) :
    objectId protocol uri = .error (.invalidUri uri) := by
  unfold objectId at refused ⊢
  cases found : protocol.objectId? uri with
  | none => rfl
  | some id =>
    rw [found] at refused
    exact absurd rfl (refused id)

theorem objectId_uriFor_empty (protocol : Protocol) :
    objectId protocol (protocol.uriFor "") = .error (.invalidUri (protocol.uriFor "")) := by
  refine objectId_of_ne_ok fun found read => ?_
  obtain ⟨filled, same⟩ := objectId_eq_ok_iff.mp read
  exact filled (Protocol.uriFor_injective protocol same).symm

theorem objectId_of_apart (named : objectId protocol uri = .ok id) (apart : other ≠ protocol) :
    objectId other uri = .error (.invalidUri uri) := by
  refine objectId_of_ne_ok fun found read => apart ?_
  exact Protocol.eq_of_uriFor ((objectId_eq_ok_iff.mp read).2.symm.trans (objectId_eq_ok_iff.mp named).2)

theorem backendForUri_of_owns (registry : Registry) (owned : protocol.Owns uri) :
    registry.backendForUri uri = registry.backend protocol := by
  rw [Registry.backendForUri, protocolOfUri_eq_ok_iff.mpr owned]
  rfl

end

theorem backendForUri_uriFor {registry : Registry} {protocol : Protocol} (known : protocol ∈ registry) (id : String) :
    registry.backendForUri (protocol.uriFor id) = .ok protocol :=
  (backendForUri_of_owns registry (Protocol.owns_uriFor protocol id)).trans (if_pos known)

theorem backendForUri_missing {registry : Registry} {protocol : Protocol} (missing : protocol ∉ registry)
    (id : String) : registry.backendForUri (protocol.uriFor id) = .error (.backendUnavailable protocol) :=
  (backendForUri_of_owns registry (Protocol.owns_uriFor protocol id)).trans (if_neg missing)

end Availability.Storage
