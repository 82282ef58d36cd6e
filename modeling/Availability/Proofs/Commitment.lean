import Availability.Proofs.Utf8
import Availability.Rollup

namespace Availability.Commitment

inductive Refused : Bytes → Error → Prop where
  | short {bytes : Bytes} (few : bytes.length < 2) : Refused bytes (.tooShort bytes.length)
  | kind {first second : UInt8} {rest : Bytes} (unknown : first ≠ genericType) :
      Refused (first :: second :: rest) (.unknownType first)
  | revision {second : UInt8} {rest : Bytes} (unknown : second ≠ version) :
      Refused (genericType :: second :: rest) (.unknownVersion second)
  | empty : Refused [genericType, version] (.tooShort 2)
  | payload {rest : Bytes} (filled : rest ≠ []) (garbled : ∀ text, rest ≠ Bytes.ofText text) :
      Refused (genericType :: version :: rest) .invalidUri

variable {bytes other : Bytes} {uri : String} {err : Error}

theorem decode_encode (filled : uri ≠ "") : decode (encode uri) = .ok uri := by
  have some_bytes : (Bytes.ofText uri).isEmpty = false := by
    rw [List.isEmpty_eq_false_iff]
    exact fun empty => filled (Bytes.ofText_eq_nil_iff.mp empty)
  simp [encode, decode, some_bytes, Utf8.decode?_ofText]

theorem decode_of_refused (refused : Refused bytes err) : decode bytes = .error err := by
  cases refused with
  | short few =>
    match bytes with
    | [] | [_] => rfl
    | _ :: _ :: rest => exact absurd few (by simp)
  | kind unknown => rw [decode, if_pos unknown]
  | revision unknown => rw [decode, if_neg (fun differs => differs rfl), if_pos unknown]
  | empty => rfl
  | @payload rest filled garbled =>
    have unread : Utf8.decode? rest = none := by
      rw [Option.eq_none_iff_forall_ne_some]
      exact fun text read => garbled text (Utf8.decode?_eq_some_iff.mp read)
    simp [decode, filled, unread]

theorem encoded_or_refused (bytes : Bytes) :
    (∃ uri, uri ≠ "" ∧ bytes = encode uri) ∨ ∃ err, Refused bytes err := by
  match bytes with
  | [] | [_] => exact .inr ⟨_, .short (by simp)⟩
  | first :: second :: rest =>
    by_cases kind : first = genericType
    · subst kind
      by_cases revision : second = version
      · subst revision
        by_cases empty : rest = []
        · subst empty
          exact .inr ⟨_, .empty⟩
        · by_cases text : ∃ text, rest = Bytes.ofText text
          · obtain ⟨uri, rfl⟩ := text
            exact .inl ⟨uri, fun blank => empty (Bytes.ofText_eq_nil_iff.mpr blank), rfl⟩
          · exact .inr ⟨_, .payload empty (not_exists.mp text)⟩
      · exact .inr ⟨_, .revision revision⟩
    · exact .inr ⟨_, .kind kind⟩

theorem decode_eq_ok_iff : decode bytes = .ok uri ↔ uri ≠ "" ∧ bytes = encode uri := by
  constructor
  · intro decoded
    rcases encoded_or_refused bytes with ⟨text, filled, rfl⟩ | ⟨err, refused⟩
    · rw [decode_encode filled] at decoded
      cases decoded
      exact ⟨filled, rfl⟩
    · rw [decode_of_refused refused] at decoded
      cases decoded
  · rintro ⟨filled, rfl⟩
    exact decode_encode filled

theorem decode_eq_error_iff : decode bytes = .error err ↔ Refused bytes err := by
  constructor
  · intro failed
    rcases encoded_or_refused bytes with ⟨text, filled, rfl⟩ | ⟨cause, refused⟩
    · rw [decode_encode filled] at failed
      cases failed
    · rw [decode_of_refused refused] at failed
      cases failed
      exact refused
  · exact decode_of_refused

end Availability.Commitment
