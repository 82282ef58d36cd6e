import Availability.Utf8

namespace Availability

theorem toList_loop (bytes : ByteArray) (index : Nat) (done : Bytes) :
    ByteArray.toList.loop bytes index done = done.reverse ++ bytes.data.toList.drop index := by
  fun_induction ByteArray.toList.loop bytes index done with
  | case1 index done inside ih =>
    have position : index < bytes.data.toList.length := by simpa using inside
    rw [ih, List.drop_eq_getElem_cons position]
    simp [ByteArray.get!, inside]
  | case2 index done outside =>
    rw [List.drop_eq_nil_of_le (by simpa using Nat.le_of_not_lt outside), List.append_nil]

namespace Bytes

theorem ofText_eq (text : String) : ofText text = text.toByteArray.data.toList := by
  change ByteArray.toList.loop text.toByteArray 0 [] = _
  rw [toList_loop]
  rfl

theorem toByteArray_ofText (text : String) : (⟨(ofText text).toArray⟩ : ByteArray) = text.toByteArray := by
  rw [ofText_eq]

theorem length_ofText (text : String) : (ofText text).length = text.utf8ByteSize := by
  rw [ofText_eq]
  exact Array.length_toList

theorem ofText_ofList (cs : List Char) : ofText (String.ofList cs) = cs.flatMap String.utf8EncodeChar := by
  rw [ofText_eq, String.toByteArray_ofList, List.utf8Encode, List.data_toByteArray]

theorem ofText_eq_flatMap (text : String) : ofText text = text.toList.flatMap String.utf8EncodeChar := by
  rw [← ofText_ofList, String.ofList_toList]

theorem ofText_append (first second : String) : ofText (first ++ second) = ofText first ++ ofText second := by
  rw [ofText_eq, ofText_eq, ofText_eq, String.toByteArray_append, ByteArray.data_append, Array.toList_append]

theorem ofText_eq_nil_iff {text : String} : ofText text = [] ↔ text = "" := by
  rw [← List.length_eq_zero_iff, length_ofText, String.utf8ByteSize_eq_zero_iff]

end Bytes

namespace Utf8

theorem decode?_ofText (text : String) : decode? (Bytes.ofText text) = some text := by
  rw [decode?, Bytes.toByteArray_ofText, String.fromUTF8?, dif_pos text.isValidUTF8]
  rfl

theorem decode?_eq_some_iff {bytes : Bytes} {text : String} : decode? bytes = some text ↔ bytes = Bytes.ofText text := by
  constructor
  · intro read
    unfold decode? String.fromUTF8? at read
    split at read
    · cases read
      rw [Bytes.ofText_eq]
      rfl
    · cases read
  · rintro rfl
    exact decode?_ofText text

theorem ofText_injective {first second : String} (same : Bytes.ofText first = Bytes.ofText second) : first = second := by
  have texts := congrArg decode? same
  rwa [decode?_ofText, decode?_ofText, Option.some_inj] at texts

theorem decode_ofText (text : String) : decode (Bytes.ofText text) = .ok text := by
  rw [decode, decode?_ofText]

end Utf8

end Availability
