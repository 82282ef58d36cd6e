import Mathlib.Algebra.Group.Nat.Defs
import Availability.Storage.Memory
import Availability.Proofs.Protocol

namespace Availability

theorem Duration.toList_zeroPadded (width n : Nat) :
    (zeroPadded width n).toList = List.replicate (width - n.repr.length) '0' ++ Nat.toDigits 10 n := by
  change (String.ofList _ ++ n.repr).toList = _
  rw [String.toList_append, String.toList_ofList, Nat.toList_repr]
  rfl

theorem Duration.zeroPadded_injective {width m n : Nat} (same : zeroPadded width m = zeroPadded width n) : m = n := by
  have digits := congrArg (fun text => Nat.ofDigitChars 10 text.toList 0) same
  simp only [toList_zeroPadded, Nat.ofDigitChars_append, Nat.ofDigitChars_replicate_zero, Nat.mul_zero,
    Nat.ofDigitChars_ten_toDigits] at digits
  exact digits

theorem Duration.zeroPadded_ne_empty (width n : Nat) : zeroPadded width n ≠ "" := by
  intro empty
  have digits := congrArg String.toList empty
  rw [toList_zeroPadded] at digits
  exact Nat.toDigits_ne_nil (List.append_eq_nil_iff.mp digits).2

theorem Hex.length_encode (bytes : Bytes) : (encode bytes).length = 2 * bytes.length := by
  rw [encode, String.length_ofList]
  induction bytes with
  | nil => rfl
  | cons byte rest ih =>
    rw [List.flatMap_cons, List.length_append, ih, List.length_cons]
    change 2 + _ = _
    omega

namespace Storage.Memory

def idOf (object : Bytes) (nonce : Nat) : String :=
  Hex.encode ((hash object).toBytes.take 8) ++ Duration.zeroPadded 4 nonce

theorem idOf_ne_empty (object : Bytes) (nonce : Nat) : idOf object nonce ≠ "" := by
  intro empty
  have parts := congrArg String.toList empty
  rw [idOf, String.toList_append] at parts
  exact Duration.zeroPadded_ne_empty 4 nonce (String.toList_eq_nil_iff.mp (List.append_eq_nil_iff.mp parts).2)

theorem length_start (object : Bytes) : (Hex.encode ((hash object).toBytes.take 8)).toList.length = 16 := by
  have size : (hash object).toBytes.length = 32 := Vector.length_toList
  rw [String.length_toList, Hex.length_encode, List.length_take, size]
  rfl

theorem length_uriOf_le (protocol : Protocol) (object : Bytes) {nonce : Nat} (few : nonce < 10 ^ 20) :
    (uriOf protocol object nonce).length ≤ 43 := by
  have scheme : protocol.scheme.length ≤ 7 := by cases protocol <;> decide
  have digits : nonce.repr.length ≤ 20 := (Nat.length_repr_le_iff (by decide)).mpr few
  have count : (Nat.toDigits 10 nonce).length = nonce.repr.length := by rw [← Nat.toList_repr, String.length_toList]
  have start := length_start object
  rw [String.length_toList] at start
  change (protocol.scheme ++ (_ ++ Duration.zeroPadded 4 nonce)).length ≤ 43
  rw [String.length_append, String.length_append, start, ← String.length_toList (s := Duration.zeroPadded 4 nonce),
    Duration.toList_zeroPadded, List.length_append, List.length_replicate, count]
  omega

/-- Objects that are stored one after the other never share a uri. -/
theorem nonce_eq_of_uriOf {protocol : Protocol} {first second : Bytes} {m n : Nat}
    (same : uriOf protocol first m = uriOf protocol second n) : m = n := by
  have texts := congrArg String.toList same
  simp only [uriOf, Protocol.uriFor, String.toList_append] at texts
  have numbers := (List.append_inj (List.append_cancel_left texts)
    ((length_start first).trans (length_start second).symm)).2
  exact Duration.zeroPadded_injective (String.toList_inj.mp numbers)

structure Holds (memory : Memory) (uri : String) (object : Bytes) : Prop where
  named : ∃ nonce < memory.stores, uri = uriOf memory.protocol object nonce
  found : memory.objects.get? uri = some object

/-- A uri that only a later store can give. -/
def Unused (memory : Memory) (uri : String) : Prop :=
  ∃ object nonce, memory.stores ≤ nonce ∧ uri = uriOf memory.protocol object nonce

variable {memory : Memory} {uri other : String} {object : Bytes}

theorem Holds.ne_of_unused (held : memory.Holds uri object) (unused : memory.Unused other) : uri ≠ other := by
  obtain ⟨nonce, past, rfl⟩ := held.named
  obtain ⟨later, number, ahead, rfl⟩ := unused
  intro same
  have equal := nonce_eq_of_uriOf same
  omega

theorem protocol_store (memory : Memory) (object : Bytes) : (memory.store object).2.protocol = memory.protocol := by
  unfold store
  simp only
  split
  · rfl
  split <;> rfl

theorem stores_store (memory : Memory) (object : Bytes) : (memory.store object).2.stores = memory.stores + 1 := by
  unfold store
  simp only
  split
  · rfl
  split <;> rfl

theorem objects_store (memory : Memory) (object : Bytes) :
    (∃ err, (memory.store object).1 = .error err ∧ (memory.store object).2.objects = memory.objects) ∨
      (memory.store object).1 = .ok (uriOf memory.protocol object memory.stores) ∧
        (memory.store object).2.objects = memory.objects.put (uriOf memory.protocol object memory.stores) object := by
  unfold store
  simp only
  split
  · exact Or.inl ⟨_, rfl, rfl⟩
  split
  · exact Or.inl ⟨_, rfl, rfl⟩
  · exact Or.inr ⟨rfl, rfl⟩

def Willing (memory : Memory) : Prop := memory.failStores = false ∧ memory.failingStores = []

theorem Willing.store (willing : memory.Willing) (object : Bytes) :
    (memory.store object).1 = .ok (uriOf memory.protocol object memory.stores) ∧ (memory.store object).2.Willing := by
  obtain ⟨accepts, never⟩ := willing
  unfold Memory.store
  simp [accepts, never, Willing]

theorem unused_of_store (stored : (memory.store object).1 = .ok uri) : memory.Unused uri := by
  rcases memory.objects_store object with ⟨err, failed, -⟩ | ⟨succeeded, -⟩
  · cases failed.symm.trans stored
  · cases succeeded.symm.trans stored
    exact ⟨object, memory.stores, Nat.le_refl _, rfl⟩

theorem holds_of_store (stored : (memory.store object).1 = .ok uri) : (memory.store object).2.Holds uri object := by
  rcases memory.objects_store object with ⟨err, failed, -⟩ | ⟨succeeded, objects⟩
  · cases failed.symm.trans stored
  · cases succeeded.symm.trans stored
    refine ⟨⟨memory.stores, ?_, ?_⟩, ?_⟩
    · rw [stores_store]
      exact Nat.lt_succ_self _
    · rw [protocol_store]
    · rw [objects, Table.get?_put_self]

theorem Holds.store (held : memory.Holds uri object) (added : Bytes) : (memory.store added).2.Holds uri object := by
  obtain ⟨nonce, past, named⟩ := held.named
  refine ⟨⟨nonce, ?_, ?_⟩, ?_⟩
  · rw [stores_store]
    omega
  · rw [protocol_store]
    exact named
  · rcases memory.objects_store added with ⟨err, -, objects⟩ | ⟨succeeded, objects⟩
    · rw [objects]
      exact held.found
    · rw [objects, Table.get?_put_ne _ _ (held.ne_of_unused (unused_of_store succeeded))]
      exact held.found

theorem Unused.of_store (unused : (memory.store object).2.Unused uri) : memory.Unused uri := by
  obtain ⟨later, nonce, ahead, named⟩ := unused
  rw [stores_store] at ahead
  rw [protocol_store] at named
  exact ⟨later, nonce, by omega, named⟩

theorem lookup_uriFor {limit : Duration} (prompt : memory.latency.nanoseconds ≤ limit.nanoseconds) {id : String}
    (filled : id ≠ "") :
    memory.lookup (memory.protocol.uriFor id) limit =
      match memory.objects.get? (memory.protocol.uriFor id) with
      | some found => .ok found
      | none => .error (.notFound (memory.protocol.uriFor id)) := by
  unfold lookup
  rw [objectId_uriFor _ filled]
  simp only [bind, Except.bind, if_neg (Nat.not_lt.mpr prompt)]
  cases memory.objects.get? (memory.protocol.uriFor id) <;> rfl

theorem Holds.uriFor (held : memory.Holds uri object) : ∃ id, id ≠ "" ∧ uri = memory.protocol.uriFor id := by
  obtain ⟨nonce, -, named⟩ := held.named
  exact ⟨idOf object nonce, idOf_ne_empty object nonce, named⟩

end Storage.Memory

end Availability
