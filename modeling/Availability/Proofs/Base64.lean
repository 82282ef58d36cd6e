import Availability.Base64
import Availability.Proofs.Json.Reader

namespace Availability

namespace Base64

open Json (Plain)

def symbol (n : Nat) : UInt8 := UInt8.ofNat (digit n).toNat

theorem symbols_known : ∀ n : Fin 64, String.utf8EncodeChar (digit n) = [symbol n] ∧ value? (symbol n) = some n.val ∧
    symbol n ≠ padding ∧ Plain (symbol n) := by
  decide +kernel

theorem plain_padding : Plain padding := by decide

variable {n : Nat}

theorem utf8EncodeChar_digit (small : n < 64) : String.utf8EncodeChar (digit n) = [symbol n] :=
  (symbols_known ⟨n, small⟩).1

theorem value_symbol (small : n < 64) (offset : Nat) : value (symbol n) offset = .ok n := by
  have known : value? (symbol n) = some n := (symbols_known ⟨n, small⟩).2.1
  rw [value, known]

theorem symbol_ne_padding (small : n < 64) : symbol n ≠ padding := (symbols_known ⟨n, small⟩).2.2.1

theorem plain_symbol (small : n < 64) : Plain (symbol n) := (symbols_known ⟨n, small⟩).2.2.2

def symbols : Bytes → Bytes
  | [] => []
  | [a] => [symbol (a.toNat / 4), symbol (a.toNat % 4 * 16), padding, padding]
  | [a, b] =>
    [symbol (a.toNat / 4), symbol (a.toNat % 4 * 16 + b.toNat / 16), symbol (b.toNat % 16 * 4), padding]
  | a :: b :: c :: rest =>
    symbol (a.toNat / 4) :: symbol (a.toNat % 4 * 16 + b.toNat / 16) :: symbol (b.toNat % 16 * 4 + c.toNat / 64)
      :: symbol (c.toNat % 64) :: symbols rest

section

variable (a b c : UInt8)

theorem first_lt : a.toNat / 4 < 64 := by
  have wide := a.toNat_lt
  omega

theorem second_lt : a.toNat % 4 * 16 + b.toNat / 16 < 64 := by
  have wide := b.toNat_lt
  omega

theorem third_lt : b.toNat % 16 * 4 + c.toNat / 64 < 64 := by
  have wide := c.toNat_lt
  omega

theorem fourth_lt : c.toNat % 64 < 64 := Nat.mod_lt _ (by decide)

theorem second_last_lt : a.toNat % 4 * 16 < 64 := by omega

theorem third_last_lt : b.toNat % 16 * 4 < 64 := by omega

end

theorem ofText_encode (bytes : Bytes) : Bytes.ofText (encode bytes) = symbols bytes := by
  rw [encode, Bytes.ofText_ofList]
  induction bytes using symbols.induct with
  | case1 => rfl
  | case2 a =>
    simp only [encodeChars, symbols, List.flatMap_cons, List.flatMap_nil, utf8EncodeChar_digit (first_lt a),
      utf8EncodeChar_digit (second_last_lt a)]
    rfl
  | case3 a b =>
    simp only [encodeChars, symbols, List.flatMap_cons, List.flatMap_nil, utf8EncodeChar_digit (first_lt a),
      utf8EncodeChar_digit (second_lt a b), utf8EncodeChar_digit (third_last_lt b)]
    rfl
  | case4 a b c rest ih =>
    simp only [encodeChars, symbols, List.flatMap_cons, ih, utf8EncodeChar_digit (first_lt a),
      utf8EncodeChar_digit (second_lt a b), utf8EncodeChar_digit (third_lt b c), utf8EncodeChar_digit (fourth_lt c)]
    rfl

theorem length_symbols (bytes : Bytes) : (symbols bytes).length = 4 * ((bytes.length + 2) / 3) := by
  induction bytes using symbols.induct with
  | case1 | case2 | case3 => simp [symbols]
  | case4 a b c rest ih =>
    simp only [symbols, List.length_cons, ih]
    omega

theorem plain_symbols (bytes : Bytes) : ∀ byte ∈ symbols bytes, Plain byte := by
  induction bytes using symbols.induct with
  | case1 => exact List.forall_mem_nil _
  | case2 a =>
    simp only [symbols, List.forall_mem_cons]
    exact ⟨plain_symbol (first_lt a), plain_symbol (second_last_lt a), plain_padding, plain_padding,
      List.forall_mem_nil _⟩
  | case3 a b =>
    simp only [symbols, List.forall_mem_cons]
    exact ⟨plain_symbol (first_lt a), plain_symbol (second_lt a b), plain_symbol (third_last_lt b), plain_padding,
      List.forall_mem_nil _⟩
  | case4 a b c rest ih =>
    simp only [symbols, List.forall_mem_cons]
    exact ⟨plain_symbol (first_lt a), plain_symbol (second_lt a b), plain_symbol (third_lt b c),
      plain_symbol (fourth_lt c), ih⟩

theorem decodeGroups_symbols (bytes : Bytes) (offset : Nat) : decodeGroups offset (symbols bytes) = .ok bytes := by
  induction bytes using symbols.induct generalizing offset with
  | case1 => rfl
  | case2 a =>
    have first : a.toNat / 4 * 4 + a.toNat % 4 * 16 / 16 = a.toNat := by omega
    have unused : a.toNat % 4 * 16 % 16 = 0 := by omega
    simp only [symbols, decodeGroups, bind, Except.bind, value_symbol (first_lt a), value_symbol (second_last_lt a),
      if_true, first, unused, UInt8.ofNat_toNat, ne_eq, not_true_eq_false, or_self, if_false]
    rfl
  | case3 a b =>
    have wide := b.toNat_lt
    have first : a.toNat / 4 * 4 + (a.toNat % 4 * 16 + b.toNat / 16) / 16 = a.toNat := by omega
    have second : (a.toNat % 4 * 16 + b.toNat / 16) % 16 * 16 + b.toNat % 16 * 4 / 4 = b.toNat := by omega
    have unused : b.toNat % 16 * 4 % 4 = 0 := by omega
    simp only [symbols, decodeGroups, bind, Except.bind, value_symbol (first_lt a), value_symbol (second_lt a b),
      value_symbol (third_last_lt b), symbol_ne_padding (third_last_lt b), if_true, first, second, unused,
      UInt8.ofNat_toNat, ne_eq, not_true_eq_false, if_false]
    rfl
  | case4 a b c rest ih =>
    have wide := b.toNat_lt
    have last := c.toNat_lt
    have first : a.toNat / 4 * 4 + (a.toNat % 4 * 16 + b.toNat / 16) / 16 = a.toNat := by omega
    have second : (a.toNat % 4 * 16 + b.toNat / 16) % 16 * 16 + (b.toNat % 16 * 4 + c.toNat / 64) / 4 = b.toNat := by
      omega
    have third : (b.toNat % 16 * 4 + c.toNat / 64) % 4 * 64 + c.toNat % 64 = c.toNat := by omega
    simp only [symbols, decodeGroups, bind, Except.bind, value_symbol (first_lt a), value_symbol (second_lt a b),
      value_symbol (third_lt b c), value_symbol (fourth_lt c), symbol_ne_padding (third_lt b c),
      symbol_ne_padding (fourth_lt c), ih, first, second, third, UInt8.ofNat_toNat, if_false]
    rfl

theorem decode_encode (bytes : Bytes) : decode (Bytes.ofText (encode bytes)) = .ok bytes := by
  have whole : (symbols bytes).length % 4 ≠ 1 := by
    rw [length_symbols]
    omega
  rw [ofText_encode, decode, if_neg whole, decodeGroups_symbols]

end Base64

end Availability
