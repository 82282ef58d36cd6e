import Mathlib.Algebra.Field.Basic
import Availability.Erasure.Field

namespace Availability.Erasure.Symbol

theorem byte_injective {a b : Symbol} (same : a.byte = b.byte) : a = b := by
  cases a
  cases b
  exact congrArg Symbol.mk same

theorem small_iff_msb (a : UInt8) : a < 0x80 ↔ a.toBitVec.msb = false := by
  rw [UInt8.lt_iff_toBitVec_lt, BitVec.lt_def, BitVec.msb_eq_false_iff_two_mul_lt]
  change a.toBitVec.toNat < 128 ↔ 2 * a.toBitVec.toNat < 256
  omega

theorem xor_swap (a b c d : UInt8) : (a ^^^ b) ^^^ (c ^^^ d) = (a ^^^ c) ^^^ (b ^^^ d) := by
  rw [UInt8.xor_assoc, ← UInt8.xor_assoc b, UInt8.xor_comm b c, UInt8.xor_assoc c, ← UInt8.xor_assoc]

theorem double_xor (a b : UInt8) : double (a ^^^ b) = double a ^^^ double b := by
  have shifted : (a ^^^ b) <<< 1 = a <<< 1 ^^^ b <<< 1 := by
    apply UInt8.eq_of_toBitVec_eq
    simp [BitVec.shiftLeft_xor_distrib]
  have carried : (if (a ^^^ b) < 0x80 then (0 : UInt8) else 0x1d) =
      (if a < 0x80 then 0 else 0x1d) ^^^ (if b < 0x80 then 0 else 0x1d) := by
    simp only [small_iff_msb, UInt8.toBitVec_xor, BitVec.msb_xor]
    cases a.toBitVec.msb <;> cases b.toBitVec.msb <;> rfl
  rw [double, shifted, carried, xor_swap]
  rfl

theorem double_zero : double 0 = 0 := by decide

theorem product_zero_left (bits : Nat) (b : UInt8) : product bits 0 b = 0 := by
  induction bits generalizing b with
  | zero => rfl
  | succ bits ih => simp [product, double_zero, ih]

theorem product_xor_left (bits : Nat) (a b c : UInt8) :
    product bits (a ^^^ b) c = product bits a c ^^^ product bits b c := by
  induction bits generalizing a b c with
  | zero => exact UInt8.xor_self.symm
  | succ bits ih =>
    rw [product, product, product, double_xor, ih]
    split
    · exact xor_swap _ _ _ _
    · simp

theorem product_double (bits : Nat) (a b : UInt8) : product bits (double a) b = double (product bits a b) := by
  induction bits generalizing a b with
  | zero => exact double_zero.symm
  | succ bits ih =>
    rw [product, product, double_xor, ih]
    split
    · rfl
    · rw [double_zero]

theorem product_product (bits others : Nat) (a b c : UInt8) :
    product others (product bits a b) c = product bits (product others a c) b := by
  induction bits generalizing a b with
  | zero => exact product_zero_left others c
  | succ bits ih =>
    rw [product, product_xor_left, ih, product_double]
    rw [product]
    split
    · rfl
    · rw [product_zero_left]

/-- The product of the numbers of two bytes, which evaluates faster than that of the bytes. -/
def numberProduct : (bits : Nat) → (a b : Nat) → Nat
  | 0, _, _ => 0
  | bits + 1, a, b => b % 2 * a ^^^ numberProduct bits (2 * a ^^^ a / 128 * 0x11d) (b / 2)

theorem toNat_double (a : UInt8) : (double a).toNat = 2 * a.toNat ^^^ a.toNat / 128 * 0x11d := by
  have numbers : ∀ i : Fin 256, (double (UInt8.ofFin i)).toNat = 2 * i.val ^^^ i.val / 128 * 0x11d := by
    decide +kernel
  have same := numbers a.toFin
  rwa [UInt8.ofFin_toFin] at same

theorem toNat_product (bits : Nat) (a b : UInt8) :
    (product bits a b).toNat = numberProduct bits a.toNat b.toNat := by
  induction bits generalizing a b with
  | zero => rfl
  | succ bits ih =>
    have halved : (b >>> 1).toNat = b.toNat / 2 := by simp [Nat.shiftRight_one]
    have odd : (b &&& 1 = 1) ↔ b.toNat % 2 = 1 := by
      rw [← UInt8.toNat_inj, UInt8.toNat_and]
      exact iff_of_eq (congrArg (· = 1) (Nat.and_one_is_mod b.toNat))
    rw [product, numberProduct, UInt8.toNat_xor, ih, toNat_double, halved]
    congr 1
    rcases Nat.mod_two_eq_zero_or_one b.toNat with even | uneven
    · simp [odd, even]
    · simp [odd, uneven]

theorem one_product (b : UInt8) : product 8 1 b = b := by
  have numbers : ∀ i : Fin 256, numberProduct 8 1 i.val = i.val := by decide +kernel
  apply UInt8.toNat_inj.mp
  rw [toNat_product]
  exact numbers b.toFin

theorem product_comm (a b : UInt8) : product 8 a b = product 8 b a := by
  have swapped := product_product 8 8 1 a b
  rwa [one_product, one_product] at swapped

theorem product_assoc (a b c : UInt8) : product 8 (product 8 a b) c = product 8 a (product 8 b c) := by
  calc product 8 (product 8 a b) c
      = product 8 (product 8 b a) c := by rw [product_comm a b]
    _ = product 8 (product 8 b c) a := product_product 8 8 b a c
    _ = product 8 a (product 8 b c) := product_comm _ _

def numberInverse (a : Nat) : Nat :=
  let a2 := numberProduct 8 a a
  let a4 := numberProduct 8 a2 a2
  let a8 := numberProduct 8 a4 a4
  let a16 := numberProduct 8 a8 a8
  let a32 := numberProduct 8 a16 a16
  let a64 := numberProduct 8 a32 a32
  let a128 := numberProduct 8 a64 a64
  numberProduct 8 a128 (numberProduct 8 a64 (numberProduct 8 a32 (numberProduct 8 a16 (numberProduct 8 a8
    (numberProduct 8 a4 a2)))))

theorem toNat_inverse (a : Symbol) : a.inverse.byte.toNat = numberInverse a.byte.toNat := by
  simp only [inverse, square, byte_mul, toNat_product, numberInverse]

theorem mul_inverse (a : Symbol) (nonzero : a ≠ 0) : a * a.inverse = 1 := by
  have numbers : ∀ i : Fin 256, i.val ≠ 0 → numberProduct 8 i.val (numberInverse i.val) = 1 := by
    decide +kernel
  have positive : a.byte.toNat ≠ 0 := fun zero => nonzero (byte_injective (UInt8.toNat_inj.mp zero))
  apply byte_injective
  apply UInt8.toNat_inj.mp
  rw [byte_mul, toNat_product, toNat_inverse]
  exact numbers a.byte.toFin positive

protected theorem mul_comm (a b : Symbol) : a * b = b * a := by
  apply byte_injective
  rw [byte_mul, byte_mul, product_comm]

protected theorem mul_assoc (a b c : Symbol) : a * b * c = a * (b * c) := by
  apply byte_injective
  simp only [byte_mul, product_assoc]

protected theorem one_mul (a : Symbol) : 1 * a = a := by
  apply byte_injective
  rw [byte_mul]
  exact one_product a.byte

protected theorem zero_mul (a : Symbol) : 0 * a = 0 := by
  apply byte_injective
  rw [byte_mul]
  exact product_zero_left 8 a.byte

protected theorem add_mul (a b c : Symbol) : (a + b) * c = a * c + b * c := by
  apply byte_injective
  rw [byte_mul]
  change product 8 (a.byte ^^^ b.byte) c.byte = (a * c).byte ^^^ (b * c).byte
  rw [byte_mul, byte_mul, product_xor_left]

instance : Neg Symbol := ⟨id⟩
instance : Inv Symbol := ⟨inverse⟩

instance : Field Symbol where
  add_assoc a b c := byte_injective (UInt8.xor_assoc ..)
  zero_add a := byte_injective UInt8.zero_xor
  add_zero a := byte_injective UInt8.xor_zero
  add_comm a b := byte_injective (UInt8.xor_comm ..)
  neg_add_cancel a := byte_injective UInt8.xor_self
  sub_eq_add_neg a b := rfl
  nsmul := nsmulRec
  zsmul := zsmulRec
  mul_assoc := Symbol.mul_assoc
  mul_comm := Symbol.mul_comm
  one_mul := Symbol.one_mul
  mul_one a := (Symbol.mul_comm a 1).trans (Symbol.one_mul a)
  zero_mul := Symbol.zero_mul
  mul_zero a := (Symbol.mul_comm a 0).trans (Symbol.zero_mul a)
  left_distrib a b c := by rw [Symbol.mul_comm, Symbol.add_mul, Symbol.mul_comm b, Symbol.mul_comm c]
  right_distrib := Symbol.add_mul
  exists_pair_ne := ⟨0, 1, by decide⟩
  mul_inv_cancel := mul_inverse
  inv_zero := byte_injective (UInt8.toNat_inj.mp ((toNat_inverse 0).trans (by decide +kernel)))
  div_eq_mul_inv a b := rfl
  nnqsmul := _
  nnqsmul_def := fun _ _ => rfl
  qsmul := _
  qsmul_def := fun _ _ => rfl

end Availability.Erasure.Symbol
