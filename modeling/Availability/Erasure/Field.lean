namespace Availability.Erasure

/-- An element of the field with 256 elements: a polynomial over the bits, modulo x⁸ + x⁴ + x³ + x² + 1. -/
structure Symbol where
  byte : UInt8
deriving DecidableEq

namespace Symbol

instance : Inhabited Symbol := ⟨⟨0⟩⟩

def double (a : UInt8) : UInt8 := a <<< 1 ^^^ (if a < 0x80 then 0 else 0x1d)

def product : (bits : Nat) → (a b : UInt8) → UInt8
  | 0, _, _ => 0
  | bits + 1, a, b => (if b &&& 1 = 1 then a else 0) ^^^ product bits (double a) (b >>> 1)

def products : Array UInt8 :=
  Array.ofFn fun i : Fin 65536 => product 8 (UInt8.ofNat (i.val / 256)) (UInt8.ofNat (i.val % 256))

def mul (a b : Symbol) : Symbol :=
  have bound : a.byte.toNat * 256 + b.byte.toNat < products.size := by
    have high := a.byte.toNat_lt
    have low := b.byte.toNat_lt
    simp only [products, Array.size_ofFn]
    omega
  ⟨products[a.byte.toNat * 256 + b.byte.toNat]⟩

instance : Zero Symbol := ⟨⟨0⟩⟩
instance : One Symbol := ⟨⟨1⟩⟩
instance : Add Symbol := ⟨fun a b => ⟨a.byte ^^^ b.byte⟩⟩
instance : Sub Symbol := ⟨fun a b => ⟨a.byte ^^^ b.byte⟩⟩
instance : Mul Symbol := ⟨mul⟩

theorem byte_mul (a b : Symbol) : (a * b).byte = product 8 a.byte b.byte := by
  have high := a.byte.toNat_lt
  have low := b.byte.toNat_lt
  have quotient : (a.byte.toNat * 256 + b.byte.toNat) / 256 = a.byte.toNat := by omega
  have remainder : (a.byte.toNat * 256 + b.byte.toNat) % 256 = b.byte.toNat := by omega
  change (mul a b).byte = _
  simp [mul, products, quotient, remainder]

def square (a : Symbol) : Symbol := a * a

/-- The power 254, which is the inverse of every element but zero. -/
def inverse (a : Symbol) : Symbol :=
  let a2 := a.square
  let a4 := a2.square
  let a8 := a4.square
  let a16 := a8.square
  let a32 := a16.square
  let a64 := a32.square
  let a128 := a64.square
  a128 * (a64 * (a32 * (a16 * (a8 * (a4 * a2)))))

instance : Div Symbol := ⟨fun a b => a * b.inverse⟩

def ofIndex (index : Nat) : Symbol := ⟨UInt8.ofNat index⟩

end Symbol

end Availability.Erasure
