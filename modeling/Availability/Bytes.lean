namespace Availability

abbrev Bytes := List UInt8

namespace Bytes

def chunksAfter (size : Nat) (positive : 0 < size) (done : List Bytes) : Bytes → List Bytes
  | [] => done.reverse
  | byte :: rest =>
    chunksAfter size positive ((byte :: rest).take size :: done) ((byte :: rest).drop size)
termination_by bytes => bytes.length
decreasing_by simp; omega

/-- Consecutive pieces of `size` bytes; only the last one may be shorter. -/
def chunks (size : Nat) (positive : 0 < size) (bytes : Bytes) : List Bytes :=
  chunksAfter size positive [] bytes

def littleEndian : (width n : Nat) → Bytes
  | 0, _ => []
  | width + 1, n => UInt8.ofNat n :: littleEndian width (n / 256)

def capacity : (width : Nat) → Nat
  | 0 => 1
  | width + 1 => 256 * capacity width

def ofLittleEndian (bytes : Bytes) : Nat := bytes.foldr (fun byte high => byte.toNat + 256 * high) 0

def bigEndian (width n : Nat) : Bytes := (littleEndian width n).reverse

def ofText (text : String) : Bytes := text.toUTF8.toList

@[simp] theorem length_littleEndian (width n : Nat) : (littleEndian width n).length = width := by
  induction width generalizing n with
  | zero => rfl
  | succ width ih => simp [littleEndian, ih]

theorem ofLittleEndian_lt (bytes : Bytes) : ofLittleEndian bytes < capacity bytes.length := by
  induction bytes with
  | nil => decide
  | cons head tail ih =>
    have bound := head.toNat_lt
    change head.toNat + 256 * ofLittleEndian tail < 256 * capacity tail.length
    omega

theorem ofLittleEndian_littleEndian (width n : Nat) :
    ofLittleEndian (littleEndian width n) = n % capacity width := by
  induction width generalizing n with
  | zero => simp [littleEndian, ofLittleEndian, capacity, Nat.mod_one]
  | succ width ih =>
    change (UInt8.ofNat n).toNat + 256 * ofLittleEndian (littleEndian width (n / 256)) = _
    have low : (UInt8.ofNat n).toNat = n % 256 := UInt8.toNat_ofNat'
    rw [ih, low, capacity, Nat.mod_mul]

theorem littleEndian_ofLittleEndian (bytes : Bytes) :
    littleEndian bytes.length (ofLittleEndian bytes) = bytes := by
  induction bytes with
  | nil => rfl
  | cons head tail ih =>
    have bound := head.toNat_lt
    change UInt8.ofNat (head.toNat + 256 * ofLittleEndian tail) ::
      littleEndian tail.length ((head.toNat + 256 * ofLittleEndian tail) / 256) = head :: tail
    have quotient : (head.toNat + 256 * ofLittleEndian tail) / 256 = ofLittleEndian tail := by omega
    rw [quotient, ih]
    congr 1
    apply UInt8.toNat_inj.mp
    have low : (UInt8.ofNat (head.toNat + 256 * ofLittleEndian tail)).toNat =
        (head.toNat + 256 * ofLittleEndian tail) % 256 := UInt8.toNat_ofNat'
    omega

end Bytes

end Availability

namespace Availability.Word

def largest : UInt64 := 0xffffffffffffffff

/-- The sum, or the largest word if the sum is beyond the words. -/
def saturatingAdd (a b : UInt64) : UInt64 := if a + b < a then largest else a + b

theorem toNat_saturatingAdd (a b : UInt64) :
    (saturatingAdd a b).toNat = min (a.toNat + b.toNat) (UInt64.size - 1) := by
  have first := a.toNat_lt
  have second := b.toNat_lt
  unfold saturatingAdd
  split
  · rename_i wrapped
    rw [UInt64.lt_iff_toNat_lt, UInt64.toNat_add] at wrapped
    change UInt64.size - 1 = _
    simp only [UInt64.size]
    omega
  · rename_i kept
    rw [UInt64.lt_iff_toNat_lt, UInt64.toNat_add] at kept
    rw [UInt64.toNat_add]
    simp only [UInt64.size]
    omega

end Availability.Word
