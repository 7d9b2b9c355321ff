import Mathlib.Algebra.Order.Ring.Int
import ScriptBind.Crossing.Scalar

/-!
# ScriptBind.Proofs.Crossing.Wrap

Integers of native code are in the range of their type, and cross a script without a change when
they are.

* `keptBits` - how many bits of an integer of a width are kept.
* `Signedness.Fits` - an integer value in range.
* `Signedness.fits_wrap` - wrapping around gives one.
* `Signedness.wrap_of_fits` - and changes none. Unsigned ones go through a signed script integer.
-/

namespace ScriptBind

/-- Widths other than 8, 16 and 32 keep all 64 bits. -/
def keptBits (width : Nat) : Nat :=
  match width with
  | 8 => 8
  | 16 => 16
  | 32 => 32
  | _ => 64

theorem keptBits_eq (width : Nat) :
    width = 8 ∨ width = 16 ∨ width = 32 ∨
      (width ≠ 8 ∧ width ≠ 16 ∧ width ≠ 32 ∧ keptBits width = 64) := by
  by_cases h8 : width = 8
  · exact .inl h8
  by_cases h16 : width = 16
  · exact .inr (.inl h16)
  by_cases h32 : width = 32
  · exact .inr (.inr (.inl h32))
  · simp [keptBits, h8, h16, h32]

namespace Signedness

theorem inRange_signed {width : Nat} {n : Int} :
    signed.inRange width n = true ↔ -(2 ^ (width - 1)) ≤ n ∧ n < 2 ^ (width - 1) := by
  simp [inRange, Nat.one_shiftLeft, and_comm]

theorem inRange_unsigned {width : Nat} {n : Int} :
    unsigned.inRange width n = true ↔ 0 ≤ n ∧ n < 2 ^ width := by
  simp [inRange, Nat.one_shiftLeft, and_comm]

/-- An integer of this type that is in range for this width. -/
def Fits : Signedness → Nat → NativeValue → Prop
  | .signed, width, .int n => signed.inRange (keptBits width) n.toInt = true
  | .unsigned, width, .uint n => unsigned.inRange (keptBits width) n.toNat = true
  | _, _, _ => False

/-- What the script gets for an integer of native code. -/
def scriptInt : NativeValue → Int64
  | .int n => n
  | .uint n => n.toInt64
  | _ => 0

/-! ### Towards native code -/

theorem fits_wrap_signed (width : Nat) (n : Int64) : signed.Fits width (signed.wrap width n) := by
  rcases keptBits_eq width with rfl | rfl | rfl | ⟨h8, h16, h32, hkept⟩
  · have hle := n.toInt8.le_toInt
    have hlt := n.toInt8.toInt_lt
    simp only [wrap, Fits, inRange_signed, keptBits, Int8.toInt_toInt64]
    omega
  · have hle := n.toInt16.le_toInt
    have hlt := n.toInt16.toInt_lt
    simp only [wrap, Fits, inRange_signed, keptBits, Int16.toInt_toInt64]
    omega
  · have hle := n.toInt32.le_toInt
    have hlt := n.toInt32.toInt_lt
    simp only [wrap, Fits, inRange_signed, keptBits, Int32.toInt_toInt64]
    omega
  · have hle := n.le_toInt
    have hlt := n.toInt_lt
    simp only [wrap, Fits, inRange_signed, hkept]
    omega

theorem fits_wrap_unsigned (width : Nat) (n : Int64) :
    unsigned.Fits width (unsigned.wrap width n) := by
  rcases keptBits_eq width with rfl | rfl | rfl | ⟨h8, h16, h32, hkept⟩
  · have hlt := n.toUInt64.toUInt8.toNat_lt
    simp only [wrap, Fits, inRange_unsigned, keptBits, UInt8.toNat_toUInt64]
    omega
  · have hlt := n.toUInt64.toUInt16.toNat_lt
    simp only [wrap, Fits, inRange_unsigned, keptBits, UInt16.toNat_toUInt64]
    omega
  · have hlt := n.toUInt64.toUInt32.toNat_lt
    simp only [wrap, Fits, inRange_unsigned, keptBits, UInt32.toNat_toUInt64]
    omega
  · have hlt := n.toUInt64.toNat_lt
    simp only [wrap, Fits, inRange_unsigned, hkept]
    omega

theorem fits_wrap (s : Signedness) (width : Nat) (n : Int64) : s.Fits width (s.wrap width n) := by
  cases s with
  | signed => exact fits_wrap_signed width n
  | unsigned => exact fits_wrap_unsigned width n

/-! ### Back and forth -/

theorem wrap_signed {width : Nat} {n : Int64}
    (h : signed.inRange (keptBits width) n.toInt = true) : signed.wrap width n = .int n := by
  rw [inRange_signed] at h
  rcases keptBits_eq width with rfl | rfl | rfl | ⟨h8, h16, h32, -⟩
  · simp only [keptBits] at h
    have hn : n.toInt8.toInt64 = n := by
      rw [← Int64.toInt_inj, Int8.toInt_toInt64, Int64.toInt_toInt8]
      exact Int.bmod_eq_of_le (by omega) (by omega)
    simp only [wrap, hn]
  · simp only [keptBits] at h
    have hn : n.toInt16.toInt64 = n := by
      rw [← Int64.toInt_inj, Int16.toInt_toInt64, Int64.toInt_toInt16]
      exact Int.bmod_eq_of_le (by omega) (by omega)
    simp only [wrap, hn]
  · simp only [keptBits] at h
    have hn : n.toInt32.toInt64 = n := by
      rw [← Int64.toInt_inj, Int32.toInt_toInt64, Int64.toInt_toInt32]
      exact Int.bmod_eq_of_le (by omega) (by omega)
    simp only [wrap, hn]
  · simp [wrap]

theorem wrap_unsigned {width : Nat} {n : UInt64}
    (h : unsigned.inRange (keptBits width) n.toNat = true) :
    unsigned.wrap width n.toInt64 = .uint n := by
  rw [inRange_unsigned] at h
  have hback : n.toInt64.toUInt64 = n := by simp
  rcases keptBits_eq width with rfl | rfl | rfl | ⟨h8, h16, h32, -⟩
  · simp only [keptBits] at h
    have hn : n.toUInt8.toUInt64 = n := by
      rw [← UInt64.toNat_inj, UInt8.toNat_toUInt64, UInt64.toNat_toUInt8]
      exact Nat.mod_eq_of_lt (by omega)
    simp only [wrap, hback, hn]
  · simp only [keptBits] at h
    have hn : n.toUInt16.toUInt64 = n := by
      rw [← UInt64.toNat_inj, UInt16.toNat_toUInt64, UInt64.toNat_toUInt16]
      exact Nat.mod_eq_of_lt (by omega)
    simp only [wrap, hback, hn]
  · simp only [keptBits] at h
    have hn : n.toUInt32.toUInt64 = n := by
      rw [← UInt64.toNat_inj, UInt32.toNat_toUInt64, UInt64.toNat_toUInt32]
      exact Nat.mod_eq_of_lt (by omega)
    simp only [wrap, hback, hn]
  · simp [wrap]

theorem wrap_of_fits {s : Signedness} {width : Nat} {v : NativeValue} (h : s.Fits width v) :
    s.wrap width (scriptInt v) = v := by
  cases s with
  | signed =>
    cases v with
    | int n => exact wrap_signed h
    | _ => exact h.elim
  | unsigned =>
    cases v with
    | uint n => exact wrap_unsigned h
    | _ => exact h.elim

end Signedness
end ScriptBind
