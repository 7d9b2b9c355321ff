import Mathlib.Algebra.Order.Ring.Nat
import Mathlib.Tactic.Ring
import ScriptBind.Number.Double

/-!
# ScriptBind.Proofs.Number.Single

Rounding to the 32 bit format a second time changes nothing.

* `Double.ofScaled_mul_two_pow` - the fields of a number that is given by a significand.
* `Double.toSingle_toSingle` - the statement.

A rounded significand is `q * 2 ^ s` with `q ≤ 2 ^ 24`. Assembled and taken apart again it comes
back as `q * 2 ^ (53 - bitLength q)`, of which rounding drops nothing but zeros.
-/

namespace ScriptBind
namespace Double

/-! ### Fields -/

theorem exponentField_eq (x : Double) : x.exponentField = x.bits.toNat / 2 ^ 52 % 2 ^ 11 := by
  rw [exponentField, Nat.shiftRight_eq_div_pow, Nat.one_shiftLeft]

theorem fraction_eq (x : Double) : x.fraction = x.bits.toNat % 2 ^ 52 := by
  rw [Double.fraction, Nat.one_shiftLeft]

theorem negative_eq (x : Double) : x.negative = decide (2 ^ 63 ≤ x.bits.toNat) := by
  simp only [negative, Nat.one_shiftLeft]

theorem significand_eq (x : Double) :
    x.significand = if x.exponentField = 0 then x.fraction else 2 ^ 52 + x.fraction := by
  simp only [significand, Nat.one_shiftLeft]

theorem isNaN_of_isFinite {x : Double} (h : x.isFinite = true) : x.isNaN = false := by
  simp only [isFinite, decide_eq_true_eq] at h
  simp [isNaN, h]

section Fields

variable (isNegative : Bool) {exponent fraction : Nat}

theorem toNat_ofFields (he : exponent < 2 ^ 11) (hf : fraction < 2 ^ 52) :
    (ofFields isNegative exponent fraction).bits.toNat =
      (if isNegative then 2 ^ 63 else 0) + exponent * 2 ^ 52 + fraction := by
  simp only [ofFields, Nat.toUInt64, UInt64.toNat_ofNat', Nat.shiftLeft_eq, Nat.one_mul]
  apply Nat.mod_eq_of_lt
  split <;> omega

theorem exponentField_ofFields (he : exponent < 2 ^ 11) (hf : fraction < 2 ^ 52) :
    (ofFields isNegative exponent fraction).exponentField = exponent := by
  rw [exponentField_eq, toNat_ofFields isNegative he hf]
  split <;> omega

theorem fraction_ofFields (he : exponent < 2 ^ 11) (hf : fraction < 2 ^ 52) :
    (ofFields isNegative exponent fraction).fraction = fraction := by
  rw [fraction_eq, toNat_ofFields isNegative he hf]
  split <;> omega

theorem negative_ofFields (he : exponent < 2 ^ 11) (hf : fraction < 2 ^ 52) :
    (ofFields isNegative exponent fraction).negative = isNegative := by
  rw [negative_eq, toNat_ofFields isNegative he hf]
  cases isNegative
  · simp
    omega
  · simp
    omega

end Fields

/-! ### Lengths in bits -/

theorem two_pow_le_of_bitLength {m : Nat} (h : m ≠ 0) : 2 ^ (bitLength m - 1) ≤ m := by
  rw [bitLength, if_neg h]
  exact Nat.log2_self_le h

theorem lt_two_pow_bitLength (m : Nat) : m < 2 ^ bitLength m := by
  rw [bitLength]
  split
  · subst m
    decide
  · exact Nat.lt_log2_self

theorem bitLength_pos {m : Nat} (h : m ≠ 0) : 0 < bitLength m := by
  rw [bitLength, if_neg h]
  exact Nat.succ_pos _

theorem bitLength_mul_two_pow {q : Nat} (h : q ≠ 0) (s : Nat) :
    bitLength (q * 2 ^ s) = bitLength q + s := by
  have hpos : q * 2 ^ s ≠ 0 := Nat.mul_ne_zero h (Nat.two_pow_pos s).ne'
  rw [bitLength, bitLength, if_neg h, if_neg hpos]
  have hlog : Nat.log2 (q * 2 ^ s) = Nat.log2 q + s := by
    rw [Nat.log2_eq_iff hpos]
    constructor
    · rw [Nat.pow_add]
      exact Nat.mul_le_mul_right _ (Nat.log2_self_le h)
    · rw [show q.log2 + s + 1 = (q.log2 + 1) + s by omega, Nat.pow_add]
      exact Nat.mul_lt_mul_of_pos_right Nat.lt_log2_self (Nat.two_pow_pos s)
  rw [hlog]
  omega

theorem bitLength_le {m n : Nat} (h : m < 2 ^ n) : bitLength m ≤ n := by
  by_cases hm : m = 0
  · rw [bitLength, if_pos hm]
    exact Nat.zero_le n
  · rw [bitLength, if_neg hm]
    exact (Nat.log2_lt hm).2 h

/-! ### Rounding -/

theorem nearestEven_mul_two_pow (q s : Nat) : nearestEven (q * 2 ^ s) s = q := by
  have hpos : 0 < 2 ^ s := Nat.two_pow_pos s
  have hne : ¬(0 = 2 ^ s) := hpos.ne
  simp [nearestEven, Nat.one_shiftLeft, Nat.mul_div_cancel q hpos, hne]

theorem nearestEven_le {m p s : Nat} (h : m < 2 ^ (p + s)) : nearestEven m s ≤ 2 ^ p := by
  have hq : m / 2 ^ s < 2 ^ p := by
    rw [Nat.div_lt_iff_lt_mul (Nat.two_pow_pos s), ← Nat.pow_add]
    exact h
  simp only [nearestEven, Nat.one_shiftLeft]
  split <;> omega

theorem roundTo_eq (precision least m : Nat) :
    roundTo precision least m =
      nearestEven m (max least (bitLength m - precision)) *
        2 ^ max least (bitLength m - precision) := by
  rw [roundTo, Nat.shiftLeft_eq]

/-- Bits that are zero already may be dropped. -/
theorem roundTo_eq_self {precision least m : Nat}
    (h : 2 ^ max least (bitLength m - precision) ∣ m) : roundTo precision least m = m := by
  obtain ⟨q, hq⟩ := h
  rw [roundTo_eq]
  generalize max least (bitLength m - precision) = s at hq
  rw [hq, Nat.mul_comm (2 ^ s) q, nearestEven_mul_two_pow]

/-! ### Numbers given by a significand -/

/-- The significand `q * 2 ^ s` becomes `q * 2 ^ (53 - bitLength q)`, with 53 bits. -/
theorem ofScaled_mul_two_pow {isNegative : Bool} {q s scale : Nat} (h : q ≠ 0)
    (hq : bitLength q ≤ 53) (hfinite : scale + (bitLength q + s) - 52 < 2047) :
    ofScaled isNegative (q * 2 ^ s) scale =
      ofFields isNegative (scale + (bitLength q + s) - 52)
        (q * 2 ^ (53 - bitLength q) - 2 ^ 52) := by
  have hpos : q * 2 ^ s ≠ 0 := Nat.mul_ne_zero h (Nat.two_pow_pos s).ne'
  simp only [ofScaled, if_neg hpos, bitLength_mul_two_pow h, if_neg (Nat.not_le.2 hfinite),
    Nat.shiftLeft_eq, Nat.shiftRight_eq_div_pow, Nat.one_mul]
  congr 2
  split
  · rw [Nat.mul_assoc, ← Nat.pow_add]
    congr 2
    omega
  · rename_i hlong
    have hs : s = (53 - bitLength q) + (bitLength q + s - 53) := by omega
    conv_lhs => rw [hs, Nat.pow_add, ← Nat.mul_assoc]
    rw [← hs, Nat.mul_div_cancel _ (Nat.two_pow_pos _)]

/-- The bound stays a variable, which keeps anybody from computing it. -/
theorem toSingle_eq {x : Double} {top : Nat} (h : x.isFinite = true) (htop : top = 128 + 1074) :
    x.toSingle =
      if 2 ^ top ≤ roundTo 24 (925 - x.scale) x.significand * 2 ^ x.scale then
        infinity x.negative
      else ofScaled x.negative (roundTo 24 (925 - x.scale) x.significand) x.scale := by
  rw [toSingle, if_neg (by simp [isNaN_of_isFinite h]), if_neg (by simp [h]), ← htop]
  simp only [Nat.shiftLeft_eq, Nat.one_mul, ge_iff_le]

theorem toSingle_ofScaled {isNegative : Bool} {q s scale top : Nat} (h : q ≠ 0)
    (hq : q ≤ 2 ^ 24) (hs : 925 ≤ scale + s) (htop : top = 128 + 1074)
    (hfinite : q * 2 ^ s * 2 ^ scale < 2 ^ top) :
    (ofScaled isNegative (q * 2 ^ s) scale).toSingle = ofScaled isNegative (q * 2 ^ s) scale := by
  have hlen : bitLength q ≤ 25 := bitLength_le (Nat.lt_of_le_of_lt hq (by decide))
  have hlen0 := bitLength_pos h
  have hlarge : bitLength q - 1 + s + scale < top := by
    apply (Nat.pow_lt_pow_iff_right (a := 2) (by decide)).1
    have hle : 2 ^ (bitLength q - 1 + s + scale) ≤ q * 2 ^ s * 2 ^ scale := by
      rw [Nat.pow_add, Nat.pow_add]
      exact Nat.mul_le_mul_right _ (Nat.mul_le_mul_right _ (two_pow_le_of_bitLength h))
    exact hle.trans_lt hfinite
  -- the significand of the assembled number
  have hlow : 2 ^ 52 ≤ q * 2 ^ (53 - bitLength q) := by
    have := Nat.mul_le_mul_right (2 ^ (53 - bitLength q)) (two_pow_le_of_bitLength h)
    rwa [← Nat.pow_add, show bitLength q - 1 + (53 - bitLength q) = 52 by omega] at this
  have hhigh : q * 2 ^ (53 - bitLength q) < 2 ^ 53 := by
    have := Nat.mul_lt_mul_of_pos_right (lt_two_pow_bitLength q)
      (Nat.two_pow_pos (53 - bitLength q))
    rwa [← Nat.pow_add, show bitLength q + (53 - bitLength q) = 53 by omega] at this
  rw [ofScaled_mul_two_pow h (by omega) (by omega)]
  generalize hE : scale + (bitLength q + s) - 52 = exponent
  have he : exponent < 2 ^ 11 := by omega
  have hf : q * 2 ^ (53 - bitLength q) - 2 ^ 52 < 2 ^ 52 := by omega
  have hexp := exponentField_ofFields isNegative he hf
  have hfrac := fraction_ofFields isNegative he hf
  have hneg := negative_ofFields isNegative he hf
  generalize hy : ofFields isNegative exponent (q * 2 ^ (53 - bitLength q) - 2 ^ 52) = y at *
  have hfin : y.isFinite = true := by
    rw [isFinite, hexp]
    simp
    omega
  have hsig : y.significand = q * 2 ^ (53 - bitLength q) := by
    rw [significand_eq, hexp, hfrac, if_neg (by omega)]
    omega
  have hscale : y.scale = exponent - 1 := by
    rw [Double.scale, hexp, if_neg (by omega)]
  have hround : roundTo 24 (925 - y.scale) y.significand = y.significand := by
    apply roundTo_eq_self
    rw [hsig, hscale, bitLength_mul_two_pow h]
    by_cases hq24 : bitLength q ≤ 24
    · exact dvd_mul_of_dvd_right (Nat.pow_dvd_pow 2 (by omega)) q
    · have hq' : q = 2 ^ 24 := by
        have := two_pow_le_of_bitLength h
        rw [show bitLength q - 1 = 24 by omega] at this
        omega
      rw [hq', ← Nat.pow_add]
      apply Nat.pow_dvd_pow
      rw [← hq']
      omega
  have hvalue : q * 2 ^ (53 - bitLength q) * 2 ^ (exponent - 1) = q * 2 ^ s * 2 ^ scale := by
    rw [Nat.mul_assoc, Nat.mul_assoc, ← Nat.pow_add, ← Nat.pow_add]
    congr 2
    omega
  rw [toSingle_eq hfin htop, hround, hsig, hscale, hvalue, if_neg (Nat.not_le.2 hfinite), hneg,
    ofScaled_mul_two_pow h (by omega) (by omega), ← hy]
  congr 1
  omega

theorem toSingle_zero (isNegative : Bool) :
    (ofFields isNegative 0 0).toSingle = ofFields isNegative 0 0 := by
  cases isNegative <;> decide +kernel

theorem toSingle_infinity (isNegative : Bool) :
    (infinity isNegative).toSingle = infinity isNegative := by
  cases isNegative <;> decide

theorem quieted_eq (x : Double) :
    x.quieted = ofFields x.negative 2047 (2 ^ 51 + x.fraction % 2 ^ 51 / 2 ^ 29 * 2 ^ 29) := by
  simp only [quieted, Nat.shiftLeft_eq, Nat.shiftRight_eq_div_pow, Nat.one_mul]

/-- A NaN that is quiet and whose fraction fits stays what it is. -/
theorem toSingle_quieted (x : Double) : x.quieted.toSingle = x.quieted := by
  have hf : 2 ^ 51 + x.fraction % 2 ^ 51 / 2 ^ 29 * 2 ^ 29 < 2 ^ 52 := by omega
  have he : 2047 < 2 ^ 11 := by decide
  have hexp := exponentField_ofFields x.negative he hf
  have hfrac := fraction_ofFields x.negative he hf
  have hneg := negative_ofFields x.negative he hf
  rw [← quieted_eq] at hexp hfrac hneg
  have hnan : x.quieted.isNaN = true := by
    simp [isNaN, hexp, hfrac]
  have hsame : x.quieted.quieted = x.quieted := by
    have hpayload : (2 ^ 51 + x.fraction % 2 ^ 51 / 2 ^ 29 * 2 ^ 29) % 2 ^ 51 / 2 ^ 29 * 2 ^ 29 =
        x.fraction % 2 ^ 51 / 2 ^ 29 * 2 ^ 29 := by omega
    rw [quieted_eq x.quieted, hneg, hfrac, hpayload, quieted_eq]
  rw [toSingle, if_pos hnan, hsame]

theorem toSingle_toSingle (x : Double) : x.toSingle.toSingle = x.toSingle := by
  by_cases hfin : x.isFinite
  · obtain ⟨top, htop⟩ : ∃ top, top = 128 + 1074 := ⟨_, rfl⟩
    rw [toSingle_eq hfin htop]
    split
    · exact toSingle_infinity _
    · rename_i hsmall
      rw [roundTo_eq] at hsmall ⊢
      have hle := le_max_left (925 - x.scale) (bitLength x.significand - 24)
      have hle' := le_max_right (925 - x.scale) (bitLength x.significand - 24)
      generalize max (925 - x.scale) (bitLength x.significand - 24) = s at *
      by_cases hq : nearestEven x.significand s = 0
      · rw [hq, Nat.zero_mul, ofScaled, if_pos rfl]
        exact toSingle_zero _
      · have hshort : nearestEven x.significand s ≤ 2 ^ 24 := by
          apply nearestEven_le
          refine Nat.lt_of_lt_of_le (lt_two_pow_bitLength _) (Nat.pow_le_pow_right (by decide) ?_)
          exact Nat.sub_le_iff_le_add'.1 hle'
        have hleast : 925 ≤ x.scale + s := Nat.sub_le_iff_le_add'.1 hle
        exact toSingle_ofScaled hq hshort hleast htop (Nat.lt_of_not_le hsmall)
  · by_cases hnan : x.isNaN
    · have hx : x.toSingle = x.quieted := by
        rw [toSingle, if_pos hnan]
      rw [hx, toSingle_quieted]
    · have hx : x.toSingle = x := by
        rw [toSingle, if_neg hnan, if_pos (by simp [hfin])]
      rw [hx, hx]

end Double
end ScriptBind
