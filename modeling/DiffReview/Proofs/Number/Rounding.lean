import DiffReview.Number.Rounding
import Mathlib.Data.Nat.Bitwise

/-!
# Signs and sizes of rounded numbers

Whatever is rounded is defined: a number too large for the format becomes infinity.  A negative
integer becomes a number that is not above zero, however far below it is.
-/

namespace DiffReview.Number

/-! ## Quotients -/

theorem quotientBits_le (numerator denominator : Nat) :
    quotientBits numerator denominator ≤ Binary64.infiniteSize := by
  rw [quotientBits]
  split
  · exact Nat.zero_le _
  · exact Nat.min_le_right _ _

theorem toNat_bits_nearestQuotient (numerator denominator : Nat) :
    (nearestQuotient numerator denominator).bits.toNat = quotientBits numerator denominator := by
  have small : Binary64.infiniteSize < 2 ^ 64 := by decide
  exact Nat.mod_eq_of_lt (Nat.lt_of_le_of_lt (quotientBits_le _ _) small)

theorem toNat_bits_nearestQuotient_lt (numerator denominator : Nat) :
    (nearestQuotient numerator denominator).bits.toNat < Binary64.signBit := by
  have below_sign : Binary64.infiniteSize < Binary64.signBit := by decide
  rw [toNat_bits_nearestQuotient]
  exact Nat.lt_of_le_of_lt (quotientBits_le _ _) below_sign

theorem size_nearestQuotient (numerator denominator : Nat) :
    (nearestQuotient numerator denominator).size = quotientBits numerator denominator := by
  rw [Binary64.size, Nat.mod_eq_of_lt (toNat_bits_nearestQuotient_lt _ _),
    toNat_bits_nearestQuotient]

theorem isUndefined_nearestQuotient (numerator denominator : Nat) :
    (nearestQuotient numerator denominator).isUndefined = false := by
  rw [Binary64.isUndefined, size_nearestQuotient]
  exact decide_eq_false (Nat.not_lt.mpr (quotientBits_le _ _))

/-! ## Large integers -/

theorem le_log2_of_pow_ten_le {digits number : Nat} (positive : 0 < number)
    (long : Nat.pow 10 digits ≤ number) : digits ≤ number.log2 :=
  (Nat.le_log2 positive.ne').mpr (Nat.le_trans (Nat.pow_le_pow_left (by decide) digits) long)

theorem log2Quotient_one {number : Nat} (positive : 0 < number) :
    log2Quotient number 1 = number.log2 := by
  have reaches : 1 * Nat.pow 2 ((number.log2 : Int) - (1 : Nat).log2).toNat ≤ number := by
    rw [Nat.one_mul]
    exact Nat.log2_self_le positive.ne'
  have estimate : (0 : Int) ≤ (number.log2 : Int) - (1 : Nat).log2 := Int.natCast_nonneg _
  simp only [log2Quotient, if_pos estimate, if_pos reaches]
  exact Int.sub_zero _

theorem quotientBits_one_of_le_log2 {number : Nat} (positive : 0 < number)
    (exponent_ge : 1025 ≤ number.log2) : quotientBits number 1 = Binary64.infiniteSize := by
  have exponent_eq : max (log2Quotient number 1) (-1022) = number.log2 := by
    rw [log2Quotient_one positive]
    omega
  have beyond : Binary64.infiniteSize ≤ ((number.log2 : Int) + 1022).toNat * Nat.pow 2 52 :=
    calc
      Binary64.infiniteSize = 2047 * Nat.pow 2 52 := by decide
      _ ≤ _ := Nat.mul_le_mul_right _ (by omega)
  simp only [quotientBits, if_neg positive.ne', exponent_eq]
  exact Nat.min_eq_right (Nat.le_trans beyond (Nat.le_add_right _ _))

/-- An integer beyond the format becomes infinity. -/
theorem isInfinite_nearestInteger {value : Int} (positive : 0 < value)
    (exponent_ge : 1025 ≤ value.natAbs.log2) : (nearestInteger value).isInfinite = true := by
  simp only [nearestInteger, if_neg (Int.not_lt.mpr (Int.le_of_lt positive)), Binary64.isInfinite,
    size_nearestQuotient, beq_self_eq_true,
    quotientBits_one_of_le_log2 (Int.natAbs_pos.mpr (Int.ne_of_gt positive)) exponent_ge]

/-- An integer that becomes infinity is above zero. -/
theorem not_nearestInteger_le_zero {value : Int} (positive : 0 < value)
    (infinite : (nearestInteger value).isInfinite = true) : ¬nearestInteger value ≤ 0 := by
  rw [nearestInteger, if_neg (Int.not_lt.mpr (Int.le_of_lt positive))] at infinite ⊢
  have unsigned : ¬(nearestQuotient value.natAbs 1).isNegative = true := by
    rw [Binary64.isNegative, decide_eq_true_eq, Nat.not_le]
    exact toNat_bits_nearestQuotient_lt _ _
  have place_eq : (nearestQuotient value.natAbs 1).place = Binary64.infiniteSize := by
    rw [Binary64.place, if_neg unsigned, eq_of_beq infinite]
  have zero_place : (0 : Binary64).place = 0 := by decide
  rw [Binary64.le_iff, place_eq, zero_place]
  rintro ⟨-, below⟩
  exact absurd below (by decide)

/-! ## Negative integers -/

namespace Binary64

theorem toNat_bits_neg (number : Binary64) :
    (-number).bits.toNat = number.bits.toNat ^^^ signBit :=
  UInt64.toNat_xor number.bits (UInt64.ofNat signBit)

theorem size_neg (number : Binary64) : (-number).size = number.size := by
  rw [size, toNat_bits_neg, signBit, Nat.pow_eq, Nat.xor_mod_two_pow, Nat.mod_self, Nat.xor_zero,
    size, signBit, Nat.pow_eq]

theorem isNegative_neg {number : Binary64} (positive : number.bits.toNat < signBit) :
    (-number).isNegative = true := by
  have sign_set : (number.bits.toNat ^^^ 2 ^ 63).testBit 63 = true := by
    rw [Nat.testBit_xor, Nat.testBit_lt_two_pow positive, Nat.testBit_two_pow_self, Bool.false_xor]
  rw [isNegative, toNat_bits_neg]
  exact decide_eq_true (Nat.ge_two_pow_of_testBit sign_set)

end Binary64

theorem nearestInteger_le_zero {value : Int} (negative : value < 0) :
    nearestInteger value ≤ 0 := by
  have defined : (-nearestQuotient value.natAbs 1).isUndefined = false := by
    rw [Binary64.isUndefined, Binary64.size_neg]
    exact isUndefined_nearestQuotient _ _
  have below : (-nearestQuotient value.natAbs 1).place ≤ 0 := by
    rw [Binary64.place, if_pos (Binary64.isNegative_neg (toNat_bits_nearestQuotient_lt _ _))]
    omega
  have zero_defined : (0 : Binary64).isUndefined = false := isUndefined_nearestQuotient 0 1
  have zero_place : (0 : Binary64).place = 0 := by decide
  rw [nearestInteger, if_pos negative, Binary64.le_iff, Binary64.areComparable, defined,
    zero_defined, zero_place]
  exact ⟨rfl, below⟩

end DiffReview.Number
