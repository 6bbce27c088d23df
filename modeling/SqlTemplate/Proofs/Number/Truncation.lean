import Mathlib.Data.Rat.Floor
import SqlTemplate.Proofs.Number.Range

/-!
# What is left of a number without its fraction

A fraction is cut off toward zero, so a number and its negative leave the same digits
(`towardZero_neg`).  The integer part of a decimal number is computed on its coefficient,
by putting zeros behind it or cutting digits off, and never by way of an inexact number.
It is what truncation leaves of the rational number that the decimal number stands for
(`signed_integerPart`).
-/

namespace SqlTemplate.Number

/-! ## Truncation -/

/-- A rational number without its fraction. -/
def towardZero (x : ℚ) : ℤ :=
  if 0 ≤ x then ⌊x⌋ else ⌈x⌉

theorem towardZero_intCast (i : ℤ) : towardZero i = i := by
  unfold towardZero
  split
  · exact Int.floor_intCast i
  · exact Int.ceil_intCast i

theorem towardZero_of_nonneg {x : ℚ} (h : 0 ≤ x) : towardZero x = ⌊x⌋₊ := by
  rw [towardZero, if_pos h, Int.natCast_floor_eq_floor h]

theorem towardZero_neg (x : ℚ) : towardZero (-x) = -towardZero x := by
  unfold towardZero
  rcases lt_trichotomy x 0 with hneg | rfl | hpos
  · rw [if_pos (by linarith), if_neg (by linarith), Int.floor_neg]
  · simp
  · rw [if_neg (by linarith), if_pos hpos.le, Int.ceil_neg]

/-! ## Decimal numbers -/

namespace Decimal

/-- The rational number `± coefficient × 10 ^ exponent`. -/
def toRat (negative : Bool) (coefficient : Nat) (exponent : Int) : ℚ :=
  (if negative then -1 else 1) * (coefficient * 10 ^ exponent)

/-- The integer part of a decimal number that is not negative. -/
theorem integerPart_eq_floor (coefficient : Nat) (exponent : Int) :
    integerPart coefficient exponent = ⌊(coefficient : ℚ) * 10 ^ exponent⌋₊ := by
  unfold integerPart
  by_cases hzero : coefficient = 0
  · subst hzero
    rw [if_pos rfl, Nat.cast_zero, zero_mul, Nat.floor_zero]
  rw [if_neg hzero]
  by_cases hexponent : 0 ≤ exponent
  · -- zeros are put behind the coefficient
    obtain ⟨places, rfl⟩ := Int.eq_ofNat_of_zero_le hexponent
    have hwhole : (coefficient : ℚ) * 10 ^ (places : ℤ) = (coefficient * 10 ^ places : ℕ) := by
      push_cast
      rw [zpow_natCast]
    rw [if_pos hexponent, hwhole, Nat.floor_natCast, Int.toNat_natCast, Nat.pow_eq]
  · -- digits behind the point are cut off
    obtain ⟨places, rfl⟩ : ∃ places : ℕ, exponent = -places := ⟨(-exponent).toNat, by omega⟩
    have hquotient : (coefficient : ℚ) * 10 ^ (-places : ℤ) = coefficient / (10 ^ places : ℕ) := by
      push_cast
      rw [zpow_neg, zpow_natCast, div_eq_mul_inv]
    rw [if_neg hexponent, hquotient, Rat.natFloor_natCast_div_natCast, Int.neg_neg,
      Int.toNat_natCast, Nat.pow_eq]
    split
    · next hshort =>
        have hsmall : coefficient < 10 ^ places :=
          Nat.lt_of_not_le fun hle => absurd ((lt_digitCount_iff hzero).2 hle) (Nat.not_lt.2 hshort)
        exact (Nat.div_eq_of_lt hsmall).symm
    · rfl

/-- **The integer part of a decimal number is truncated toward zero.** -/
theorem signed_integerPart (negative : Bool) (coefficient : Nat) (exponent : Int) :
    signed negative (integerPart coefficient exponent) =
      towardZero (toRat negative coefficient exponent) := by
  have hmagnitude : (0 : ℚ) ≤ coefficient * 10 ^ exponent :=
    mul_nonneg coefficient.cast_nonneg (zpow_nonneg (by norm_num) exponent)
  unfold toRat
  cases negative with
  | false =>
      rw [if_neg (by decide), one_mul, towardZero_of_nonneg hmagnitude, integerPart_eq_floor]
      rfl
  | true =>
      rw [if_pos rfl, neg_one_mul, towardZero_neg, towardZero_of_nonneg hmagnitude,
        integerPart_eq_floor]
      rfl

end Decimal

end SqlTemplate.Number
