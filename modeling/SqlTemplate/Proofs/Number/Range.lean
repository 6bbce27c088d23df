import Mathlib.Algebra.GroupWithZero.Nat
import SqlTemplate.Number.Decimal

/-!
# Integers that are too great

An integer is converted to a double by rounding, and it is too great for that when it
rounds to `2 ^ 1024` or beyond, which is where the doubles end.  The first such integer
stands half way between the greatest double and that power of two (`isFinite_ofInt_iff`).

An integer is written only if it has no more than `digitLimit` digits, so only if it is
smaller than the power of ten with that exponent (`lt_digitCount_iff`).  For a decimal
number the same can be told from its coefficient and its exponent, without the power of
ten (`lt_integerDigits_iff`).
-/

namespace SqlTemplate.Number

/-! ## The range of doubles -/

/-- The least positive integer that rounds to more than any double. -/
def overflowThreshold : Nat := 2 ^ 1024 - 2 ^ 970

namespace Binary64

/-- A quotient rounds to less than an even number exactly when it is less than half a
unit below it: a quotient half way below it goes up, to the even one. -/
theorem roundQuotient_lt_iff {numerator denominator half : Nat} (hpositive : 0 < denominator) :
    roundQuotient numerator denominator < 2 * half ↔
      2 * numerator + denominator < 4 * (denominator * half) := by
  have hdivision : denominator * (numerator / denominator) + numerator % denominator = numerator :=
    Nat.div_add_mod numerator denominator
  have hremainder : numerator % denominator < denominator := Nat.mod_lt _ hpositive
  unfold roundQuotient
  generalize numerator / denominator = quotient at *
  generalize numerator % denominator = remainder at *
  rcases Nat.lt_trichotomy (quotient + 1) (2 * half) with hless | hequal | hmore
  · have hproduct : denominator * (quotient + 2) ≤ denominator * (2 * half) :=
      Nat.mul_le_mul_left _ hless
    rw [Nat.mul_add, Nat.mul_left_comm] at hproduct
    dsimp only
    refine iff_of_true ?_ (by omega)
    split
    · omega
    · split <;> omega
  · have hproduct : denominator * (quotient + 1) = denominator * (2 * half) := by rw [hequal]
    rw [Nat.mul_add, Nat.mul_left_comm] at hproduct
    dsimp only
    split
    · omega
    · split <;> omega
  · have hproduct : denominator * (2 * half) ≤ denominator * quotient :=
      Nat.mul_le_mul_left _ (Nat.lt_succ_iff.1 hmore)
    rw [Nat.mul_left_comm] at hproduct
    dsimp only
    refine iff_of_false ?_ (by omega)
    split
    · omega
    · split <;> omega

theorem scaleDown_one (numerator exponent : Nat) :
    scaleDown numerator 1 exponent = (numerator, 2 ^ exponent) := by
  simp only [scaleDown, Int.toNat_neg_natCast, Int.toNat_natCast, Nat.pow_eq, Nat.pow_zero,
    Nat.mul_one, Nat.one_mul]

theorem floorLog2_one {n : Nat} (h : n ≠ 0) : floorLog2 n 1 = n.log2 := by
  have hguess : (n.log2 : Int) - Nat.log2 1 = (n.log2 : Nat) := by
    rw [show Nat.log2 1 = 0 by decide, Int.natCast_zero, Int.sub_zero]
  unfold floorLog2
  rw [hguess]
  dsimp only
  rw [scaleDown_one]
  exact if_pos (Nat.log2_self_le h)

theorem roundQuotient_le (numerator denominator : Nat) :
    roundQuotient numerator denominator ≤ numerator / denominator + 1 := by
  unfold roundQuotient
  generalize numerator / denominator = quotient
  dsimp only
  split
  · exact Nat.le_succ quotient
  · split <;> omega

/-- A number with as many bits as a double has, and more behind them, rounds to a power of
two only from half way between that power and the greatest number below it. -/
theorem roundQuotient_ne_iff {n power : Nat} (h : n < 2 ^ (53 + (power + 1))) :
    roundQuotient n (2 ^ (power + 1)) ≠ 2 ^ 53 ↔ n < 2 ^ (54 + power) - 2 ^ power := by
  have hpositive : 0 < 2 ^ (power + 1) := Nat.two_pow_pos (power + 1)
  have hquotient : n / 2 ^ (power + 1) < 2 ^ 53 := by
    rwa [Nat.div_lt_iff_lt_mul hpositive, ← Nat.pow_add]
  have hrounded : roundQuotient n (2 ^ (power + 1)) ≤ 2 ^ 53 :=
    Nat.le_trans (roundQuotient_le n _) hquotient
  calc roundQuotient n (2 ^ (power + 1)) ≠ 2 ^ 53
      ↔ roundQuotient n (2 ^ (power + 1)) < 2 * 2 ^ 52 := by omega
    _ ↔ 2 * n + 2 ^ (power + 1) < 4 * (2 ^ (power + 1) * 2 ^ 52) := roundQuotient_lt_iff hpositive
    _ ↔ n < 2 ^ (54 + power) - 2 ^ power := by
        rw [Nat.pow_succ', Nat.pow_add]
        generalize 2 ^ power = unit
        omega

/-- The nearest double is out of range if its last bit, or the one above it after a
carry, stands too high. -/
theorem isFinite_ofRatio_iff {negative : Bool} {numerator denominator : Nat} {exponent : Int}
    {above below : Nat} (h : numerator ≠ 0)
    (hexponent : exponent = max (floorLog2 numerator denominator - (precision - 1)) leastExponent)
    (hscale : scaleDown numerator denominator exponent = (above, below)) :
    (ofRatio negative numerator denominator).isFinite ↔
      (if roundQuotient above below = Nat.pow 2 precision then exponent + 1 else exponent) ≤
        greatestExponent := by
  have hrange : ∀ (significand : Nat) (last : Int),
      (if greatestExponent < last then infinite negative
        else finite negative significand last).isFinite ↔ last ≤ greatestExponent := by
    intro significand last
    split
    · next hgreat => exact iff_of_false nofun (Int.not_le.2 hgreat)
    · next hgreat => exact iff_of_true rfl (Int.not_lt.1 hgreat)
  unfold ofRatio
  rw [if_neg h, ← hexponent]
  dsimp only
  rw [hscale]
  dsimp only
  by_cases hcarry : roundQuotient above below = Nat.pow 2 precision
  · rw [if_pos hcarry, if_pos hcarry]
    exact hrange _ _
  · rw [if_neg hcarry, if_neg hcarry]
    exact hrange _ _

/-- **Which integers are too great for a double.** -/
theorem isFinite_ofInt_iff (i : Int) : (ofInt i).isFinite ↔ i.natAbs < overflowThreshold := by
  unfold ofInt
  generalize decide (i < 0) = negative
  generalize i.natAbs = n
  by_cases hzero : n = 0
  · subst hzero
    exact iff_of_true rfl (by decide +kernel)
  have hbelow : ∀ power, n.log2 < power → n < 2 ^ power := fun power => (Nat.log2_lt hzero).1
  have hexponent : (n.log2 : Int) - 52 =
      max (floorLog2 n 1 - ((precision : Int) - 1)) leastExponent := by
    rw [floorLog2_one hzero, precision, leastExponent]
    omega
  rcases Nat.lt_trichotomy n.log2 1023 with hless | hequal | hmore
  · -- even a carry stays in range
    have hthreshold : 2 ^ 1023 ≤ overflowThreshold := by decide +kernel
    rw [isFinite_ofRatio_iff hzero hexponent rfl, greatestExponent]
    refine iff_of_true ?_ (Nat.lt_of_lt_of_le (hbelow 1023 hless) hthreshold)
    split <;> omega
  · -- the last bit is the highest one there is, and a carry leaves the range
    have hscale : scaleDown n 1 ((n.log2 : Int) - 52) = (n, 2 ^ (970 + 1)) := by
      have hlast : (n.log2 : Int) - 52 = (970 + 1 : Nat) := by omega
      rw [hlast, scaleDown_one]
    have hcarry := roundQuotient_ne_iff (hbelow (53 + (970 + 1)) (by omega))
    rw [isFinite_ofRatio_iff hzero hexponent hscale, greatestExponent, hequal, Nat.pow_eq, precision,
      overflowThreshold, show (1024 : Nat) = 54 + 970 from rfl, ← hcarry]
    split <;> omega
  · have hgreat : ∀ power, power ≤ n.log2 → 2 ^ power ≤ n := fun power => (Nat.le_log2 hzero).1
    have hthreshold : overflowThreshold ≤ 2 ^ 1024 := by decide +kernel
    rw [isFinite_ofRatio_iff hzero hexponent rfl, greatestExponent]
    refine iff_of_false ?_ (Nat.not_lt.2 (Nat.le_trans hthreshold (hgreat 1024 hmore)))
    split <;> omega

end Binary64

/-! ## The limit on digits -/

/-- An integer has more digits than a number says if it is as great as that power of
ten. -/
theorem lt_digitCount_iff {n count : Nat} (h : n ≠ 0) : count < digitCount n ↔ 10 ^ count ≤ n := by
  unfold digitCount
  cases count with
  | zero => exact iff_of_true Nat.length_toDigits_pos (Nat.one_le_iff_ne_zero.2 h)
  | succ count =>
      rw [← Nat.not_le, Nat.length_toDigits_le_iff (by decide) (Nat.succ_pos count), Nat.not_lt]

theorem digitLimit_lt_digitCount_iff (n : Nat) : digitLimit < digitCount n ↔ 10 ^ digitLimit ≤ n := by
  by_cases hzero : n = 0
  · subst hzero
    exact iff_of_false (by decide) (Nat.not_le.2 (Nat.pow_pos (by decide)))
  · exact lt_digitCount_iff hzero

namespace Decimal

/-- **How great the integer part of a decimal number is.**  It has more digits than a
number says if it reaches that power of ten. -/
theorem lt_integerDigits_iff {coefficient count : Nat} {exponent : Int} :
    count < integerDigits coefficient exponent ↔ 10 ^ count ≤ integerPart coefficient exponent := by
  have hten : ∀ power, 0 < 10 ^ power := fun power => Nat.pow_pos (by decide)
  unfold integerDigits integerPart
  by_cases hzero : coefficient = 0
  · rw [if_pos hzero, if_pos hzero]
    exact iff_of_false (Nat.not_lt_zero count) (Nat.not_le.2 (hten count))
  rw [if_neg hzero, if_neg hzero]
  by_cases hexponent : 0 ≤ exponent
  · -- zeros are put behind the coefficient
    obtain ⟨places, rfl⟩ : ∃ places : Nat, exponent = places := ⟨exponent.toNat, by omega⟩
    rw [if_pos hexponent, Int.toNat_natCast, Nat.pow_eq]
    rcases Nat.le_total places count with hfew | hmany
    · obtain ⟨more, hmore⟩ := Nat.exists_eq_add_of_le' hfew
      rw [hmore, Nat.pow_add, Nat.mul_le_mul_right_iff (hten places), ← lt_digitCount_iff hzero]
      omega
    · have hdigit : 0 < digitCount coefficient := Nat.length_toDigits_pos
      have hpower : 10 ^ count ≤ coefficient * 10 ^ places :=
        calc 10 ^ count ≤ 10 ^ places := Nat.pow_le_pow_right (by decide) hmany
          _ ≤ coefficient * 10 ^ places :=
            Nat.le_mul_of_pos_left _ (Nat.pos_of_ne_zero hzero)
      exact iff_of_true (by omega) hpower
  · -- digits behind the point are cut off
    obtain ⟨places, rfl⟩ : ∃ places : Nat, exponent = -places := ⟨(-exponent).toNat, by omega⟩
    rw [if_neg hexponent, Int.neg_neg, Int.toNat_natCast, Nat.pow_eq]
    by_cases hshort : digitCount coefficient ≤ places
    · rw [if_pos hshort]
      exact iff_of_false (by omega) (Nat.not_le.2 (hten count))
    · rw [if_neg hshort, Nat.le_div_iff_mul_le (hten places), ← Nat.pow_add,
        ← lt_digitCount_iff hzero]
      omega

theorem integerDigits_le_iff {coefficient count : Nat} {exponent : Int} :
    integerDigits coefficient exponent ≤ count ↔ integerPart coefficient exponent < 10 ^ count := by
  rw [← Nat.not_lt, lt_integerDigits_iff, Nat.not_le]

end Decimal

end SqlTemplate.Number
