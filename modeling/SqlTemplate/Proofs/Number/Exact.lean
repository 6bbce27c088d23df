import Mathlib.NumberTheory.Padics.PadicVal.Basic
import SqlTemplate.Number.Exact
import SqlTemplate.Proofs.Number.Truncation

/-!
# Forms that tell numbers apart

A number is compared by its form `± rest × 2 ^ twos × 5 ^ fives`.  The form stands for a
rational number (`Exact.toRat`), and it is made so that nothing of the number is lost
(`Exact.toRat_ofFactors`) and that no factor two and no factor five is left in the rest
(`Exact.reduced_ofFactors`).  Of such forms there is only one for each number: the exponents
are its valuations at two and at five.  So two numbers have the same form exactly when they
are the same (`Exact.Reduced.toRat_inj`).
-/

namespace SqlTemplate.Number

/-! ## Taking a factor out -/

theorem stripFactor_mul_pow (factor n : ℕ) :
    (stripFactor factor n).2 * factor ^ (stripFactor factor n).1 = n := by
  fun_induction stripFactor factor n with
  | case1 n hdivides count rest hstrip ih =>
      rw [hstrip] at ih
      show rest * factor ^ (count + 1) = n
      rw [pow_succ, ← mul_assoc, ih]
      exact Nat.div_mul_cancel (Nat.dvd_of_mod_eq_zero hdivides.2.2)
  | case2 n hdone => rw [pow_zero, mul_one]

/-- Nothing of the factor is left. -/
theorem not_dvd_stripFactor {factor n : ℕ} (hfactor : 2 ≤ factor) (hn : 0 < n) :
    ¬ factor ∣ (stripFactor factor n).2 := by
  fun_induction stripFactor factor n with
  | case1 n hdivides count rest hstrip ih =>
      rw [hstrip] at ih
      have hquotient : 0 < n / factor :=
        Nat.div_pos (Nat.le_of_dvd hn (Nat.dvd_of_mod_eq_zero hdivides.2.2)) (by omega)
      exact ih hquotient
  | case2 n hdone =>
      intro hdvd
      exact hdone ⟨hfactor, hn, Nat.mod_eq_zero_of_dvd hdvd⟩

namespace Exact

/-! ## What a form stands for -/

/-- The rational number that a form stands for. -/
def toRat (form : Exact) : ℚ :=
  (if form.negative then -1 else 1) * (form.rest * 2 ^ form.twos * 5 ^ form.fives)

theorem toRat_ofFactors (negative : Bool) (n : ℕ) (twos fives : ℤ) :
    (ofFactors negative n twos fives).toRat =
      (if negative then -1 else 1) * (n * 2 ^ twos * 5 ^ fives) := by
  unfold ofFactors
  split
  · next hzero =>
      subst hzero
      simp [toRat]
  · have htwo := stripFactor_mul_pow 2 n
    have hfive := stripFactor_mul_pow 5 (stripFactor 2 n).2
    generalize stripFactor 2 n = stripped at *
    obtain ⟨more, odd⟩ := stripped
    dsimp only at htwo hfive ⊢
    generalize stripFactor 5 odd = strippedTwice at *
    obtain ⟨other, rest⟩ := strippedTwice
    dsimp only at hfive ⊢
    have hn : (n : ℚ) = rest * 5 ^ other * 2 ^ more := by
      rw [← htwo, ← hfive]
      push_cast
      rfl
    rw [toRat, hn, zpow_add₀ two_ne_zero, zpow_add₀ (by norm_num), zpow_natCast, zpow_natCast]
    ring

/-- Zero has a form of its own; of any other number no two and no five is left in the rest. -/
inductive Reduced : Exact → Prop
  | zero : Reduced ⟨false, 0, 0, 0⟩
  | stripped {form : Exact} (htwo : ¬ 2 ∣ form.rest) (hfive : ¬ 5 ∣ form.rest) : Reduced form

theorem reduced_ofFactors (negative : Bool) (n : ℕ) (twos fives : ℤ) :
    (ofFactors negative n twos fives).Reduced := by
  unfold ofFactors
  split
  · exact .zero
  · next hzero =>
      have htwo := not_dvd_stripFactor le_rfl (Nat.pos_of_ne_zero hzero)
      have hodd : 0 < (stripFactor 2 n).2 :=
        Nat.pos_of_ne_zero fun hnone => htwo (hnone ▸ dvd_zero 2)
      have hfive := not_dvd_stripFactor (show 2 ≤ 5 by decide) hodd
      have hrest : (stripFactor 5 (stripFactor 2 n).2).2 ∣ (stripFactor 2 n).2 :=
        Dvd.intro _ (stripFactor_mul_pow 5 _)
      exact .stripped (fun hdvd => htwo (hdvd.trans hrest)) hfive

/-! ## One form for each number -/

/-- The exponent of a prime can be read off the number. -/
theorem padicValRat_mul_zpow {p q rest : ℕ} [Fact p.Prime] (hrest : ¬ p ∣ rest) (hq : ¬ p ∣ q)
    (k l : ℤ) : padicValRat p (rest * (p : ℚ) ^ k * (q : ℚ) ^ l) = k := by
  have hne {m : ℕ} (h : ¬ p ∣ m) : (m : ℚ) ≠ 0 :=
    Nat.cast_ne_zero.2 fun hzero => h (hzero ▸ dvd_zero p)
  have hp : (p : ℚ) ≠ 0 := Nat.cast_ne_zero.2 (Fact.out : p.Prime).ne_zero
  rw [padicValRat.mul (mul_ne_zero (hne hrest) (zpow_ne_zero k hp)) (zpow_ne_zero l (hne hq)),
    padicValRat.mul (hne hrest) (zpow_ne_zero k hp), padicValRat.zpow, padicValRat.zpow,
    padicValRat.self (Fact.out : p.Prime).one_lt, padicValRat.of_nat, padicValRat.of_nat,
    padicValNat.eq_zero_of_not_dvd hrest, padicValNat.eq_zero_of_not_dvd hq]
  simp

variable {a b : Exact}

theorem rest_pos (htwo : ¬ 2 ∣ a.rest) : 0 < a.rest :=
  Nat.pos_of_ne_zero fun hzero => htwo (hzero ▸ dvd_zero 2)

theorem magnitude_pos (htwo : ¬ 2 ∣ a.rest) : (0 : ℚ) < a.rest * 2 ^ a.twos * 5 ^ a.fives := by
  have hrest : (0 : ℚ) < a.rest := Nat.cast_pos.2 (rest_pos htwo)
  exact mul_pos (mul_pos hrest (zpow_pos two_pos _)) (zpow_pos (by norm_num) _)

/-- Without its sign a number has one form. -/
theorem eq_of_magnitude_eq (htwo : ¬ 2 ∣ a.rest) (hfive : ¬ 5 ∣ a.rest) (htwo' : ¬ 2 ∣ b.rest)
    (hfive' : ¬ 5 ∣ b.rest)
    (h : (a.rest * 2 ^ a.twos * 5 ^ a.fives : ℚ) = b.rest * 2 ^ b.twos * 5 ^ b.fives) :
    a.rest = b.rest ∧ a.twos = b.twos ∧ a.fives = b.fives := by
  have : Fact (Nat.Prime 5) := ⟨Nat.prime_five⟩
  have htwos : a.twos = b.twos := by
    have hval := congrArg (padicValRat 2) h
    have ha := padicValRat_mul_zpow (q := 5) htwo (by decide) a.twos a.fives
    have hb := padicValRat_mul_zpow (q := 5) htwo' (by decide) b.twos b.fives
    push_cast at ha hb
    rwa [ha, hb] at hval
  have hfives : a.fives = b.fives := by
    rw [mul_right_comm, mul_right_comm (b.rest : ℚ)] at h
    have hval := congrArg (padicValRat 5) h
    have ha := padicValRat_mul_zpow (q := 2) hfive (by decide) a.fives a.twos
    have hb := padicValRat_mul_zpow (q := 2) hfive' (by decide) b.fives b.twos
    push_cast at ha hb
    rwa [ha, hb] at hval
  refine ⟨?_, htwos, hfives⟩
  rw [htwos, hfives] at h
  exact Nat.cast_injective (mul_right_cancel₀ (zpow_ne_zero _ two_ne_zero)
    (mul_right_cancel₀ (zpow_ne_zero _ (by norm_num)) h))

theorem toRat_zero : (⟨false, 0, 0, 0⟩ : Exact).toRat = 0 := by
  simp [toRat]

theorem toRat_ne_zero (htwo : ¬ 2 ∣ a.rest) : a.toRat ≠ 0 :=
  mul_ne_zero (by split <;> norm_num) (magnitude_pos htwo).ne'

theorem negative_iff (htwo : ¬ 2 ∣ a.rest) : a.negative = true ↔ a.toRat < 0 := by
  have hpos := magnitude_pos htwo
  unfold toRat
  cases a.negative with
  | true => simpa using hpos
  | false => simpa using hpos.le

/-- **Two numbers are the same exactly when their forms are.** -/
theorem Reduced.toRat_inj (ha : a.Reduced) (hb : b.Reduced) : a.toRat = b.toRat ↔ a = b := by
  refine ⟨fun h => ?_, fun h => h ▸ rfl⟩
  cases ha with
  | zero =>
      cases hb with
      | zero => rfl
      | stripped htwo hfive => exact absurd (h.symm.trans toRat_zero) (toRat_ne_zero htwo)
  | stripped htwo hfive =>
      cases hb with
      | zero => exact absurd (h.trans toRat_zero) (toRat_ne_zero htwo)
      | stripped htwo' hfive' =>
          have hsign : a.negative = b.negative := by
            rw [Bool.eq_iff_iff, negative_iff htwo, negative_iff htwo', h]
          rw [toRat, toRat, hsign] at h
          obtain ⟨hrest, htwos, hfives⟩ := eq_of_magnitude_eq htwo hfive htwo' hfive'
            (mul_left_cancel₀ (by split <;> norm_num) h)
          obtain ⟨negative, rest, twos, fives⟩ := a
          dsimp only at hsign hrest htwos hfives
          rw [hsign, hrest, htwos, hfives]

end Exact

/-! ## Numbers of the different types -/

/-- The rational number `± significand × 2 ^ exponent`. -/
def Binary64.toRat (negative : Bool) (significand : ℕ) (exponent : ℤ) : ℚ :=
  (if negative then -1 else 1) * (significand * 2 ^ exponent)

namespace Exact

theorem toRat_ofInt (i : ℤ) : (ofInt i).toRat = i := by
  rw [ofInt, toRat_ofFactors, zpow_zero, zpow_zero, mul_one, mul_one]
  by_cases hneg : i < 0
  · rw [if_pos (decide_eq_true hneg), Nat.cast_natAbs, abs_of_neg hneg, neg_one_mul, Int.cast_neg,
      neg_neg]
  · rw [if_neg (by simpa using hneg), Nat.cast_natAbs, abs_of_nonneg (not_lt.1 hneg), one_mul]

theorem toRat_ofBinary (negative : Bool) (significand : ℕ) (exponent : ℤ) :
    (ofBinary negative significand exponent).toRat =
      Binary64.toRat negative significand exponent := by
  rw [ofBinary, toRat_ofFactors, zpow_zero, mul_one, Binary64.toRat]

theorem toRat_ofDecimal (negative : Bool) (coefficient : ℕ) (exponent : ℤ) :
    (ofDecimal negative coefficient exponent).toRat =
      Decimal.toRat negative coefficient exponent := by
  have hten : (10 : ℚ) ^ exponent = 2 ^ exponent * 5 ^ exponent := by
    rw [← mul_zpow]
    norm_num
  rw [ofDecimal, toRat_ofFactors, Decimal.toRat, hten, mul_assoc]

end Exact

end SqlTemplate.Number
