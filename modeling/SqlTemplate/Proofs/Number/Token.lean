import Mathlib.Data.List.TakeWhile
import SqlTemplate.Literal.Scalar

/-!
# Numbers are written as numeric tokens

A number stands in a statement without quotation marks, so its text must be read as a number
whatever the value: a sign, digits, a point with digits behind it, and a power of ten, of
which only the digits in front of the point have to be there (`IsNumeral`).  Integers,
doubles and decimal numbers all have such a text, as far as they are finite
(`isNumeral_integerText`, `isNumeral_binary64Text`, `isNumeral_decimalText`).

A double is written with the digits of its shortest numeral, without the zeros at the end.
Digits are left because a point of the decimal grid that rounds to a positive double is never
zero (`ne_zero_of_nearestOnGrid?`).
-/

namespace SqlTemplate.Number

open SqlTemplate.Text

/-! ## Numeric tokens -/

/-- A run of ASCII digits, of which there is one at least. -/
structure AreDigits (text : List Char) : Prop where
  nonempty : text ≠ []
  digit : ∀ c ∈ text, c.isDigit

/-- What stands behind the digits of a whole number: nothing, or a point and digits. -/
inductive IsFraction : List Char → Prop
  | none : IsFraction []
  | point {digits : List Char} (h : AreDigits digits) : IsFraction ('.' :: digits)

/-- A power of ten, which always has a sign, or nothing. -/
inductive IsPower : List Char → Prop
  | none : IsPower []
  | signed {mark sign : Char} {digits : List Char} (hmark : mark = 'e' ∨ mark = 'E')
      (hsign : sign = '-' ∨ sign = '+') (h : AreDigits digits) : IsPower (mark :: sign :: digits)

/-- A numeric token that is not negative. -/
inductive IsUnsigned : List Char → Prop
  | parts {whole fraction power : List Char} (hwhole : AreDigits whole)
      (hfraction : IsFraction fraction) (hpower : IsPower power) :
      IsUnsigned (whole ++ fraction ++ power)

/-- A numeric token. -/
inductive IsNumeral : List Char → Prop
  | unsigned {text : List Char} (h : IsUnsigned text) : IsNumeral text
  | minus {text : List Char} (h : IsUnsigned text) : IsNumeral ('-' :: text)

theorem IsUnsigned.of_digits {digits : List Char} (h : AreDigits digits) : IsUnsigned digits := by
  have hparts := IsUnsigned.parts h .none .none
  rwa [List.append_nil, List.append_nil] at hparts

theorem IsUnsigned.signed {text : List Char} (h : IsUnsigned text) (negative : Bool) :
    IsNumeral ((if negative then ['-'] else []) ++ text) := by
  cases negative with
  | false => exact .unsigned h
  | true => exact .minus h

/-- The characters of a numeric token besides its digits. -/
def numeralMarks : List Char := ['-', '+', '.', 'e', 'E']

theorem IsUnsigned.mem {text : List Char} (h : IsUnsigned text) {c : Char} (hmem : c ∈ text) :
    c.isDigit ∨ c ∈ numeralMarks := by
  obtain ⟨hwhole, hfraction, hpower⟩ := h
  rcases List.mem_append.1 hmem with hmem | hmem
  · rcases List.mem_append.1 hmem with hmem | hmem
    · exact .inl (hwhole.digit c hmem)
    · cases hfraction with
      | none => cases hmem
      | point hdigits =>
          rcases List.mem_cons.1 hmem with rfl | hmem
          · exact .inr (by decide)
          · exact .inl (hdigits.digit c hmem)
  · cases hpower with
    | none => cases hmem
    | signed hmark hsign hdigits =>
        rcases List.mem_cons.1 hmem with rfl | hmem
        · rcases hmark with rfl | rfl <;> exact .inr (by decide)
        · rcases List.mem_cons.1 hmem with rfl | hmem
          · rcases hsign with rfl | rfl <;> exact .inr (by decide)
          · exact .inl (hdigits.digit c hmem)

theorem IsNumeral.mem {text : List Char} (h : IsNumeral text) {c : Char} (hmem : c ∈ text) :
    c.isDigit ∨ c ∈ numeralMarks := by
  cases h with
  | unsigned h => exact h.mem hmem
  | minus h =>
      rcases List.mem_cons.1 hmem with rfl | hmem
      · exact .inr (by decide)
      · exact h.mem hmem

/-! ## Digits -/

theorem areDigits_toDigits (n : Nat) : AreDigits (Nat.toDigits 10 n) where
  nonempty := Nat.toDigits_ne_nil
  digit _ hmem := Nat.isDigit_of_mem_toDigits (by omega) (by omega) hmem

theorem isDigit_of_mem_replicate {n : Nat} {c : Char} (h : c ∈ List.replicate n '0') :
    c.isDigit := by
  obtain rfl := List.eq_of_mem_replicate h
  rfl

theorem areDigits_padded (width n : Nat) : AreDigits (padded 10 width n) where
  nonempty hnil := Nat.toDigits_ne_nil (List.append_eq_nil_iff.1 hnil).2
  digit _ hmem := (List.mem_append.1 hmem).elim isDigit_of_mem_replicate
    ((areDigits_toDigits n).digit _)

/-- A positive number has a digit other than zero. -/
theorem exists_digit_ne_zero {n : Nat} (h : n ≠ 0) : ∃ c ∈ Nat.toDigits 10 n, c ≠ '0' := by
  induction n using Nat.strongRecOn with
  | ind n ih =>
      rw [Nat.toDigits_eq_if (by omega)]
      split
      · next hsmall =>
          have hdigit : ∀ m < 10, m ≠ 0 → m.digitChar ≠ '0' := by decide
          exact ⟨n.digitChar, List.mem_singleton_self _, hdigit n hsmall h⟩
      · next hlarge =>
          obtain ⟨c, hmem, hc⟩ := ih (n / 10) (by omega) (by omega)
          exact ⟨c, List.mem_append_left _ hmem, hc⟩

section

variable {digits : List Char}

theorem splitAtPoint_digits (h : ∀ c ∈ digits, c.isDigit) (point : Int) :
    AreDigits (splitAtPoint digits point).1 ∧ ∀ c ∈ (splitAtPoint digits point).2, c.isDigit := by
  unfold splitAtPoint
  split
  · refine ⟨areDigits_toDigits 0, fun c hmem => ?_⟩
    exact (List.mem_append.1 hmem).elim isDigit_of_mem_replicate (h c)
  · next hpositive =>
      refine ⟨⟨fun hnil => ?_, fun c hmem => ?_⟩, fun c hmem => h c (List.mem_of_mem_drop hmem)⟩
      · have hlength := congrArg List.length hnil
        simp only [List.length_append, List.length_take, List.length_replicate,
          List.length_nil] at hlength
        omega
      · exact (List.mem_append.1 hmem).elim (fun hmem => h c (List.mem_of_mem_take hmem))
          isDigit_of_mem_replicate

/-- Digits with a point behind the first one, and a power of ten. -/
theorem isUnsigned_scientific (h : AreDigits digits) {power : List Char} (hpower : IsPower power) :
    IsUnsigned (pointAfterFirst digits ++ power) := by
  unfold pointAfterFirst
  split
  · next first second rest =>
      have hfirst : AreDigits [first] :=
        ⟨by simp, fun c hmem => h.digit c (List.mem_cons.2 (.inl (List.mem_singleton.1 hmem)))⟩
      have hrest : AreDigits (second :: rest) :=
        ⟨by simp, fun c hmem => h.digit c (List.mem_cons_of_mem _ hmem)⟩
      exact .parts hfirst (.point hrest) hpower
  · have hparts := IsUnsigned.parts h .none hpower
    rwa [List.append_nil] at hparts

end

/-! ## Integers and truth values -/

theorem isNumeral_boolText (b : Bool) : IsNumeral (Scalar.boolText b) := by
  cases b with
  | false => exact .unsigned (.of_digits (areDigits_toDigits 0))
  | true => exact .unsigned (.of_digits (areDigits_toDigits 1))

theorem isNumeral_integerText (i : Int) : IsNumeral (integerText i) := by
  have hunsigned := IsUnsigned.of_digits (areDigits_toDigits i.natAbs)
  unfold integerText
  split
  · exact .minus hunsigned
  · exact .unsigned hunsigned

/-! ## Doubles -/

namespace Binary64

theorem isUnsigned_zero : IsUnsigned "0.0".toList :=
  .parts (areDigits_toDigits 0) (.point (areDigits_toDigits 0)) .none

theorem lower_interval_pos {significand : Nat} (exponent : Int) (h : significand ≠ 0) :
    0 < (interval significand exponent).lower := by
  unfold interval
  dsimp only
  split <;> omega

/-- An interval of positive numbers does not hold zero. -/
theorem holds_zero {i : Interval} {lower upper : Nat} (h : 0 < lower) :
    i.holds lower upper 0 = false := by
  unfold Interval.holds
  split
  · rw [decide_eq_false (by omega), Bool.false_and]
  · rw [decide_eq_false (by omega), Bool.false_and]

/-- A point of the grid that rounds to a positive double is not zero. -/
theorem ne_zero_of_nearestOnGrid? {significand point : Nat} {exponent power : Int}
    (h : significand ≠ 0) (hpoint : nearestOnGrid? significand exponent power = some point) :
    point ≠ 0 := by
  have hscale : 0 < (interval significand exponent).lower *
      (Nat.pow 10 (-power).toNat * Nat.pow 2 (exponent - 2).toNat) :=
    Nat.mul_pos (lower_interval_pos exponent h)
      (Nat.mul_pos (Nat.pow_pos (by omega)) (Nat.pow_pos (by omega)))
  -- zero is not in the interval, and the point above is a successor
  have hbelow {below grid upper : Nat} (hinside : (interval significand exponent).holds
      ((interval significand exponent).lower *
        (Nat.pow 10 (-power).toNat * Nat.pow 2 (exponent - 2).toNat)) upper (below * grid)) :
      below ≠ 0 := by
    rintro rfl
    rw [Nat.zero_mul, holds_zero hscale] at hinside
    cases hinside
  unfold nearestOnGrid? at hpoint
  dsimp only at hpoint
  split at hpoint
  · next hinside _ =>
      split at hpoint
      · exact Option.some.inj hpoint ▸ hbelow hinside
      · split at hpoint
        · exact Option.some.inj hpoint ▸ Nat.succ_ne_zero _
        · split at hpoint
          · exact Option.some.inj hpoint ▸ hbelow hinside
          · exact Option.some.inj hpoint ▸ Nat.succ_ne_zero _
  · next hinside _ => exact Option.some.inj hpoint ▸ hbelow hinside
  · exact Option.some.inj hpoint ▸ Nat.succ_ne_zero _
  · cases hpoint

theorem digits_shortest {significand : Nat} (exponent : Int) (h : significand ≠ 0) :
    (shortest significand exponent).digits ≠ 0 ∨ shortest significand exponent = ⟨0, 0⟩ := by
  unfold shortest
  dsimp only
  generalize hfound : List.findSome? _ (List.range maxDigits) = found
  cases found with
  | none => exact .inr rfl
  | some number =>
      obtain ⟨digits, -, hnumber⟩ := List.exists_of_findSome?_eq_some hfound
      obtain ⟨point, hpoint, rfl⟩ := Option.map_eq_some_iff.1 hnumber
      exact .inl (ne_zero_of_nearestOnGrid? h hpoint)

theorem isPower_powerText (power : Int) : IsPower ('e' :: powerText power) := by
  refine .signed (.inl rfl) ?_ (areDigits_padded 2 power.natAbs)
  split
  · exact .inl rfl
  · exact .inr rfl

theorem isUnsigned_layout {number : Scaled} (h : number.digits ≠ 0 ∨ number = ⟨0, 0⟩) :
    IsUnsigned (layout number) := by
  rcases h with hdigits | rfl
  · -- the digits without the zeros at the end
    have hlayout : ∃ digits, AreDigits digits ∧ ∃ point : Int, layout number =
        if leastPositional ≤ point - 1 ∧ point - 1 < leastScientific then
          (splitAtPoint digits point).1 ++ '.' ::
            (if (splitAtPoint digits point).2.isEmpty then ['0'] else (splitAtPoint digits point).2)
        else pointAfterFirst digits ++ 'e' :: powerText (point - 1) := by
      refine ⟨((Nat.toDigits 10 number.digits).reverse.dropWhile (· == '0')).reverse,
        ⟨fun hnil => ?_, fun c hmem => ?_⟩, _, rfl⟩
      · obtain ⟨c, hmem, hc⟩ := exists_digit_ne_zero hdigits
        rw [List.reverse_eq_nil_iff, List.dropWhile_eq_nil_iff] at hnil
        exact hc (by simpa using hnil c (List.mem_reverse.2 hmem))
      · have hwritten := (List.dropWhile_sublist _).mem (List.mem_reverse.1 hmem)
        exact (areDigits_toDigits _).digit c (List.mem_reverse.1 hwritten)
    obtain ⟨digits, hdigits, point, hlayout⟩ := hlayout
    rw [hlayout]
    split
    · obtain ⟨hwhole, hfraction⟩ := splitAtPoint_digits hdigits.digit point
      have hpoint : AreDigits (if (splitAtPoint digits point).2.isEmpty then ['0']
          else (splitAtPoint digits point).2) := by
        split
        · exact areDigits_toDigits 0
        · next hne => exact ⟨by simpa using hne, hfraction⟩
      have hparts := IsUnsigned.parts hwhole (.point hpoint) .none
      rwa [List.append_nil] at hparts
    · exact isUnsigned_scientific hdigits (isPower_powerText _)
  · exact (show layout ⟨0, 0⟩ = "0.0".toList by decide) ▸ isUnsigned_zero

end Binary64

theorem isNumeral_binary64Text {x : Binary64} (h : x.isFinite) : IsNumeral x.text := by
  cases x with
  | finite negative significand exponent =>
      refine IsUnsigned.signed ?_ negative
      split
      · exact Binary64.isUnsigned_zero
      · next hpositive =>
          exact Binary64.isUnsigned_layout (Binary64.digits_shortest exponent hpositive)
  | infinite negative => cases h
  | nan => cases h

/-! ## Decimal numbers -/

theorem isUnsigned_magnitudeText (coefficient : Nat) (exponent : Int) :
    IsUnsigned (Decimal.magnitudeText coefficient exponent) := by
  have hdigits := areDigits_toDigits coefficient
  unfold Decimal.magnitudeText
  dsimp only
  split
  · obtain ⟨hwhole, hfraction⟩ := splitAtPoint_digits hdigits.digit
      ((Nat.toDigits 10 coefficient).length + exponent)
    split
    · exact .of_digits hwhole
    · next hne =>
        have hparts := IsUnsigned.parts hwhole
          (.point ⟨by simpa using hne, hfraction⟩) .none
        rwa [List.append_nil] at hparts
  · refine isUnsigned_scientific hdigits (.signed (.inr rfl) ?_ (areDigits_toDigits _))
    split
    · exact .inl rfl
    · exact .inr rfl

theorem isNumeral_decimalText {d : Decimal} (h : d.isFinite) : IsNumeral d.text := by
  cases d with
  | finite negative coefficient exponent =>
      exact (isUnsigned_magnitudeText coefficient exponent).signed negative
  | infinite negative => cases h
  | nan negative signaling payload => cases h

end SqlTemplate.Number
