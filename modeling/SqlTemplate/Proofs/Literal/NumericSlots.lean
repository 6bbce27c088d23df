import SqlTemplate.Proofs.Expansion.Inert
import SqlTemplate.Proofs.Expansion.Recursion
import SqlTemplate.Proofs.Literal.Oversized
import SqlTemplate.Proofs.Number.Integer
import SqlTemplate.Proofs.Number.Truncation

/-!
# Placeholders for numbers

The placeholders for numbers take parameters of every type, texts among them, and write what
is left of them without quotation marks.  Whatever the parameter was, the text is `NULL` or a
numeric token, and a placeholder for integers writes a canonical integer
(`expandTag_isNumeral`).

For a parameter that is exact, nothing is rounded (`writes_towardZero`).  Such parameters are
truth values, integers, finite decimal numbers and integer literals; `StandsFor` says which
number each of them is.  What an integer slot writes for it is the number without its
fraction, and for any parameter the text that was written is a fixed point.

## Strategy

An integer slot writes the whole part of a scalar (`Scalar.wholePart?`) or nothing.  So
there is always an integer behind its text (`exists_of_renderInteger`): the text is canonical,
and as an integer literal it is read back as that integer.
-/

namespace SqlTemplate

open SqlTemplate.Number

/-! ## What a slot writes -/

/-- A placeholder with a tag writes a text for a value, whatever else is supplied: it takes
the value and leaves everything else as it was. -/
def Writes (quoter : Quoter) (tag : Tag) (value : Value) (text : List Char) : Prop :=
  ∀ rest taken raised, expandTag quoter tag ⟨value :: rest, taken, raised⟩ =
    (.ok text, ⟨rest, taken + 1, raised⟩)

section

variable {quoter : Quoter} {tag : Tag} {value : Value} {text : List Char}

theorem Writes.ne_skip (h : Writes quoter tag value text) : value ≠ .skip := by
  rintro rfl
  have hraised := h [] 0 false
  rw [expandTag_eq, expandPlaceholder_of_skip tag rfl] at hraised
  cases hraised

theorem Writes.of_present (hpresent : present quoter tag value = .ok (.literal text)) :
    Writes quoter tag value text := by
  have hskip : value ≠ .skip := by
    rintro rfl
    cases tag <;> cases hpresent
  intro rest taken raised
  rw [expandTag_eq, expandPlaceholder_of_ne_skip tag rfl hskip, hpresent]
  rfl

/-- What holds of all that the rule of a tag gives holds of all that its placeholder
writes. -/
theorem ensures_expandTag {p : List Char → Prop} {rule : Except Refusal (List Char)}
    {supply : Supply} {rest : List Value} (htag : tag ≠ .template)
    (hrule : present quoter tag value = .literal <$> rule)
    (hpending : supply.pending = value :: rest) (hskip : value ≠ .skip) (h : Ensures p rule) :
    Ensures p (expandTag quoter tag supply).1 := by
  intro text htext
  have hpresent := present_of_expandTag htag hskip hpending htext
  rw [hrule] at hpresent
  exact h text (eq_ok_of_map_literal hpresent)

end

/-! ## Integers -/

/-- Behind the text of an integer slot stands an integer. -/
theorem exists_of_renderInteger (value : Value) :
    Ensures (fun text => ∃ i : Int, i.natAbs < 10 ^ digitLimit ∧ text = integerText i)
      (renderInteger value) := by
  cases value with
  | scalar s =>
      show Ensures _ s.integerPart
      cases hwhole : s.wholePart? with
      | none =>
          rw [Scalar.integerPart_of_wholePart?_eq_none hwhole]
          exact Ensures.error
      | some i =>
          rcases Nat.lt_or_ge i.natAbs (10 ^ digitLimit) with hsmall | hgreat
          · rw [Scalar.integerPart_of_lt hwhole hsmall]
            exact Ensures.ok ⟨i, hsmall, rfl⟩
          · rw [Scalar.integerPart_of_le hwhole hgreat]
            exact Ensures.error
  | _ => exact Ensures.error

/-- A text that may be `NULL` as well. -/
theorem Ensures.nullOr {p : List Char → Prop} {rule : Except Refusal (List Char)}
    (h : Ensures p rule) : Ensures (fun text => text = nullLiteral ∨ p text) rule :=
  h.mono fun _ => .inr

theorem ensures_isCanonical (value : Value) : Ensures IsCanonical (renderInteger value) := by
  refine (exists_of_renderInteger value).mono ?_
  rintro _ ⟨i, -, rfl⟩
  exact isCanonical_integerText i

theorem not_isCanonical_nullLiteral : ¬ IsCanonical nullLiteral := fun h =>
  absurd (h.isNumeral.mem (c := 'N') (by decide)) (by decide)

/-! ## Numeric tokens -/

/-- Whether a scalar is a number; a truth value counts as one. -/
def Scalar.isNumber : Scalar → Bool
  | bool _ | int _ | float _ | decimal _ => true
  | _ => false

theorem ensures_literal_isNumeral {quoter : Quoter} {s : Scalar} (h : s.isNumber) :
    Ensures IsNumeral (s.literalOrComplain quoter) := by
  refine Ensures.mapError _ ?_
  cases s with
  | bool b => exact Ensures.ok (isNumeral_boolText b)
  | int i => exact ensures_integerLiteral i
  | float x => exact ensures_floatLiteral x
  | decimal d => exact ensures_decimalLiteral d
  | _ => cases h

/-- **Numeric slots write numbers and nothing else.**  Whatever the parameter, the text is
`NULL` or a numeric token, and for integers `NULL` or a canonical integer.  A number is
written as a numeric token by a plain placeholder and in an array as well. -/
theorem expandTag_isNumeral {quoter : Quoter} {supply : Supply} {value : Value}
    {rest : List Value} (hpending : supply.pending = value :: rest) (hskip : value ≠ .skip) :
    (∀ tag ∈ [Tag.integer, .integerOrNull, .float],
      Ensures (fun text => text = nullLiteral ∨ IsNumeral text) (expandTag quoter tag supply).1) ∧
    (∀ tag ∈ [Tag.integer, .integerOrNull],
      Ensures (fun text => text = nullLiteral ∨ IsCanonical text)
        (expandTag quoter tag supply).1) ∧
    ∀ s, value = .scalar s → s.isNumber →
      Ensures IsNumeral (expandTag quoter .plain supply).1 ∧
      Ensures IsNumeral (renderCell quoter value) := by
  have hcanonical := (ensures_isCanonical value).nullOr
  have hinteger := (ensures_renderInteger value).nullOr
  have hfloat := (ensures_renderFloat value).nullOr
  refine ⟨fun tag htag => ?_, fun tag htag => ?_, ?_⟩
  · simp only [List.mem_cons, List.not_mem_nil, or_false] at htag
    rcases htag with rfl | rfl | rfl
    · exact ensures_expandTag (by decide) rfl hpending hskip (hinteger.orNull (.inl rfl))
    · exact ensures_expandTag (by decide) rfl hpending hskip (hinteger.integerOrNull (.inl rfl))
    · exact ensures_expandTag (by decide) rfl hpending hskip (hfloat.orNull (.inl rfl))
  · rcases List.mem_pair.1 htag with rfl | rfl
    · exact ensures_expandTag (by decide) rfl hpending hskip (hcanonical.orNull (.inl rfl))
    · exact ensures_expandTag (by decide) rfl hpending hskip (hcanonical.integerOrNull (.inl rfl))
  · rintro s rfl hs
    have hliteral : Ensures IsNumeral (s.literalOrComplain quoter) := ensures_literal_isNumeral hs
    exact ⟨ensures_expandTag (by decide) rfl hpending hskip hliteral, hliteral⟩

/-- A negative decimal number with a fraction, which takes all five ways. -/
theorem expandTag_isNumeral_decimal :
    let value : Value := .scalar (.decimal (.finite true 1500 (-3)))
    let written (tag : Tag) := (expandTag .mysql tag ⟨[value], 0, false⟩).1
    (written .integer = .ok "-1".toList ∧ ("-1".toList = nullLiteral ∨ IsCanonical "-1".toList)) ∧
    (written .integerOrNull = .ok "-1".toList ∧
      ("-1".toList = nullLiteral ∨ IsNumeral "-1".toList)) ∧
    (written .float = .ok "-1.5".toList ∧
      ("-1.5".toList = nullLiteral ∨ IsNumeral "-1.5".toList)) ∧
    (written .plain = .ok "-1.500".toList ∧ renderCell .mysql value = .ok "-1.500".toList ∧
      IsNumeral "-1.500".toList) := by
  intro value written
  have hinteger : written .integer = .ok "-1".toList := by decide +kernel
  have hintegerOrNull : written .integerOrNull = .ok "-1".toList := by decide +kernel
  have hfloat : written .float = .ok "-1.5".toList := by decide +kernel
  have hplain : written .plain = .ok "-1.500".toList := by decide +kernel
  have hcell : renderCell .mysql value = .ok "-1.500".toList := by decide +kernel
  obtain ⟨hnumeral, hcanonical, hnumber⟩ :=
    @expandTag_isNumeral .mysql ⟨[value], 0, false⟩ value [] rfl nofun
  exact ⟨⟨hinteger, hcanonical .integer (by decide) _ hinteger⟩,
    ⟨hintegerOrNull, hnumeral .integerOrNull (by decide) _ hintegerOrNull⟩,
    ⟨hfloat, hnumeral .float (by decide) _ hfloat⟩,
    hplain, hcell, (hnumber _ rfl rfl).2 _ hcell⟩

/-! ## Exact parameters -/

/-- The number that an exact scalar stands for. -/
inductive StandsFor : Scalar → ℚ → Prop
  | bool (b : Bool) : StandsFor (.bool b) (if b then 1 else 0)
  | int (i : Int) : StandsFor (.int i) i
  | decimal (negative : Bool) (coefficient : Nat) (exponent : Int) :
      StandsFor (.decimal (.finite negative coefficient exponent))
        (Decimal.toRat negative coefficient exponent)
  | text {t : String} {values : List Nat} {i : Int} (h : IsIntegerLiteral t.toList values i)
      (hlimit : values.length ≤ digitLimit) : StandsFor (.text t) i

/-- The whole part of an exact scalar is exact. -/
theorem StandsFor.wholePart?_eq {s : Scalar} {x : ℚ} (h : StandsFor s x) :
    s.wholePart? = some (towardZero x) := by
  cases h with
  | bool b => cases b <;> simp [Scalar.wholePart?, towardZero]
  | int i => rw [towardZero_intCast, Scalar.wholePart?]
  | decimal negative coefficient exponent =>
      rw [← Decimal.signed_integerPart, Scalar.wholePart?]
  | text hliteral hlimit =>
      rw [towardZero_intCast]
      exact integerOfText?_of_isIntegerLiteral hliteral hlimit

theorem writes_of_wholePart? {quoter : Quoter} {s : Scalar} {i : Int} (h : s.wholePart? = some i)
    (hlimit : i.natAbs < 10 ^ digitLimit) :
    Writes quoter .integer (.scalar s) (integerText i) := by
  have hpart : renderInteger (.scalar s) = .ok (integerText i) :=
    Scalar.integerPart_of_lt h hlimit
  refine .of_present ?_
  simp only [present, orNull, hpart]
  rfl

/-- **An integer slot is exact and repeats itself.**  For an exact scalar it writes the
number without its fraction, if that has no more than `digitLimit` digits.  An integer that
it wrote, of whatever parameter, is written again when the text is the parameter. -/
theorem writes_towardZero (quoter : Quoter) :
    (∀ (s : Scalar) (x : ℚ), StandsFor s x → (towardZero x).natAbs < 10 ^ digitLimit →
      Writes quoter .integer (.scalar s) (toString (towardZero x)).toList) ∧
    ∀ (value : Value) (text : List Char), IsCanonical text → Writes quoter .integer value text →
      Writes quoter .integer (.text (String.ofList text)) text := by
  constructor
  · intro s x hexact hlimit
    rw [← integerText_eq_toString]
    exact writes_of_wholePart? hexact.wholePart?_eq hlimit
  · intro value text hcanonical hwrites
    have hwritten : (expandTag quoter .integer ⟨[value], 0, false⟩).1 = .ok text :=
      congrArg Prod.fst (hwrites [] 0 false)
    have hinteger := ensures_expandTag (by decide) rfl rfl hwrites.ne_skip
      ((exists_of_renderInteger value).nullOr.orNull (.inl rfl)) _ hwritten
    rcases hinteger with rfl | ⟨i, hlimit, rfl⟩
    · exact absurd hcanonical not_isCanonical_nullLiteral
    · have hread : (Scalar.text (String.ofList (integerText i))).wholePart? = some i := by
        rw [Scalar.wholePart?, String.toList_ofList]
        refine integerOfText?_integerText ?_
        exact Nat.not_lt.1 (mt (digitLimit_lt_digitCount_iff _).1 (Nat.not_le.2 hlimit))
      exact writes_of_wholePart? hread hlimit

/-- A decimal number that no double is equal to, and a text with blanks, low lines and a digit
of another script; the second text is read once more. -/
theorem writes_towardZero_inexact :
    let decimal : Scalar := .decimal (.finite true 90071992547409935 (-1))
    let literal : String := "\u00a0-0_1\u0663\n"
    (StandsFor decimal (Decimal.toRat true 90071992547409935 (-1)) ∧
      Writes .sqlite .integer (.scalar decimal) "-9007199254740993".toList) ∧
    (StandsFor (.text literal) (-13 : ℤ) ∧
      Writes .sqlite .integer (.text literal) "-13".toList) ∧
    IsCanonical "-13".toList ∧ Writes .sqlite .integer (.text "-13") "-13".toList := by
  intro decimal literal
  have hdecimal : StandsFor decimal (Decimal.toRat true 90071992547409935 (-1)) := .decimal ..
  have hwhole : towardZero (Decimal.toRat true 90071992547409935 (-1)) = -9007199254740993 := by
    rw [← Decimal.signed_integerPart]
    decide
  have hliteral : StandsFor (.text literal) (-13 : ℤ) := by
    have hdigits : WritesDigits ['0', '_', '1', '\u0663'] [0, 1, 3] :=
      .lowLine (by decide) (.digit (by decide) (.last (by decide)))
    have hsurrounded : IsIntegerLiteral (['\u00a0'] ++ (['-'] ++ ['0', '_', '1', '\u0663'] ++ ['\n']))
        [0, 1, 3] (signed true (Nat.ofDigits 10 [0, 1, 3].reverse)) :=
      .surrounded (List.forall_mem_singleton.2 (by decide)) .minus hdigits
        (List.forall_mem_singleton.2 (by decide))
    rw [show signed true (Nat.ofDigits 10 [0, 1, 3].reverse) = -13 by decide,
      show ['\u00a0'] ++ (['-'] ++ ['0', '_', '1', '\u0663'] ++ ['\n']) = literal.toList by decide]
      at hsurrounded
    exact .text hsurrounded (by decide)
  have hcanonical : IsCanonical "-13".toList := by
    rw [show "-13".toList = integerText (-13) by decide]
    exact isCanonical_integerText (-13)
  obtain ⟨hexact, hrepeated⟩ := writes_towardZero .sqlite
  have hdecimalWritten := hexact decimal _ hdecimal (by rw [hwhole]; decide +kernel)
  have hwritten := hexact (.text literal) _ hliteral (by rw [towardZero_intCast]; decide +kernel)
  rw [hwhole] at hdecimalWritten
  rw [towardZero_intCast] at hwritten
  exact ⟨⟨hdecimal, hdecimalWritten⟩, ⟨hliteral, hwritten⟩, hcanonical,
    hrepeated _ _ hcanonical hwritten⟩

end SqlTemplate
