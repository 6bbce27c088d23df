import SqlTemplate.Proofs.Literal.NumericSlots

/-!
# Empty values in integer slots

There are two placeholders for integers, and one of them writes `NULL` for an empty value.
Apart from that they are the same: on a value that is not empty both follow one rule, and an
empty value is missing, a zero of some type, or a text or a container with nothing in it
(`Value.Vacant`).  For a zero the other placeholder writes `0`, and only a vacant value is
accepted by the one and refused by the other (`integerOrNull_agrees`).

Emptiness and the integer part of a scalar are found in different ways, so the point to
show is that a scalar that counts as empty and is no vacant text has the integer part zero,
whatever its type, sign or exponent.
-/

namespace SqlTemplate

open SqlTemplate.Number

/-! ## What counts as empty -/

/-- A text or a container with nothing in it: empty, but no zero. -/
inductive Value.Vacant : Value → Prop
  | text : Vacant (.text "")
  | sequence (kind : SequenceKind) : Vacant (.sequence kind [])
  | mapping (kind : MappingKind) : Vacant (.mapping kind [])

/-- Something is left of every empty scalar but the empty text. -/
theorem Scalar.eq_text_of_isEmpty {s : Scalar} (h : s.isEmpty) (hwhole : s.wholePart? = none) :
    s = .text "" := by
  cases s with
  | text t =>
      have hzero : (text "0").wholePart? ≠ none := by decide +kernel
      simp only [isEmpty, Bool.or_eq_true, beq_iff_eq] at h
      rcases h with rfl | rfl
      · rfl
      · exact absurd hwhole hzero
  | float x =>
      cases x with
      | finite negative significand exponent => cases hwhole
      | infinite negative => cases h
      | nan => cases h
  | decimal d =>
      cases d with
      | finite negative coefficient exponent => cases hwhole
      | infinite negative => cases h
      | nan negative signaling payload => cases h
  | bool b | int i => cases hwhole
  | date d | time t | dateTime t | uuid u => cases h

theorem Value.cases_of_isEmpty {value : Value} (h : value.isEmpty) :
    value = .null ∨ value.Vacant ∨ ∃ s, value = .scalar s ∧ s.wholePart? = some 0 := by
  cases value with
  | null => exact .inl rfl
  | scalar s =>
      cases hwhole : s.wholePart? with
      | none =>
          obtain rfl := Scalar.eq_text_of_isEmpty h hwhole
          exact .inr (.inl .text)
      | some i =>
          obtain rfl := Scalar.eq_zero_of_isEmpty h hwhole
          exact .inr (.inr ⟨s, rfl, hwhole⟩)
  | sequence kind items =>
      obtain rfl := List.isEmpty_iff.1 h
      exact .inr (.inl (.sequence kind))
  | mapping kind entries =>
      obtain rfl := List.isEmpty_iff.1 h
      exact .inr (.inl (.mapping kind))
  | bytes octets | set members | foreign | skip => cases h

theorem Value.Vacant.isEmpty {value : Value} (h : value.Vacant) : value.isEmpty := by
  cases h <;> rfl

/-! ## The two rules -/

theorem renderInteger_of_wholePart?_eq_zero {s : Scalar} (h : s.wholePart? = some 0) :
    renderInteger (.scalar s) = .ok ['0'] :=
  (Scalar.integerPart_of_lt h (Nat.pow_pos (by decide))).trans (by decide)

/-- On a value that is not empty there is only one rule. -/
theorem renderIntegerOrNull_of_not_isEmpty {value : Value} (h : value.isEmpty = false) :
    renderIntegerOrNull value = orNull renderInteger value := by
  have hvalue : value ≠ .null := by
    rintro rfl
    cases h
  rw [renderIntegerOrNull, h, orNull]
  · rfl
  · exact hvalue

/-! ## The two slots -/

/-- A placeholder writes a text exactly if its rule gives the text. -/
theorem expandTag_eq_ok_iff {quoter : Quoter} {tag : Tag} {value : Value} {text : List Char}
    {rule : Except Refusal (List Char)} {supply : Supply} {rest : List Value}
    (htag : tag ≠ .template) (hrule : present quoter tag value = .literal <$> rule)
    (hpending : supply.pending = value :: rest) (hskip : value ≠ .skip) :
    (expandTag quoter tag supply).1 = .ok text ↔ rule = .ok text := by
  constructor
  · intro h
    have hpresent := present_of_expandTag htag hskip hpending h
    rw [hrule] at hpresent
    exact eq_ok_of_map_literal hpresent
  · rintro rfl
    obtain ⟨pending, taken, raised⟩ := supply
    obtain rfl : pending = value :: rest := hpending
    exact congrArg Prod.fst (Writes.of_present hrule rest taken raised)

/-- **The two slots for integers agree on all values but the empty ones.**  One of them
succeeds where the other does and on vacant values; where both succeed they write the same
text, or the one writes `NULL` and the other one zero. -/
theorem integerOrNull_agrees {quoter : Quoter} {supply : Supply} {value : Value}
    {rest : List Value} (hpending : supply.pending = value :: rest) (hskip : value ≠ .skip) :
    ((∃ text, (expandTag quoter .integerOrNull supply).1 = .ok text) ↔
      (∃ text, (expandTag quoter .integer supply).1 = .ok text) ∨ value.Vacant) ∧
    ∀ nullable plain, (expandTag quoter .integerOrNull supply).1 = .ok nullable →
      (expandTag quoter .integer supply).1 = .ok plain →
      nullable = plain ∨ nullable = nullLiteral ∧ plain = ['0'] := by
  have hnullable : ∀ {text}, (expandTag quoter .integerOrNull supply).1 = .ok text ↔
      renderIntegerOrNull value = .ok text :=
    expandTag_eq_ok_iff (by decide) rfl hpending hskip
  have hplain : ∀ {text}, (expandTag quoter .integer supply).1 = .ok text ↔
      orNull renderInteger value = .ok text :=
    expandTag_eq_ok_iff (by decide) rfl hpending hskip
  simp only [hnullable, hplain]
  cases hempty : value.isEmpty with
  | false =>
      rw [renderIntegerOrNull_of_not_isEmpty hempty]
      refine ⟨⟨.inl, ?_⟩, ?_⟩
      · rintro (hinteger | hvacant)
        · exact hinteger
        · rw [hvacant.isEmpty] at hempty
          cases hempty
      · intro nullable plain hfirst hsecond
        exact .inl (Except.ok.inj (hfirst.symm.trans hsecond))
  | true =>
      have hnull : renderIntegerOrNull value = .ok nullLiteral := by
        rw [renderIntegerOrNull, hempty]
        rfl
      rw [hnull]
      rcases Value.cases_of_isEmpty hempty with rfl | hvacant | ⟨s, rfl, hwhole⟩
      · refine ⟨iff_of_true ⟨_, rfl⟩ (.inl ⟨_, rfl⟩), ?_⟩
        rintro _ _ ⟨⟩ ⟨⟩
        exact .inl rfl
      · refine ⟨iff_of_true ⟨_, rfl⟩ (.inr hvacant), ?_⟩
        -- nothing can be read from a vacant value
        intro nullable plain _ hsecond
        cases hvacant <;> cases hsecond
      · have hzero : orNull renderInteger (.scalar s) = .ok ['0'] :=
          renderInteger_of_wholePart?_eq_zero hwhole
        rw [hzero]
        refine ⟨iff_of_true ⟨_, rfl⟩ (.inl ⟨_, rfl⟩), ?_⟩
        rintro _ _ ⟨⟩ ⟨⟩
        exact .inr ⟨rfl, rfl⟩

/-- A negative zero with an exponent, and the empty text. -/
theorem integerOrNull_agrees_zero :
    let zero : Value := .scalar (.decimal (.finite true 0 5000))
    let written (tag : Tag) (value : Value) := (expandTag .sqlite tag ⟨[value], 0, false⟩).1
    (written .integerOrNull zero = .ok nullLiteral ∧ written .integer zero = .ok ['0'] ∧
      (nullLiteral = ['0'] ∨ nullLiteral = nullLiteral ∧ ['0'] = ['0'])) ∧
    (Value.text "").Vacant ∧ ∃ text, written .integerOrNull (.text "") = .ok text := by
  intro zero written
  have hnullable : written .integerOrNull zero = .ok nullLiteral := by decide +kernel
  have hplain : written .integer zero = .ok ['0'] := by decide +kernel
  have hzero := @integerOrNull_agrees .sqlite ⟨[zero], 0, false⟩ zero [] rfl nofun
  have hvacant := @integerOrNull_agrees .sqlite ⟨[.text ""], 0, false⟩ (.text "") [] rfl nofun
  exact ⟨⟨hnullable, hplain, hzero.2 _ _ hnullable hplain⟩, .text, hvacant.1.2 (.inr .text)⟩

end SqlTemplate
