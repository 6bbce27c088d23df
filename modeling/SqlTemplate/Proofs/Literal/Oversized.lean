import SqlTemplate.Literal.Presentation
import SqlTemplate.Proofs.Number.Range
import SqlTemplate.Report

/-!
# Parameters that are too great

Nearly all refusals are complaints: they say what a placeholder expected and which kind of
value it met.  The others are about the size of a number.  A slot for doubles has nothing to
write for an integer beyond their range, and a slot that has to write out an integer refuses
one with too many digits.

A decimal may stand for an integer that is far greater than any memory.  The integer slots
put it together before they look at its digits, so what is raised about it depends on how
much room there is, and `room` is a parameter of all that follows.

`Oversized` lists these cases by tag and parameter.  There are no others
(`oversized_of_present`), and each of them is refused (`present_of_oversized`).  A plain
placeholder and the cells of an array do complain about an integer with too many digits.
-/

namespace SqlTemplate

open SqlTemplate.Number SqlTemplate.Text

/-! ## Integers -/

theorem integerLiteral_of_le {i : Int} (h : 10 ^ digitLimit ≤ i.natAbs) :
    integerLiteral i = .error .tooManyDigits :=
  if_pos ((digitLimit_lt_digitCount_iff _).2 h)

theorem integerLiteral_of_lt {i : Int} (h : i.natAbs < 10 ^ digitLimit) :
    integerLiteral i = .ok (integerText i) :=
  if_neg fun hdigits => Nat.not_le.2 h ((digitLimit_lt_digitCount_iff _).1 hdigits)

theorem natAbs_signed (negative : Bool) (magnitude : Nat) :
    (signed negative magnitude).natAbs = magnitude := by
  cases negative
  · exact Int.natAbs_natCast magnitude
  · exact (Int.natAbs_neg _).trans (Int.natAbs_natCast magnitude)

namespace Scalar

/-- The integer that is left of a scalar without its fraction, if the scalar is a number or
reads as one. -/
def wholePart? : Scalar → Option Int
  | bool b => some (if b then 1 else 0)
  | int i => some i
  | float x => x.truncate?
  | decimal (.finite negative coefficient exponent) =>
      some (signed negative (Decimal.integerPart coefficient exponent))
  | text t => integerOfText? t.toList
  | _ => none

/-- What an integer slot says about a scalar whose whole part has too many digits. -/
def oversize : Scalar → Refusal
  | decimal (.finite _ coefficient exponent) =>
      .hugeDecimal (Decimal.integerDigits coefficient exponent)
  | _ => .tooManyDigits

/-- The integer slots write the whole part of a scalar. -/
theorem integerPart_of_wholePart? {s : Scalar} {i : Int} (h : s.wholePart? = some i) :
    s.integerPart = (integerLiteral i).mapError fun _ => s.oversize := by
  cases s with
  | bool b =>
      obtain rfl := Option.some.inj h
      cases b <;> rfl
  | int j =>
      obtain rfl := Option.some.inj h
      rfl
  | float x =>
      simp only [integerPart, show x.truncate? = some i from h]
      rfl
  | decimal d =>
      cases d with
      | finite negative coefficient exponent =>
          obtain rfl := Option.some.inj h
          rw [integerPart]
          split
          · next hexceeds =>
              -- the digits are counted before any power of ten is computed
              have hgreat := Decimal.lt_integerDigits_iff.1 hexceeds
              rw [integerLiteral_of_le (by rwa [natAbs_signed])]
              rfl
          · next hfew =>
              have hsmall := Nat.not_le.1 (mt Decimal.lt_integerDigits_iff.2 hfew)
              rw [writeInteger, integerLiteral_of_lt (by rwa [natAbs_signed])]
              rfl
      | infinite negative => cases h
      | nan negative signaling payload => cases h
  | text t =>
      simp only [integerPart, show integerOfText? t.toList = some i from h]
      rfl
  | date d => cases h
  | time t => cases h
  | dateTime t => cases h
  | uuid u => cases h

theorem integerPart_of_lt {s : Scalar} {i : Int} (h : s.wholePart? = some i)
    (hsmall : i.natAbs < 10 ^ digitLimit) : s.integerPart = .ok (integerText i) := by
  rw [integerPart_of_wholePart? h, integerLiteral_of_lt hsmall]
  rfl

theorem integerPart_of_le {s : Scalar} {i : Int} (h : s.wholePart? = some i)
    (hgreat : 10 ^ digitLimit ≤ i.natAbs) : s.integerPart = .error s.oversize := by
  rw [integerPart_of_wholePart? h, integerLiteral_of_le hgreat]
  rfl

theorem integerPart_of_wholePart?_eq_none {s : Scalar} (h : s.wholePart? = none) :
    s.integerPart = .error (.unsuitable .notInteger s.kind) := by
  cases s with
  | bool b => cases h
  | int j => cases h
  | float x => simp only [integerPart, show x.truncate? = none from h]
  | decimal d =>
      cases d with
      | finite negative coefficient exponent => cases h
      | infinite negative => rfl
      | nan negative signaling payload => rfl
  | text t => simp only [integerPart, show integerOfText? t.toList = none from h]
  | date d => rfl
  | time t => rfl
  | dateTime t => rfl
  | uuid u => rfl

/-- Nothing is left of a scalar that counts as nothing. -/
theorem eq_zero_of_isEmpty {s : Scalar} {i : Int} (h : s.isEmpty) (hwhole : s.wholePart? = some i) :
    i = 0 := by
  have hsigned : ∀ negative, signed negative 0 = 0 := by decide
  cases s with
  | bool b =>
      cases b with
      | false => exact (Option.some.inj hwhole).symm
      | true => cases h
  | int j =>
      obtain rfl := Option.some.inj hwhole
      exact beq_iff_eq.1 h
  | float x =>
      cases x with
      | finite negative significand exponent =>
          obtain rfl : significand = 0 := beq_iff_eq.1 h
          obtain rfl := Option.some.inj hwhole
          rw [Nat.zero_mul, Nat.zero_div, hsigned]
      | infinite negative => cases h
      | nan => cases h
  | decimal d =>
      cases d with
      | finite negative coefficient exponent =>
          obtain rfl : coefficient = 0 := beq_iff_eq.1 h
          obtain rfl := Option.some.inj hwhole
          exact hsigned negative
      | infinite negative => cases h
      | nan negative signaling payload => cases h
  | text t =>
      have hnone : (text "").wholePart? = none := by decide +kernel
      have hzero : (text "0").wholePart? = some 0 := by decide +kernel
      simp only [isEmpty, Bool.or_eq_true, beq_iff_eq] at h
      rcases h with rfl | rfl
      · rw [hnone] at hwhole
        cases hwhole
      · rw [hzero] at hwhole
        exact (Option.some.inj hwhole).symm
  | date d => cases h
  | time t => cases h
  | dateTime t => cases h
  | uuid u => cases h

/-- Only an integer may have no text. -/
theorem eq_int_of_text? {s : Scalar} {reason : NoLiteral} (h : s.text? = .error reason) :
    ∃ i, s = int i ∧ 10 ^ digitLimit ≤ i.natAbs := by
  cases s with
  | int i =>
      refine ⟨i, rfl, Nat.not_lt.1 fun hlt => ?_⟩
      have hliteral : integerLiteral i = .error reason := h
      rw [integerLiteral_of_lt hlt] at hliteral
      cases hliteral
  | _ => cases h

end Scalar

/-! ## Rules that only complain -/

/-- A rule whose refusals are complaints, and none of them is about size alone. -/
def OnlyComplains {α : Type} (rule : Except Refusal α) : Prop :=
  ∀ refusal, rule = .error refusal → ∃ complaint kind, refusal = .unsuitable complaint kind

namespace OnlyComplains

variable {α β : Type}

theorem ok (value : α) : OnlyComplains (.ok value : Except Refusal α) := nofun

theorem complaint (complaint : Complaint) (kind : Kind) :
    OnlyComplains (.error (.unsuitable complaint kind) : Except Refusal α) := by
  rintro _ ⟨⟩
  exact ⟨complaint, kind, rfl⟩

theorem mapError {ε : Type} (rule : Except ε α) (complaint : ε → Complaint) (kind : Kind) :
    OnlyComplains (rule.mapError fun reason => .unsuitable (complaint reason) kind) := by
  cases rule with
  | error reason => exact .complaint (complaint reason) kind
  | ok value => exact .ok value

theorem bind {rule : Except Refusal α} {next : α → Except Refusal β} (hrule : OnlyComplains rule)
    (hnext : ∀ value, OnlyComplains (next value)) : OnlyComplains (rule >>= next) := by
  cases rule with
  | error refusal =>
      rintro _ ⟨⟩
      exact hrule refusal rfl
  | ok value => exact hnext value

theorem mapM {f : α → Except Refusal β} {xs : List α} (h : ∀ x ∈ xs, OnlyComplains (f x)) :
    OnlyComplains (xs.mapM f) := by
  induction xs with
  | nil => exact .ok []
  | cons first rest ih =>
      rw [List.mapM_cons]
      have hrest := ih fun x hmem => h x (List.mem_cons_of_mem _ hmem)
      exact (h first (List.mem_cons_self ..)).bind fun value =>
        hrest.bind fun others => .ok (value :: others)

end OnlyComplains

section

variable {quoter : Quoter}

theorem onlyComplains_literal (s : Scalar) : OnlyComplains (s.literalOrComplain quoter) :=
  .mapError (s.literal quoter) .noLiteral s.kind

theorem onlyComplains_renderPlain (value : Value) : OnlyComplains (renderPlain quoter value) := by
  cases value with
  | scalar s => exact onlyComplains_literal s
  | _ => exact .complaint _ _

theorem onlyComplains_renderCell (value : Value) : OnlyComplains (renderCell quoter value) := by
  cases value with
  | null => exact .ok nullLiteral
  | scalar s => exact onlyComplains_literal s
  | _ => exact .complaint _ _

theorem onlyComplains_renderAssignment (a : Assignment) : OnlyComplains (a.render quoter) := by
  refine (onlyComplains_renderCell a.cell).bind fun cell => ?_
  cases a.column with
  | none => exact .ok _
  | some column => exact .ok _

theorem onlyComplains_renderArray (value : Value) : OnlyComplains (renderArray quoter value) := by
  unfold renderArray
  split
  · exact .complaint _ _
  · exact .ok nullLiteral
  · split
    · refine (OnlyComplains.mapM fun row _ => ?_).bind fun lines => .ok _
      exact (OnlyComplains.mapM fun cell _ => onlyComplains_renderCell cell).bind fun cells => .ok _
    · exact (OnlyComplains.mapM fun a _ => onlyComplains_renderAssignment a).bind fun parts => .ok _

theorem onlyComplains_renderName (table : Option (List Char)) (value : Value) :
    OnlyComplains (renderName table value) := by
  unfold renderName
  split
  · exact .ok _
  · exact .complaint _ _

theorem onlyComplains_renderIdentifiers (value : Value) :
    OnlyComplains (renderIdentifiers value) := by
  unfold renderIdentifiers
  split
  · exact .ok _
  · split
    · exact .complaint _ _
    · exact (OnlyComplains.mapM fun name _ => onlyComplains_renderName name.1 name.2).bind
        fun parts => .ok _

theorem onlyComplains_writeFloat (kind : Kind) (x : Binary64) :
    OnlyComplains (writeFloat kind x) :=
  .mapError (floatLiteral x) (fun _ => .notFinite) kind

/-! ## Slots and parameters -/

/-- A slot with a parameter that is too great for it, and the error that comes of it where there
is room for integers of up to `room` digits. -/
inductive Oversized (room : Nat) : Tag → Value → Raised → Prop
  /-- No double is near an integer that great. -/
  | double {i : Int} (h : overflowThreshold ≤ i.natAbs) :
      Oversized room .float (.int i) .beyondDouble
  /-- The integer that a parameter stands for has too many digits, but there is room for it. -/
  | integer {tag : Tag} {s : Scalar} {i : Int} (htag : tag = .integer ∨ tag = .integerOrNull)
      (hwhole : s.wholePart? = some i) (h : 10 ^ digitLimit ≤ i.natAbs)
      (hroom : s.kind = .decimal → i.natAbs < 10 ^ room) :
      Oversized room tag (.scalar s) .tooManyDigits
  /-- There is no room for the integer part of a decimal. -/
  | decimal {tag : Tag} {negative : Bool} {coefficient : Nat} {exponent : Int}
      (htag : tag = .integer ∨ tag = .integerOrNull)
      (h : 10 ^ digitLimit ≤ Decimal.integerPart coefficient exponent)
      (hroom : 10 ^ room ≤ Decimal.integerPart coefficient exponent) :
      Oversized room tag (.scalar (.decimal (.finite negative coefficient exponent))) .outOfMemory
  /-- An integer that is to be quoted as text has too many digits. -/
  | text {name : String} {i : Int} (h : 10 ^ digitLimit ≤ i.natAbs) :
      Oversized room (.other name) (.int i) .tooManyDigits

section

variable {s : Scalar} {i : Int} {room : Nat}

theorem raised_oversize_of_fits (hwhole : s.wholePart? = some i)
    (hroom : s.kind = .decimal → i.natAbs < 10 ^ room) (tag : Tag) (position : Nat) :
    (s.oversize.toFailure tag position).raised room = .tooManyDigits := by
  cases s with
  | decimal d =>
      cases d with
      | finite negative coefficient exponent =>
          obtain rfl := Option.some.inj hwhole
          have hfits := hroom rfl
          rw [natAbs_signed] at hfits
          exact if_pos (Decimal.integerDigits_le_iff.2 hfits)
      | infinite negative => cases hwhole
      | nan negative signaling payload => cases hwhole
  | _ => rfl

/-- What an integer slot says about a scalar with too many digits is raised in one of two ways. -/
theorem oversized_oversize {tag : Tag} (htag : tag = .integer ∨ tag = .integerOrNull)
    (hwhole : s.wholePart? = some i) (hgreat : 10 ^ digitLimit ≤ i.natAbs) (position : Nat) :
    Oversized room tag (.scalar s) ((s.oversize.toFailure tag position).raised room) := by
  by_cases hroom : s.kind = .decimal → i.natAbs < 10 ^ room
  · rw [raised_oversize_of_fits hwhole hroom]
    exact .integer htag hwhole hgreat hroom
  · obtain ⟨hkind, hbeyond⟩ := Classical.not_imp.1 hroom
    rw [Nat.not_lt] at hbeyond
    cases s with
    | decimal d =>
        cases d with
        | finite negative coefficient exponent =>
            obtain rfl := Option.some.inj hwhole
            rw [natAbs_signed] at hgreat hbeyond
            have hraised : (Failure.hugeDecimal
                (Decimal.integerDigits coefficient exponent)).raised room = .outOfMemory :=
              if_neg (Nat.not_le.2 (Decimal.lt_integerDigits_iff.2 hbeyond))
            rw [Scalar.oversize, Refusal.toFailure, hraised]
            exact .decimal htag hgreat hbeyond
        | infinite negative => cases hwhole
        | nan negative signaling payload => cases hwhole
    | _ => cases hkind

end

theorem eq_error_of_map {ε α β : Type} {rule : Except ε α} {f : α → β} {reason : ε}
    (h : f <$> rule = .error reason) : rule = .error reason := by
  cases rule with
  | error other => exact congrArg Except.error (Except.error.inj h)
  | ok value => cases h

theorem eq_error_of_orNull {rule : Value → Except Refusal (List Char)} {value : Value}
    {refusal : Refusal} (h : orNull rule value = .error refusal) : rule value = .error refusal := by
  cases value with
  | null => cases h
  | _ => exact h

theorem oversized_of_renderInteger {tag : Tag} {value : Value} {refusal : Refusal}
    (htag : tag = .integer ∨ tag = .integerOrNull) (h : renderInteger value = .error refusal) :
    (∃ complaint kind, refusal = .unsuitable complaint kind) ∨
      ∀ room position, Oversized room tag value ((refusal.toFailure tag position).raised room) := by
  cases value with
  | scalar s =>
      have hpart : s.integerPart = .error refusal := h
      cases hwhole : s.wholePart? with
      | none =>
          rw [Scalar.integerPart_of_wholePart?_eq_none hwhole] at hpart
          exact Or.inl (OnlyComplains.complaint .notInteger s.kind refusal hpart)
      | some i =>
          rcases Nat.lt_or_ge i.natAbs (10 ^ digitLimit) with hsmall | hgreat
          · rw [Scalar.integerPart_of_lt hwhole hsmall] at hpart
            cases hpart
          · rw [Scalar.integerPart_of_le hwhole hgreat] at hpart
            obtain rfl := Except.error.inj hpart
            exact Or.inr fun _ position => oversized_oversize htag hwhole hgreat position
  | _ => exact Or.inl (OnlyComplains.complaint _ _ refusal h)

theorem oversized_of_renderFloat {value : Value} {refusal : Refusal}
    (h : renderFloat value = .error refusal) :
    (∃ complaint kind, refusal = .unsuitable complaint kind) ∨
      ∀ room position,
        Oversized room .float value ((refusal.toFailure .float position).raised room) := by
  cases value with
  | scalar s =>
      cases s with
      | int i =>
          by_cases hfinite : (Binary64.ofInt i).isFinite
          · have hwrite : renderFloat (.int i) = writeFloat .int (Binary64.ofInt i) := if_pos hfinite
            rw [hwrite] at h
            exact Or.inl (onlyComplains_writeFloat _ _ refusal h)
          · have hbeyond : renderFloat (.int i) = .error .beyondDouble := if_neg hfinite
            rw [hbeyond] at h
            obtain rfl := Except.error.inj h
            have hgreat : overflowThreshold ≤ i.natAbs :=
              Nat.not_lt.1 (mt (Binary64.isFinite_ofInt_iff i).2 hfinite)
            exact Or.inr fun _ _ => .double hgreat
      | bool b => exact Or.inl (onlyComplains_writeFloat _ _ refusal h)
      | float x => exact Or.inl (onlyComplains_writeFloat _ _ refusal h)
      | decimal d => exact Or.inl (onlyComplains_writeFloat _ _ refusal h)
      | text t =>
          refine Or.inl ?_
          simp only [renderFloat] at h
          split at h
          · exact onlyComplains_writeFloat _ _ refusal h
          · exact OnlyComplains.complaint _ _ refusal h
      | date d => exact Or.inl (OnlyComplains.complaint _ _ refusal h)
      | time t => exact Or.inl (OnlyComplains.complaint _ _ refusal h)
      | dateTime t => exact Or.inl (OnlyComplains.complaint _ _ refusal h)
      | uuid u => exact Or.inl (OnlyComplains.complaint _ _ refusal h)
  | _ => exact Or.inl (OnlyComplains.complaint _ _ refusal h)

theorem oversized_of_renderAsText {name : String} {value : Value} {refusal : Refusal}
    (h : renderAsText quoter value = .error refusal) :
    (∃ complaint kind, refusal = .unsuitable complaint kind) ∨
      ∀ room position,
        Oversized room (.other name) value
          ((refusal.toFailure (.other name) position).raised room) := by
  cases value with
  | scalar s =>
      simp only [renderAsText] at h
      split at h
      · cases h
      · next reason htext =>
          obtain ⟨i, rfl, hgreat⟩ := Scalar.eq_int_of_text? htext
          obtain rfl := Except.error.inj h
          exact Or.inr fun _ _ => .text hgreat
  | _ => exact Or.inl (OnlyComplains.complaint _ _ refusal h)

/-- **A refusal is a complaint, or the parameter is too great for its slot.** -/
theorem oversized_of_present {tag : Tag} {value : Value} {refusal : Refusal}
    (h : present quoter tag value = .error refusal) :
    (∃ complaint kind, refusal = .unsuitable complaint kind) ∨
      ∀ room position, Oversized room tag value ((refusal.toFailure tag position).raised room) := by
  cases tag with
  | template =>
      refine Or.inl ?_
      simp only [present] at h
      split at h
      · cases h
      · exact OnlyComplains.complaint _ _ refusal h
  | array => exact Or.inl (onlyComplains_renderArray value refusal (eq_error_of_map h))
  | identifiers => exact Or.inl (onlyComplains_renderIdentifiers value refusal (eq_error_of_map h))
  | plain =>
      exact Or.inl (onlyComplains_renderPlain value refusal (eq_error_of_orNull (eq_error_of_map h)))
  | integer =>
      exact oversized_of_renderInteger (Or.inl rfl) (eq_error_of_orNull (eq_error_of_map h))
  | integerOrNull =>
      have hrule : renderIntegerOrNull value = .error refusal := eq_error_of_map h
      rw [renderIntegerOrNull] at hrule
      split at hrule
      · cases hrule
      · exact oversized_of_renderInteger (Or.inr rfl) hrule
  | float => exact oversized_of_renderFloat (eq_error_of_orNull (eq_error_of_map h))
  | other name => exact oversized_of_renderAsText (eq_error_of_orNull (eq_error_of_map h))

/-- The integer slots refuse a scalar whose whole part has too many digits. -/
theorem present_oversize {tag : Tag} {s : Scalar} {i : Int}
    (htag : tag = .integer ∨ tag = .integerOrNull) (hwhole : s.wholePart? = some i)
    (hgreat : 10 ^ digitLimit ≤ i.natAbs) :
    present quoter tag (.scalar s) = .error s.oversize := by
  have hrule : renderInteger (.scalar s) = .error s.oversize :=
    Scalar.integerPart_of_le hwhole hgreat
  have hempty : s.isEmpty = false := by
    have hpositive : 0 < 10 ^ digitLimit := Nat.pow_pos (by decide)
    rw [Bool.eq_false_iff]
    intro hempty
    rw [Scalar.eq_zero_of_isEmpty hempty hwhole] at hgreat
    exact absurd hgreat (Nat.not_le.2 hpositive)
  rcases htag with rfl | rfl
  · simp only [present, orNull, hrule]
    rfl
  · simp only [present, renderIntegerOrNull, Value.isEmpty, hempty, hrule]
    rfl

/-- A parameter that is too great for its slot is refused. -/
theorem present_of_oversized {room : Nat} {tag : Tag} {value : Value} {raised : Raised}
    (h : Oversized room tag value raised) :
    ∃ refusal, present quoter tag value = .error refusal ∧
      ∀ position, (refusal.toFailure tag position).raised room = raised := by
  cases h with
  | @double i hgreat =>
      have hbeyond : renderFloat (.int i) = .error .beyondDouble :=
        if_neg (mt (Binary64.isFinite_ofInt_iff i).1 (Nat.not_lt.2 hgreat))
      refine ⟨.beyondDouble, ?_, fun _ => rfl⟩
      simp only [present, orNull, hbeyond]
      rfl
  | integer htag hwhole hgreat hroom =>
      exact ⟨_, present_oversize htag hwhole hgreat, raised_oversize_of_fits hwhole hroom _⟩
  | @decimal _ negative coefficient exponent htag hgreat hroom =>
      rw [← natAbs_signed negative (Decimal.integerPart coefficient exponent)] at hgreat
      refine ⟨_, present_oversize htag rfl hgreat, fun _ => ?_⟩
      exact if_neg (Nat.not_le.2 (Decimal.lt_integerDigits_iff.2 hroom))
  | @text name i hgreat =>
      have htext : (Scalar.int i).text? = .error .tooManyDigits := integerLiteral_of_le hgreat
      refine ⟨.tooManyDigits, ?_, fun _ => rfl⟩
      simp only [present, orNull, renderAsText, htext]
      rfl

end

end SqlTemplate
