import Mathlib.Data.Nat.Digits.Defs
import SqlTemplate.Literal.Numeric
import SqlTemplate.Proofs.Number.Token

/-!
# Integers as text

Every integer is written in one form only: without a zero in front, without a plus, and
with a minus in front of a positive number or not at all (`isCanonical_integerText`).

Many more texts are read as an integer.  `IsIntegerLiteral` is their grammar: blanks around
an optional sign and a run of digits, which may come from any script and may have single
low lines between them.  The reader accepts all of them, as far as they have no more than
`digitLimit` digits, and finds the number that their digits write in base ten
(`integerOfText?_of_isIntegerLiteral`).  The canonical texts are among them, so an integer
that was written is read back (`integerOfText?_integerText`).
-/

namespace SqlTemplate.Number

open SqlTemplate.Text

/-! ## Canonical texts -/

/-- The canonical text of a positive number: digits, the first of which is no zero. -/
structure IsPositive (text : List Char) : Prop extends AreDigits text where
  leading : text.head? ≠ some '0'

/-- The canonical text of an integer. -/
inductive IsCanonical : List Char → Prop
  | zero : IsCanonical ['0']
  | positive {text : List Char} (h : IsPositive text) : IsCanonical text
  | negative {text : List Char} (h : IsPositive text) : IsCanonical ('-' :: text)

theorem IsCanonical.isNumeral {text : List Char} (h : IsCanonical text) : IsNumeral text := by
  cases h with
  | zero => exact .unsigned (.of_digits (areDigits_toDigits 0))
  | positive h => exact .unsigned (.of_digits h.toAreDigits)
  | negative h => exact .minus (.of_digits h.toAreDigits)

theorem head?_toDigits {n : Nat} (h : n ≠ 0) : (Nat.toDigits 10 n).head? ≠ some '0' := by
  induction n using Nat.strongRecOn with
  | ind n ih =>
      rw [Nat.toDigits_eq_if (by omega)]
      split
      · rw [List.head?_cons, ne_eq, Option.some.injEq, Nat.digitChar_eq_zero]
        exact h
      · next hlarge =>
          obtain ⟨c, hhead⟩ := Option.ne_none_iff_exists'.1
            (mt List.head?_eq_none_iff.1 (Nat.toDigits_ne_nil (n := n / 10) (b := 10)))
          have hleading := ih (n / 10) (by omega) (by omega)
          rw [hhead] at hleading
          rwa [List.head?_append, hhead, Option.some_or]

theorem isPositive_toDigits {n : Nat} (h : n ≠ 0) : IsPositive (Nat.toDigits 10 n) :=
  ⟨areDigits_toDigits n, head?_toDigits h⟩

/-- **An integer is written in its canonical form.** -/
theorem isCanonical_integerText (i : Int) : IsCanonical (integerText i) := by
  unfold integerText
  split
  · exact .negative (isPositive_toDigits (by omega))
  · by_cases hzero : i = 0
    · subst hzero
      exact .zero
    · exact .positive (isPositive_toDigits (by omega))

theorem integerText_eq_toString (i : Int) : integerText i = (toString i).toList := by
  rw [Int.toString_eq_repr, Int.repr_eq_if, integerText]
  split
  · rw [if_neg (by omega), String.toList_append, Nat.toList_repr,
      show i.natAbs = (-i).toNat by omega]
    rfl
  · rw [if_pos (by omega), Nat.toList_repr, show i.natAbs = i.toNat by omega]
    rfl

/-! ## Blanks -/

section

variable {front core back : List Char}

theorem dropWhile_isBlank_append (hfront : ∀ c ∈ front, isBlank c)
    (hcore : ∃ c ∈ core.head?, isBlank c = false) (back : List Char) :
    (front ++ (core ++ back)).dropWhile isBlank = core ++ back := by
  obtain ⟨c, hhead, hblank⟩ := hcore
  obtain ⟨rest, rfl⟩ := List.head?_eq_some_iff.1 hhead
  rw [List.dropWhile_append_of_pos hfront, List.cons_append,
    List.dropWhile_cons_of_neg (by rw [hblank]; decide)]

/-- Trimming takes away just the blanks around a text that has none at its ends. -/
theorem trim_surrounded (hfront : ∀ c ∈ front, isBlank c) (hback : ∀ c ∈ back, isBlank c)
    (hfirst : ∃ c ∈ core.head?, isBlank c = false) (hlast : ∃ c ∈ core.getLast?, isBlank c = false) :
    trim (front ++ (core ++ back)) = core := by
  have hreversed : (back.reverse ++ (core.reverse ++ [])).dropWhile isBlank = core.reverse ++ [] :=
    dropWhile_isBlank_append (fun c hmem => hback c (List.mem_reverse.1 hmem))
      (by rwa [List.head?_reverse]) []
  rw [List.append_nil] at hreversed
  rw [trim, dropWhile_isBlank_append hfront hfirst, List.reverse_append, hreversed,
    List.reverse_reverse]

end

/-! ## Runs of digits -/

/-- A run of digits with the value of each: a single low line may stand between two of
them. -/
inductive WritesDigits : List Char → List Nat → Prop
  | last {c : Char} {value : Nat} (hc : digitValue? c = some value) : WritesDigits [c] [value]
  | digit {c : Char} {value : Nat} {text : List Char} {values : List Nat}
      (hc : digitValue? c = some value) (hrest : WritesDigits text values) :
      WritesDigits (c :: text) (value :: values)
  | lowLine {c : Char} {value : Nat} {text : List Char} {values : List Nat}
      (hc : digitValue? c = some value) (hrest : WritesDigits text values) :
      WritesDigits (c :: '_' :: text) (value :: values)

/-- No digit of any script is blank. -/
theorem isBlank_of_digitValue? {c : Char} {value : Nat} (h : digitValue? c = some value) :
    isBlank c = false := by
  have hapart : ∀ first ∈ digitZeros, ∀ stretch ∈ blankStretches,
      first + 9 < stretch.1 ∨ stretch.2 < first := by decide
  obtain ⟨first, hfound, -⟩ := Option.map_eq_some_iff.1 h
  have hrange := List.find?_some hfound
  rw [Bool.and_eq_true, decide_eq_true_iff, decide_eq_true_iff] at hrange
  rw [isBlank, List.any_eq_false]
  intro stretch hstretch
  have := hapart first (List.mem_of_find?_eq_some hfound) stretch hstretch
  rw [Bool.and_eq_true, decide_eq_true_iff, decide_eq_true_iff]
  omega

namespace WritesDigits

variable {text : List Char} {values : List Nat}

theorem head (h : WritesDigits text values) : ∃ c ∈ text.head?, (digitValue? c).isSome := by
  cases h with
  | last hc => exact ⟨_, rfl, Option.isSome_of_eq_some hc⟩
  | digit hc => exact ⟨_, rfl, Option.isSome_of_eq_some hc⟩
  | lowLine hc => exact ⟨_, rfl, Option.isSome_of_eq_some hc⟩

theorem getLast (h : WritesDigits text values) : ∃ c ∈ text.getLast?, (digitValue? c).isSome := by
  have hcons : ∀ {c d : Char} {rest : List Char}, d ∈ rest.getLast? → d ∈ (c :: rest).getLast? := by
    intro c d rest hmem
    rw [List.getLast?_cons, Option.mem_def.1 hmem]
    rfl
  induction h with
  | last hc => exact ⟨_, rfl, Option.isSome_of_eq_some hc⟩
  | digit _ _ ih =>
      obtain ⟨c, hmem, hc⟩ := ih
      exact ⟨c, hcons hmem, hc⟩
  | lowLine _ _ ih =>
      obtain ⟨c, hmem, hc⟩ := ih
      exact ⟨c, hcons (hcons hmem), hc⟩

theorem digitRun?_eq (h : WritesDigits text values) : digitRun? text = some values := by
  induction h with
  | last hc => rw [digitRun?, hc]; rfl
  | @digit c value text values hc hrest ih =>
      obtain ⟨d, hhead, hd⟩ := hrest.head
      obtain ⟨rest, rfl⟩ := List.head?_eq_some_iff.1 hhead
      -- the next character is a digit and no low line
      have hlowLine : d ≠ '_' := by
        rintro rfl
        cases hd
      rw [digitRun?, hc, ih]
      · rfl
      · exact List.cons_ne_nil _ _
      · intro more hmore
        exact hlowLine (List.cons.inj hmore).1
  | lowLine hc _ ih => rw [digitRun?, hc, ih]; rfl

end WritesDigits

/-- ASCII digits without low lines. -/
theorem writesDigits_of_areDigits {text : List Char} (h : AreDigits text) :
    WritesDigits text (text.map (·.toNat - 48)) := by
  have hvalue : ∀ c : Char, c.isDigit → digitValue? c = some (c.toNat - 48) := by
    intro c hc
    rw [Char.isDigit, Bool.and_eq_true, decide_eq_true_iff, decide_eq_true_iff] at hc
    have hrange : 48 ≤ c.toNat ∧ c.toNat < 48 + 10 :=
      ⟨hc.1, Nat.lt_succ_of_le (show c.toNat ≤ 57 from hc.2)⟩
    rw [digitValue?, digitZeros, List.find?_cons_of_pos (by simpa using hrange)]
    rfl
  obtain ⟨hne, hdigit⟩ := h
  induction text with
  | nil => exact absurd rfl hne
  | cons c rest ih =>
      have hc := hvalue c (hdigit c (List.mem_cons_self ..))
      by_cases hrest : rest = []
      · subst hrest
        exact .last hc
      · exact .digit hc (ih hrest fun d hmem => hdigit d (List.mem_cons_of_mem _ hmem))

/-- The reader adds the digits up by their places. -/
theorem ofDigits_eq (values : List Nat) : ofDigits values = Nat.ofDigits 10 values.reverse := by
  rw [Nat.ofDigits_eq_foldr, List.foldr_reverse, ofDigits]
  simp only [Nat.cast_id, Nat.add_comm]

theorem ofDigits_toDigits (n : Nat) :
    ofDigits ((Nat.toDigits 10 n).map (·.toNat - 48)) = n := by
  rw [ofDigits, List.foldl_map]
  exact Nat.ofDigitChars_ten_toDigits

/-! ## Integer literals -/

/-- The sign in front of a numeral; the flag tells a minus. -/
inductive IsSign : List Char → Bool → Prop
  | none : IsSign [] false
  | plus : IsSign ['+'] false
  | minus : IsSign ['-'] true

/-- A text that is read as an integer, with the values of its digits and the integer that
they write in base ten. -/
inductive IsIntegerLiteral : List Char → List Nat → Int → Prop
  | surrounded {front sign digits back : List Char} {negative : Bool} {values : List Nat}
      (hfront : ∀ c ∈ front, isBlank c) (hsign : IsSign sign negative)
      (hdigits : WritesDigits digits values) (hback : ∀ c ∈ back, isBlank c) :
      IsIntegerLiteral (front ++ (sign ++ digits ++ back)) values
        (signed negative (Nat.ofDigits 10 values.reverse))

section

variable {sign digits : List Char} {negative : Bool} {values : List Nat}

theorem IsSign.splitSign_append (h : IsSign sign negative) (hdigits : WritesDigits digits values) :
    splitSign (sign ++ digits) = (negative, digits) := by
  cases h with
  | none =>
      obtain ⟨c, hhead, hc⟩ := hdigits.head
      obtain ⟨rest, rfl⟩ := List.head?_eq_some_iff.1 hhead
      rw [List.nil_append]
      unfold splitSign
      split
      · next heq =>
          cases heq
          cases hc
      · next heq =>
          cases heq
          cases hc
      · rfl
  | plus => rfl
  | minus => rfl

theorem IsSign.head_append (h : IsSign sign negative) (hdigits : WritesDigits digits values) :
    ∃ c ∈ (sign ++ digits).head?, isBlank c = false := by
  cases h with
  | none =>
      obtain ⟨c, hhead, hc⟩ := hdigits.head
      obtain ⟨value, hvalue⟩ := Option.isSome_iff_exists.1 hc
      exact ⟨c, hhead, isBlank_of_digitValue? hvalue⟩
  | plus => exact ⟨'+', rfl, by decide⟩
  | minus => exact ⟨'-', rfl, by decide⟩

theorem getLast_append (sign : List Char) (hdigits : WritesDigits digits values) :
    ∃ c ∈ (sign ++ digits).getLast?, isBlank c = false := by
  obtain ⟨c, hlast, hc⟩ := hdigits.getLast
  obtain ⟨value, hvalue⟩ := Option.isSome_iff_exists.1 hc
  refine ⟨c, ?_, isBlank_of_digitValue? hvalue⟩
  rw [Option.mem_def, List.getLast?_append, Option.mem_def.1 hlast]
  rfl

end

/-- **Every integer literal is read as its integer**, if it has no more than `digitLimit`
digits. -/
theorem integerOfText?_of_isIntegerLiteral {text : List Char} {values : List Nat} {i : Int}
    (h : IsIntegerLiteral text values i) (hlimit : values.length ≤ digitLimit) :
    integerOfText? text = some i := by
  obtain @⟨front, sign, digits, back, negative, _, hfront, hsign, hdigits, hback⟩ := h
  have hfirst := hsign.head_append hdigits
  have hlast := getLast_append sign hdigits
  have hread : integer? (sign ++ digits) =
      some (signed negative (Nat.ofDigits 10 values.reverse)) := by
    have htrimmed : trim ([] ++ (sign ++ digits ++ [])) = sign ++ digits :=
      trim_surrounded (by simp) (by simp) hfirst hlast
    rw [List.nil_append, List.append_nil] at htrimmed
    rw [integer?, htrimmed, hsign.splitSign_append hdigits]
    dsimp only
    rw [hdigits.digitRun?_eq, Option.bind_eq_bind, Option.bind_some, if_pos hlimit, ofDigits_eq]
    rfl
  unfold integerOfText?
  rw [trim_surrounded hfront hback hfirst hlast]
  dsimp only
  rw [hread]

/-- The canonical text of an integer is an integer literal. -/
theorem isIntegerLiteral_integerText (i : Int) :
    IsIntegerLiteral (integerText i) ((Nat.toDigits 10 i.natAbs).map (·.toNat - 48)) i := by
  have hdigits := writesDigits_of_areDigits (areDigits_toDigits i.natAbs)
  have hliteral : ∀ {sign : List Char} {negative : Bool}, IsSign sign negative →
      IsIntegerLiteral (sign ++ Nat.toDigits 10 i.natAbs)
        ((Nat.toDigits 10 i.natAbs).map (·.toNat - 48)) (signed negative i.natAbs) := by
    intro sign negative hsign
    have hsurrounded : IsIntegerLiteral ([] ++ (sign ++ Nat.toDigits 10 i.natAbs ++ []))
        _ _ := .surrounded (by simp) hsign hdigits (by simp)
    rwa [List.nil_append, List.append_nil, ← ofDigits_eq, ofDigits_toDigits] at hsurrounded
  unfold integerText
  split
  · have hminus := hliteral .minus
    rwa [show signed true i.natAbs = i by rw [signed, if_pos rfl]; omega] at hminus
  · have hplain := hliteral .none
    rwa [show signed false i.natAbs = i by rw [signed, if_neg (by decide)]; omega] at hplain

/-- **An integer that was written is read back.** -/
theorem integerOfText?_integerText {i : Int} (h : digitCount i.natAbs ≤ digitLimit) :
    integerOfText? (integerText i) = some i :=
  integerOfText?_of_isIntegerLiteral (isIntegerLiteral_integerText i) (by rwa [List.length_map])

end SqlTemplate.Number
