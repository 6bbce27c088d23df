import Mathlib.Data.List.TakeWhile
import SqlTemplate.Quoter
import SqlTemplate.Template.Block

/-!
# The lexemes of a part of a text

A block is cut out of its template, its content is cut at the bars, and every
piece is read again from its own first character.  This file shows that none of
these cuts changes what is read: a part that begins and ends between two lexemes
of a text has exactly the lexemes that stand there in the text (`Lexed.of_isInfix`).

## Strategy

Behind a cut nothing has to be shown, because reading goes from left to right.
In front of a cut the text ends earlier than it did, so everything rests on how
far a region looks ahead.

* A comment or a string is closed by its own last characters, whatever follows.
* An identifier looks one character further, and when it is never closed it gives
  up the last doubled backtick.  Both answers depend only on which backticks
  follow (`closeIdentifier?_eq_none_iff`), and a shorter text has fewer of them.
* An opening mark that is closed nowhere is closed nowhere in a shorter text.

All three are collected in `nextLexeme?_of_append`, the step of the induction.
-/

namespace SqlTemplate

/-! ## Closing a region when the text after it changes -/

theorem closeComment?_ne_nil {text body rest : List Char}
    (h : closeComment? text = some (body, rest)) : body ≠ [] := by
  rintro rfl
  fun_induction closeComment? text with
  | case1 => simp at h
  | case2 tail => simp at h
  | case3 c tail hopen ih =>
      obtain ⟨⟨inner, after⟩, -, hsplit⟩ := Option.map_eq_some_iff.1 h
      simp [prepend] at hsplit

/-- A block comment is closed by its own last characters. -/
theorem closeComment?_append {text body rest : List Char}
    (h : closeComment? text = some (body, rest)) (other : List Char) :
    closeComment? (body ++ other) = some (body, other) := by
  fun_induction closeComment? text generalizing body rest with
  | case1 => simp at h
  | case2 tail =>
      simp only [Option.some.injEq, Prod.mk.injEq] at h
      rw [← h.1]
      rfl
  | case3 c tail hopen ih =>
      obtain ⟨⟨inner, after⟩, hinner, hsplit⟩ := Option.map_eq_some_iff.1 h
      simp only [prepend, Prod.mk.injEq] at hsplit
      obtain ⟨rfl, rfl⟩ := hsplit
      have htail : inner ++ after = tail := append_of_closeComment? hinner
      obtain ⟨first, others, rfl⟩ := List.exists_cons_of_ne_nil (closeComment?_ne_nil hinner)
      rw [List.cons_append, closeComment?, ih hinner]
      · rfl
      · rintro more rfl hmore
        obtain ⟨rfl, -⟩ := List.cons.inj hmore
        exact hopen (others ++ after) rfl htail.symm

/-- A backslash is read together with what follows it, or is the last character. -/
theorem ne_backslash_of_cases {c : Char} {tail : List Char} (hlone : c = '\\' → tail = [] → False)
    (hescape : ∀ next more, c = '\\' → tail = next :: more → False) : c ≠ '\\' := by
  intro hc
  cases tail with
  | nil => exact hlone hc rfl
  | cons next more => exact hescape next more hc rfl

/-- A string is closed by its own last character. -/
theorem closeString?_append {mark : Char} {text body rest : List Char}
    (h : closeString? mark text = some (body, rest)) (other : List Char) :
    closeString? mark (body ++ other) = some (body, other) := by
  fun_induction closeString? mark text generalizing body rest with
  | case1 => simp at h
  | case2 => simp at h
  | case3 c tail ih =>
      obtain ⟨⟨inner, after⟩, hinner, hsplit⟩ := Option.map_eq_some_iff.1 h
      simp only [Function.comp, prepend, Prod.mk.injEq] at hsplit
      obtain ⟨rfl, rfl⟩ := hsplit
      rw [List.cons_append, List.cons_append, closeString?, ih hinner]
      rfl
  | case4 tail hlone hescape =>
      have hplain := ne_backslash_of_cases hlone hescape
      simp only [Option.some.injEq, Prod.mk.injEq] at h
      rw [← h.1, List.singleton_append]
      simp [closeString?, hplain]
  | case5 c tail hlone hescape hmark ih =>
      have hplain := ne_backslash_of_cases hlone hescape
      obtain ⟨⟨inner, after⟩, hinner, hsplit⟩ := Option.map_eq_some_iff.1 h
      simp only [prepend, Prod.mk.injEq] at hsplit
      obtain ⟨rfl, rfl⟩ := hsplit
      have hrest := ih hinner
      simp [closeString?, hplain, hmark, hrest, prepend]

/-- An identifier is closed as soon as any backtick follows: the last one will
do if no other does. -/
theorem closeIdentifier?_eq_none_iff {text : List Char} :
    closeIdentifier? text = none ↔ identifierMark ∉ text := by
  fun_induction closeIdentifier? text with
  | case1 => simp
  | case2 tail split hsplit ih => simp [identifierMark]
  | case3 tail hsplit ih => simp [identifierMark]
  | case4 tail => simp [identifierMark]
  | case5 c tail hdouble hmark ih =>
      have hc : identifierMark ≠ c := by
        rintro rfl
        exact hmark rfl
      rw [Option.map_eq_none_iff, ih, List.mem_cons, not_or]
      exact ⟨fun htail => ⟨hc, htail⟩, And.right⟩

theorem closeIdentifier?_of_append {text body front back : List Char}
    (h : closeIdentifier? text = some (body, front ++ back)) :
    closeIdentifier? (body ++ front) = some (body, front) := by
  fun_induction closeIdentifier? text generalizing body with
  | case1 => simp at h
  | case2 tail split hsplit ih =>
      obtain ⟨inner, after⟩ := split
      simp only [prepend, Option.some.injEq, Prod.mk.injEq] at h
      obtain ⟨rfl, rfl⟩ := h
      rw [List.cons_append, List.cons_append, closeIdentifier?, ih hsplit]
      rfl
  | case3 tail hopen ih =>
      -- the first of two backticks closes, because none follows the second
      simp only [Option.some.injEq, Prod.mk.injEq] at h
      obtain ⟨rfl, hrest⟩ := h
      cases front with
      | nil => rfl
      | cons next more =>
          obtain ⟨rfl, rfl⟩ := List.cons.inj hrest
          have hmore : closeIdentifier? more = none :=
            closeIdentifier?_eq_none_iff.2 fun hmem =>
              closeIdentifier?_eq_none_iff.1 hopen (List.mem_append_left back hmem)
          simp [closeIdentifier?, hmore]
  | case4 tail hdouble =>
      -- a single backtick closes, and no cut makes a pair of it
      simp only [Option.some.injEq, Prod.mk.injEq] at h
      obtain ⟨rfl, rfl⟩ := h
      rw [List.singleton_append, closeIdentifier?]
      rintro more rfl
      exact hdouble (more ++ back) rfl
  | case5 c tail hdouble hmark ih =>
      obtain ⟨⟨inner, after⟩, hinner, hsplit⟩ := Option.map_eq_some_iff.1 h
      simp only [prepend, Prod.mk.injEq] at hsplit
      obtain ⟨rfl, rfl⟩ := hsplit
      rw [List.cons_append, closeIdentifier?, ih hinner]
      · rfl
      · exact fun more hc _ => hmark hc
      · exact fun hc => hmark hc

/-! ### Every kind of region -/

/-- A region ends where it did when the text after it ends earlier. -/
theorem close?_of_append {kind : RegionKind} {text body front back : List Char}
    (h : kind.close? text = some (body, front ++ back)) :
    kind.close? (body ++ front) = some (body, front) := by
  cases kind with
  | lineComment =>
      simp only [RegionKind.close?, Option.some.injEq, Prod.mk.injEq] at h ⊢
      obtain ⟨rfl, hrest⟩ := h
      have hbody : ∀ c ∈ text.takeWhile (!endsLine ·), (!endsLine c) = true :=
        fun c hc => List.mem_takeWhile_imp (p := (!endsLine ·)) hc
      rw [List.takeWhile_append_of_pos hbody, List.dropWhile_append_of_pos hbody]
      cases front with
      | nil => simp
      | cons c more =>
          have hend := List.head_dropWhile_not (!endsLine ·) (l := text) (by simp [hrest])
          simp only [hrest, List.cons_append, List.head_cons, Bool.not_eq_false'] at hend
          simp [hend]
  | blockComment => exact closeComment?_append h front
  | doubleQuoted => exact closeString?_append h front
  | singleQuoted => exact closeString?_append h front
  | identifier => exact closeIdentifier?_of_append h

/-- A region that is never closed is not closed in a shorter text either. -/
theorem close?_eq_none_of_append {kind : RegionKind} {front back : List Char}
    (h : kind.close? (front ++ back) = none) : kind.close? front = none := by
  rw [Option.eq_none_iff_forall_ne_some] at h ⊢
  rintro ⟨body, rest⟩ hclosed
  have hfront : body ++ rest = front := append_of_close? hclosed
  rw [← hfront, List.append_assoc] at h
  cases kind with
  | lineComment => exact h _ rfl
  | blockComment => exact h _ (closeComment?_append hclosed (rest ++ back))
  | doubleQuoted => exact h _ (closeString?_append hclosed (rest ++ back))
  | singleQuoted => exact h _ (closeString?_append hclosed (rest ++ back))
  | identifier =>
      have hopen := closeIdentifier?_eq_none_iff.1 (Option.eq_none_iff_forall_ne_some.2 h)
      rw [← List.append_assoc, hfront] at hopen
      have hmem : closeIdentifier? front = none :=
        closeIdentifier?_eq_none_iff.2 fun hmem => hopen (List.mem_append_left back hmem)
      exact absurd (hmem.symm.trans hclosed) (by simp)

/-! ## Regions and lexemes in front of a cut -/

/-- The mark that opens a region. -/
def RegionKind.opening : RegionKind → List Char
  | lineComment => ['-', '-']
  | blockComment => ['/', '*']
  | doubleQuoted => ['"']
  | singleQuoted => ['\'']
  | identifier => ['\x60']

theorem ofOpening?_eq_some_iff {text : List Char} {kind : RegionKind} :
    RegionKind.ofOpening? text = some kind ↔ kind.opening <+: text := by
  constructor
  · intro h
    unfold RegionKind.ofOpening? at h
    split at h <;> simp only [Option.some.injEq, reduceCtorEq] at h <;> subst h <;>
      simp [RegionKind.opening]
  · rintro ⟨rest, rfl⟩
    cases kind <;> simp [RegionKind.opening, RegionKind.ofOpening?]

/-- The characters that a region may begin with. -/
def openingMarks : List Char := ['-', '/', '"', '\'', '\x60']

theorem ofOpening?_eq_none {c : Char} (h : c ∉ openingMarks) (rest : List Char) :
    RegionKind.ofOpening? (c :: rest) = none := by
  rw [Option.eq_none_iff_forall_ne_some]
  intro kind hopening
  obtain ⟨after, hafter⟩ := ofOpening?_eq_some_iff.1 hopening
  cases kind <;> obtain ⟨rfl, -⟩ := List.cons.inj hafter <;> simp [openingMarks] at h

theorem take_openingLength (kind : RegionKind) (after : List Char) :
    (kind.opening ++ after).take kind.openingLength = kind.opening := by
  cases kind <;> rfl

theorem drop_openingLength (kind : RegionKind) (after : List Char) :
    (kind.opening ++ after).drop kind.openingLength = after := by
  cases kind <;> rfl

theorem regionAt?_eq_some_iff {text rest : List Char} {region : Region} :
    regionAt? text = some (region, rest) ↔
      ∃ body after, text = region.kind.opening ++ after ∧
        region.kind.close? after = some (body, rest) ∧
        region.text = region.kind.opening ++ body := by
  simp only [regionAt?, Option.bind_eq_bind, Option.pure_def, Option.bind_eq_some_iff,
    ofOpening?_eq_some_iff]
  constructor
  · rintro ⟨kind, ⟨after, rfl⟩, ⟨body, rest'⟩, hclosed, hregion⟩
    rw [drop_openingLength] at hclosed
    rw [take_openingLength, Option.some.injEq, Prod.mk.injEq] at hregion
    obtain ⟨rfl, rfl⟩ := hregion
    exact ⟨body, after, rfl, hclosed, rfl⟩
  · rintro ⟨body, after, rfl, hclosed, htext⟩
    refine ⟨region.kind, ⟨after, rfl⟩, (body, rest), ?_, ?_⟩
    · rw [drop_openingLength, hclosed]
    · rw [take_openingLength, ← htext]

/-- Where an opening mark opens no region, nothing closes it. -/
theorem close?_eq_none_of_regionAt? {kind : RegionKind} {after : List Char}
    (h : regionAt? (kind.opening ++ after) = none) : kind.close? after = none := by
  rw [Option.eq_none_iff_forall_ne_some] at h ⊢
  rintro ⟨body, rest⟩ hclosed
  exact h ⟨⟨kind, kind.opening ++ body⟩, rest⟩
    (regionAt?_eq_some_iff.2 ⟨body, after, rfl, hclosed, rfl⟩)

/-- A region at the start of a text is there when the text ends earlier. -/
theorem regionAt?_of_append {text front back : List Char} {region : Region}
    (h : regionAt? text = some (region, front ++ back)) :
    regionAt? (region.text ++ front) = some (region, front) := by
  obtain ⟨body, after, rfl, hclosed, htext⟩ := regionAt?_eq_some_iff.1 h
  refine regionAt?_eq_some_iff.2 ⟨body, body ++ front, ?_, close?_of_append hclosed, htext⟩
  rw [htext, List.append_assoc]

/-- An opening mark that opens no region opens none when the text ends earlier. -/
theorem regionAt?_eq_none_of_append {front back : List Char}
    (h : regionAt? (front ++ back) = none) : regionAt? front = none := by
  rw [Option.eq_none_iff_forall_ne_some] at h ⊢
  rintro ⟨region, rest⟩ hregion
  obtain ⟨body, after, rfl, hclosed, -⟩ := regionAt?_eq_some_iff.1 hregion
  cases hlonger : region.kind.close? (after ++ back) with
  | none => simp [close?_eq_none_of_append hlonger] at hclosed
  | some split =>
      refine h ⟨⟨region.kind, region.kind.opening ++ split.1⟩, split.2⟩ ?_
      exact regionAt?_eq_some_iff.2 ⟨split.1, after ++ back, List.append_assoc .., hlonger, rfl⟩

theorem nextLexeme?_of_regionAt? {text rest : List Char} {region : Region}
    (h : regionAt? text = some (region, rest)) :
    nextLexeme? text = some (.region region, rest) := by
  cases text with
  | nil => simp [regionAt?, RegionKind.ofOpening?] at h
  | cons c tail => simp [nextLexeme?, h]

theorem nextLexeme?_of_regionAt?_eq_none {c : Char} {tail : List Char}
    (h : regionAt? (c :: tail) = none) : nextLexeme? (c :: tail) = some (.char c, tail) := by
  simp [nextLexeme?, h]

/-- A character that opens no region is a lexeme of its own. -/
theorem nextLexeme?_of_not_mem {c : Char} (h : c ∉ openingMarks) (rest : List Char) :
    nextLexeme? (c :: rest) = some (.char c, rest) := by
  refine nextLexeme?_of_regionAt?_eq_none ?_
  rw [regionAt?, ofOpening?_eq_none h]
  rfl

theorem regionAt?_of_nextLexeme? {text rest : List Char} {region : Region}
    (h : nextLexeme? text = some (.region region, rest)) : regionAt? text = some (region, rest) := by
  cases text with
  | nil => simp [nextLexeme?] at h
  | cons c tail =>
      cases hregion : regionAt? (c :: tail) with
      | none => simp [nextLexeme?_of_regionAt?_eq_none hregion] at h
      | some found =>
          rw [nextLexeme?_of_regionAt? hregion] at h
          obtain ⟨hfound, hrest⟩ := Prod.mk.inj (Option.some.inj h)
          rw [← Lexeme.region.inj hfound, ← hrest]

theorem regionAt?_eq_none_of_nextLexeme? {c : Char} {tail rest : List Char}
    (h : nextLexeme? (c :: tail) = some (.char c, rest)) : regionAt? (c :: tail) = none := by
  cases hregion : regionAt? (c :: tail) with
  | none => rfl
  | some found => simp [nextLexeme?_of_regionAt? hregion] at h

/-- The first lexeme of a text is still its first lexeme when the text ends
earlier, as long as it does not end inside that lexeme. -/
theorem nextLexeme?_of_append {text front back : List Char} {lexeme : Lexeme}
    (h : nextLexeme? text = some (lexeme, front ++ back)) :
    nextLexeme? (lexeme.text ++ front) = some (lexeme, front) := by
  cases text with
  | nil => simp [nextLexeme?] at h
  | cons c tail =>
      cases hregion : regionAt? (c :: tail) with
      | some found =>
          rw [nextLexeme?_of_regionAt? hregion] at h
          obtain ⟨rfl, hrest⟩ := Prod.mk.inj (Option.some.inj h)
          rw [show found = (found.1, front ++ back) by rw [← hrest]] at hregion
          exact nextLexeme?_of_regionAt? (regionAt?_of_append hregion)
      | none =>
          rw [nextLexeme?_of_regionAt?_eq_none hregion] at h
          obtain ⟨rfl, rfl⟩ := Prod.mk.inj (Option.some.inj h)
          exact nextLexeme?_of_regionAt?_eq_none (regionAt?_eq_none_of_append hregion)

/-! ## Sequences of lexemes -/

@[simp] theorem lexemes_nil : lexemes [] = [] := by
  rw [lexemes]
  rfl

theorem lexemes_of_nextLexeme? {text rest : List Char} {lexeme : Lexeme}
    (h : nextLexeme? text = some (lexeme, rest)) :
    lexemes text = lexeme :: lexemes rest := by
  rw [lexemes]
  split
  · next hnone => simp [hnone] at h
  · next found after hfound =>
      obtain ⟨rfl, rfl⟩ := Prod.mk.inj (Option.some.inj (hfound.symm.trans h))
      rfl

theorem lexemes_of_not_mem {c : Char} (h : c ∉ openingMarks) (rest : List Char) :
    lexemes (c :: rest) = .char c :: lexemes rest :=
  lexemes_of_nextLexeme? (nextLexeme?_of_not_mem h rest)

/-- Structural characters are counted among the lexemes. -/
theorem countP_structuralFrom (offset : Nat) (parts : List Lexeme) (c : Char) :
    (structuralFrom offset parts).countP (·.2 == c) = parts.count (.char c) := by
  induction parts generalizing offset with
  | nil => rfl
  | cons lexeme rest ih =>
      cases lexeme with
      | region region =>
          rw [structuralFrom, ih, List.count_cons_of_ne (by simp)]
      | char other =>
          rw [structuralFrom, List.countP_cons, ih, List.count_cons]
          simp

/-- Lexemes that are read again from their own text. -/
def Lexed (parts : List Lexeme) : Prop :=
  lexemes (parts.flatMap Lexeme.text) = parts

theorem lexed_lexemes (text : List Char) : Lexed (lexemes text) := by
  rw [Lexed, flatMap_text_lexemes]

namespace Lexed

theorem nil : Lexed [] := lexemes_nil

theorem cons_iff {lexeme : Lexeme} {parts : List Lexeme} :
    Lexed (lexeme :: parts) ↔
      nextLexeme? (lexeme.text ++ parts.flatMap Lexeme.text) =
        some (lexeme, parts.flatMap Lexeme.text) ∧ Lexed parts := by
  constructor
  · intro h
    rw [Lexed, List.flatMap_cons] at h
    cases hnext : nextLexeme? (lexeme.text ++ parts.flatMap Lexeme.text) with
    | none =>
        rw [lexemes] at h
        split at h <;> simp_all
    | some found =>
        obtain ⟨first, rest⟩ := found
        rw [lexemes_of_nextLexeme? hnext] at h
        obtain ⟨rfl, hparts⟩ := List.cons.inj h
        have hrest : rest = parts.flatMap Lexeme.text := by
          rw [← hparts, flatMap_text_lexemes]
        rw [hrest] at hparts
        exact ⟨by rw [hrest], hparts⟩
  · rintro ⟨hnext, hparts⟩
    rw [Lexed, List.flatMap_cons, lexemes_of_nextLexeme? hnext, hparts]

theorem tail {lexeme : Lexeme} {parts : List Lexeme} (h : Lexed (lexeme :: parts)) :
    Lexed parts :=
  (cons_iff.1 h).2

theorem regionAt?_eq_none {c : Char} {parts : List Lexeme} (h : Lexed (.char c :: parts)) :
    regionAt? (c :: parts.flatMap Lexeme.text) = none :=
  regionAt?_eq_none_of_nextLexeme? (cons_iff.1 h).1

/-- A region begins with an opening mark. -/
theorem exists_mark {region : Region} {parts : List Lexeme}
    (h : Lexed (.region region :: parts)) :
    ∃ c rest, region.text = c :: rest ∧ c ∈ openingMarks := by
  obtain ⟨body, _, _, _, htext⟩ :=
    regionAt?_eq_some_iff.1 (regionAt?_of_nextLexeme? (cons_iff.1 h).1)
  rw [htext]
  cases region.kind <;> simp [RegionKind.opening, openingMarks]

theorem of_suffix {front back : List Lexeme} (h : Lexed (front ++ back)) : Lexed back := by
  induction front with
  | nil => exact h
  | cons lexeme front ih => exact ih h.tail

theorem of_append {front back : List Lexeme} (h : Lexed (front ++ back)) : Lexed front := by
  induction front with
  | nil => exact nil
  | cons lexeme front ih =>
      rw [List.cons_append, cons_iff, List.flatMap_append] at h
      exact cons_iff.2 ⟨nextLexeme?_of_append h.1, ih h.2⟩

/-- **Cuts between lexemes change nothing.**  Lexemes that stand side by side in
a text are the lexemes of their own text. -/
theorem of_isInfix {middle parts : List Lexeme} (h : Lexed parts) (hmiddle : middle <:+: parts) :
    Lexed middle := by
  obtain ⟨front, back, rfl⟩ := hmiddle
  exact h.of_append.of_suffix

end Lexed

end SqlTemplate
