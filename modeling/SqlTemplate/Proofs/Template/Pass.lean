import SqlTemplate.Proofs.Template.Balance

/-!
# A single pass over a template

`pass?` reads a text once, from left to right, one character after the other,
and never goes back: inside a literal region it only waits for the mark that ends
the region.  A text is well formed if every region that is opened is closed and
the braces outside of all regions are balanced.

## Strategy

`lexemes` is less strict: an opening mark that is closed nowhere becomes a
character like any other, and an identifier that is not closed gives up its last
doubled backtick.  `settled` says that no opening mark is left among the
characters.  Where it holds the pass gives just the lexemes, and where it fails
the pass gives nothing (`passFrom?_flatMap`).  The second backtick of a pair that was given
up is itself an opening mark that nothing closes, so the two ways to read an
identifier differ only on texts that both of them find fault with
(`passFrom?_identifier`).
-/

namespace SqlTemplate

/-- Where the pass is: outside of all regions, or inside a region of which it has
seen the given characters, the latest one first. -/
inductive Place where
  | outside
  | lineComment (seen : List Char)
  | blockComment (seen : List Char)
  /-- A string of the given kind, which the given mark ends. -/
  | string (kind : RegionKind) (mark : Char) (seen : List Char)
  | identifier (seen : List Char)

/-- The pass from a place on.  It gives the lexemes of the text, or nothing if a
region is not closed. -/
def passFrom? : Place → List Char → Option (List Lexeme)
  | .outside, [] => some []
  | .outside, '-' :: '-' :: rest => passFrom? (.lineComment ['-', '-']) rest
  | .outside, '/' :: '*' :: rest => passFrom? (.blockComment ['*', '/']) rest
  | .outside, '"' :: rest => passFrom? (.string .doubleQuoted '"' ['"']) rest
  | .outside, '\'' :: rest => passFrom? (.string .singleQuoted '\'' ['\'']) rest
  | .outside, '\x60' :: rest => passFrom? (.identifier ['\x60']) rest
  | .outside, c :: rest => (passFrom? .outside rest).map (.char c :: ·)
  | .lineComment seen, [] => some [.region ⟨.lineComment, seen.reverse⟩]
  | .lineComment seen, c :: rest =>
      if endsLine c then
        (passFrom? .outside rest).map (.region ⟨.lineComment, seen.reverse⟩ :: .char c :: ·)
      else passFrom? (.lineComment (c :: seen)) rest
  | .blockComment _, [] => none
  | .blockComment seen, '*' :: '/' :: rest =>
      (passFrom? .outside rest).map (.region ⟨.blockComment, ('/' :: '*' :: seen).reverse⟩ :: ·)
  | .blockComment seen, c :: rest => passFrom? (.blockComment (c :: seen)) rest
  | .string _ _ _, [] => none
  | .string _ _ _, ['\\'] => none
  | .string kind mark seen, '\\' :: c :: rest =>
      passFrom? (.string kind mark (c :: '\\' :: seen)) rest
  | .string kind mark seen, c :: rest =>
      if c = mark then (passFrom? .outside rest).map (.region ⟨kind, (c :: seen).reverse⟩ :: ·)
      else passFrom? (.string kind mark (c :: seen)) rest
  | .identifier _, [] => none
  | .identifier seen, '\x60' :: '\x60' :: rest =>
      passFrom? (.identifier ('\x60' :: '\x60' :: seen)) rest
  | .identifier seen, '\x60' :: rest =>
      (passFrom? .outside rest).map (.region ⟨.identifier, ('\x60' :: seen).reverse⟩ :: ·)
  | .identifier seen, c :: rest => passFrom? (.identifier (c :: seen)) rest

/-- The lexemes of a text, if all of its regions are closed. -/
def pass? (text : List Char) : Option (List Lexeme) :=
  passFrom? .outside text

/-- Whether all regions of a text are closed and the braces outside of them are
balanced. -/
def wellFormed (text : List Char) : Bool :=
  (pass? text).any (balanced 0)

/-! ## Inside a region

Each place inside a region goes on exactly to the end that the region has. -/

theorem passFrom?_outside_cons {c : Char} {rest : List Char}
    (h : RegionKind.ofOpening? (c :: rest) = none) :
    passFrom? .outside (c :: rest) = (passFrom? .outside rest).map (.char c :: ·) := by
  unfold RegionKind.ofOpening? at h
  split at h
  case h_6 hline hblock hdouble hsingle hmark =>
    rw [passFrom?]
    · exact fun more hc hrest => hline more (by rw [hc, hrest])
    · exact fun more hc hrest => hblock more (by rw [hc, hrest])
    · exact fun hc => hdouble rest (by rw [hc])
    · exact fun hc => hsingle rest (by rw [hc])
    · exact fun hc => hmark rest (by rw [hc])
  all_goals simp at h

theorem passFrom?_lineComment (seen text : List Char) :
    passFrom? (.lineComment seen) text =
      (passFrom? .outside (text.dropWhile (!endsLine ·))).map
        (.region ⟨.lineComment, seen.reverse ++ text.takeWhile (!endsLine ·)⟩ :: ·) := by
  induction text generalizing seen with
  | nil => simp [passFrom?]
  | cons c rest ih =>
      by_cases hend : endsLine c
      · have hplain : RegionKind.ofOpening? (c :: rest) = none := by
          simp only [endsLine, Bool.or_eq_true, beq_iff_eq] at hend
          rcases hend with rfl | rfl <;> exact ofOpening?_eq_none (by simp [openingMarks]) rest
        simp [passFrom?, hend, passFrom?_outside_cons hplain, Function.comp_def]
      · rw [passFrom?, if_neg hend, ih]
        simp [hend]

theorem passFrom?_blockComment (seen text : List Char) :
    passFrom? (.blockComment seen) text =
      (closeComment? text).bind fun split =>
        (passFrom? .outside split.2).map
          (.region ⟨.blockComment, seen.reverse ++ split.1⟩ :: ·) := by
  fun_induction closeComment? text generalizing seen with
  | case1 => simp [passFrom?]
  | case2 rest => simp [passFrom?]
  | case3 c rest hopen ih =>
      rw [passFrom?, ih]
      · simp [prepend, Option.bind_map, Function.comp_def]
      · exact hopen

theorem passFrom?_string (kind : RegionKind) (mark : Char) (seen text : List Char) :
    passFrom? (.string kind mark seen) text =
      (closeString? mark text).bind fun split =>
        (passFrom? .outside split.2).map (.region ⟨kind, seen.reverse ++ split.1⟩ :: ·) := by
  fun_induction closeString? mark text generalizing seen with
  | case1 => simp [passFrom?]
  | case2 => simp [passFrom?]
  | case3 c rest ih => simp [passFrom?, ih, prepend, Option.bind_map, Function.comp_def]
  | case4 rest hlone hescape =>
      rw [passFrom?, if_pos rfl]
      · simp
      · exact hlone
      · exact hescape
  | case5 c rest hlone hescape hmark ih =>
      rw [passFrom?, if_neg hmark, ih]
      · simp [prepend, Option.bind_map, Function.comp_def]
      · exact hlone
      · exact hescape

theorem passFrom?_identifier (seen text : List Char) :
    passFrom? (.identifier seen) text =
      (closeIdentifier? text).bind fun split =>
        (passFrom? .outside split.2).map
          (.region ⟨.identifier, seen.reverse ++ split.1⟩ :: ·) := by
  fun_induction closeIdentifier? text generalizing seen with
  | case1 => simp [passFrom?]
  | case2 rest split hsplit ih => simp [passFrom?, ih, hsplit, prepend]
  | case3 rest hopen ih =>
      -- the pass is still inside, and what was given up opens a region of its own
      simp [passFrom?, ih, hopen]
  | case4 rest hdouble =>
      rw [passFrom?]
      · simp
      · exact hdouble
  | case5 c rest hdouble hmark ih =>
      rw [passFrom?, ih]
      · simp [prepend, Option.bind_map, Function.comp_def]
      · exact hdouble
      · exact hmark

/-- From an opening mark the pass goes on to the end of the region. -/
theorem passFrom?_opening (kind : RegionKind) (after : List Char) :
    passFrom? .outside (kind.opening ++ after) =
      (kind.close? after).bind fun split =>
        (passFrom? .outside split.2).map (.region ⟨kind, kind.opening ++ split.1⟩ :: ·) := by
  cases kind with
  | lineComment => exact passFrom?_lineComment _ after
  | blockComment => exact passFrom?_blockComment _ after
  | doubleQuoted => exact passFrom?_string _ _ _ after
  | singleQuoted => exact passFrom?_string _ _ _ after
  | identifier => exact passFrom?_identifier _ after

/-! ## The pass and the lexemes -/

/-- Whether no opening mark is left among the characters outside of all regions. -/
def settled : List Lexeme → Bool
  | [] => true
  | .region _ :: rest => settled rest
  | .char c :: rest =>
      (RegionKind.ofOpening? (c :: rest.flatMap Lexeme.text)).isNone && settled rest

/-- Where no opening mark is left over, the pass and `lexemes` agree; where one is
left over, the pass fails. -/
theorem passFrom?_flatMap {parts : List Lexeme} (h : Lexed parts) :
    passFrom? .outside (parts.flatMap Lexeme.text) = if settled parts then some parts else none := by
  induction parts with
  | nil => rfl
  | cons lexeme rest ih =>
      have hrest := ih h.tail
      cases lexeme with
      | region region =>
          obtain ⟨body, after, htext, hclosed, hregion⟩ :=
            regionAt?_eq_some_iff.1 (regionAt?_of_nextLexeme? (Lexed.cons_iff.1 h).1)
          rw [List.flatMap_cons, htext, passFrom?_opening, hclosed, Option.bind_some, hrest,
            ← hregion, settled]
          split <;> rfl
      | char c =>
          rw [List.flatMap_cons, Lexeme.text, List.singleton_append, settled]
          cases hopening : RegionKind.ofOpening? (c :: rest.flatMap Lexeme.text) with
          | none =>
              rw [passFrom?_outside_cons hopening, hrest, Option.isNone_none, Bool.true_and]
              split <;> rfl
          | some kind =>
              obtain ⟨after, hafter⟩ := ofOpening?_eq_some_iff.1 hopening
              have hregion : regionAt? (kind.opening ++ after) = none := by
                rw [hafter]
                exact h.regionAt?_eq_none
              rw [← hafter, passFrom?_opening, close?_eq_none_of_regionAt? hregion]
              rfl

theorem pass?_eq (text : List Char) :
    pass? text = if settled (lexemes text) then some (lexemes text) else none := by
  have hpass := passFrom?_flatMap (lexed_lexemes text)
  rwa [flatMap_text_lexemes] at hpass

/-- **What the pass accepts.**  A text is well formed exactly if no opening mark
is left among its lexemes and their braces are balanced. -/
theorem wellFormed_eq (text : List Char) :
    wellFormed text = (settled (lexemes text) && balanced 0 (lexemes text)) := by
  rw [wellFormed, pass?_eq]
  cases settled (lexemes text) <;> simp

theorem pass?_of_wellFormed {text : List Char} (h : wellFormed text) :
    pass? text = some (lexemes text) := by
  rw [wellFormed_eq, Bool.and_eq_true] at h
  rw [pass?_eq, if_pos h.1]

end SqlTemplate
