import SqlTemplate.Proofs.Template.Passive

/-!
# Characters that separate

Where a text goes on, its end may be read differently: a quote opened there is closed
later on, a backtick becomes one half of a doubled one, and a minus becomes one half of
the mark of a comment.  Nothing of the kind happens if all regions of the text are closed
and the text goes on with a character that belongs to no mark.  Then both sides of that
character are read as if they were alone (`lexemes_append_cons`).

A line comment is closed by the end of its line only, so what separates behind a line
comment is the end of a line (`separates_newline`).  Behind a passive text, which holds no
comment, every character separates that belongs to no mark (`Passive.separates`).
-/

namespace SqlTemplate

/-! ## Regions in front of a longer text -/

/-- A line comment ends where it did when the text goes on with the end of a line. -/
theorem close?_lineComment_append {c : Char} (hend : endsLine c) (text back : List Char) :
    RegionKind.lineComment.close? (text ++ c :: back) =
      (RegionKind.lineComment.close? text).map fun split => (split.1, split.2 ++ c :: back) := by
  simp only [RegionKind.close?, Option.map_some, Option.some.injEq, Prod.mk.injEq]
  induction text with
  | nil => simp [hend]
  | cons first rest ih => by_cases hfirst : endsLine first <;> simp [hfirst, ih]

/-- An identifier is still closed where it was when the text goes on, unless a backtick
meets its last one. -/
theorem closeIdentifier?_append {text body rest other : List Char}
    (h : closeIdentifier? text = some (body, rest)) (hrest : rest.head? ≠ some identifierMark)
    (hother : other.head? ≠ some identifierMark) :
    closeIdentifier? (text ++ other) = some (body, rest ++ other) := by
  fun_induction closeIdentifier? text generalizing body rest with
  | case1 => cases h
  | case2 tail split hsplit ih =>
      cases h
      rw [List.cons_append, List.cons_append, closeIdentifier?, ih hsplit hrest]
      rfl
  | case3 tail hopen ih =>
      -- a doubled backtick was given up, so one half of it is still there
      cases h
      exact absurd rfl hrest
  | case4 tail hdouble =>
      cases h
      rw [List.cons_append, closeIdentifier?]
      intro more hmore
      cases tail with
      | nil => exact hother (by rw [List.nil_append] at hmore; rw [hmore]; rfl)
      | cons c tail => exact hdouble tail (by rw [(List.cons.inj hmore).1])
  | case5 c tail hdouble hmark ih =>
      obtain ⟨⟨inner, after⟩, hinner, hsplit⟩ := Option.map_eq_some_iff.1 h
      cases hsplit
      rw [List.cons_append, closeIdentifier?, ih hinner hrest]
      · rfl
      · exact fun _ hc _ => hmark hc
      · exact hmark

/-- A backtick that is left over behind an identifier is the last one of the text. -/
theorem not_mem_of_closeIdentifier? {text body rest tail : List Char}
    (h : closeIdentifier? text = some (body, rest)) (hrest : rest = identifierMark :: tail) :
    identifierMark ∉ tail := by
  fun_induction closeIdentifier? text generalizing body rest with
  | case1 => cases h
  | case2 inner split hsplit ih =>
      cases h
      exact ih hsplit hrest
  | case3 inner hopen ih =>
      cases h
      rw [← (List.cons.inj hrest).2]
      exact closeIdentifier?_eq_none_iff.1 hopen
  | case4 inner hdouble =>
      cases h
      exact absurd hrest (hdouble tail)
  | case5 c inner hdouble hmark ih =>
      obtain ⟨⟨more, after⟩, hmore, hsplit⟩ := Option.map_eq_some_iff.1 h
      cases hsplit
      exact ih hmore hrest

/-- Where all regions are closed, no backtick stands right behind an identifier. -/
theorem head?_ne_identifierMark {text body : List Char} {parts : List Lexeme}
    (h : closeIdentifier? text = some (body, parts.flatMap Lexeme.text)) (hlexed : Lexed parts)
    (hsettled : settled parts) : (parts.flatMap Lexeme.text).head? ≠ some identifierMark := by
  intro hhead
  obtain ⟨tail, htail⟩ := List.head?_eq_some_iff.1 hhead
  have hopen : closeIdentifier? tail = none :=
    closeIdentifier?_eq_none_iff.2 (not_mem_of_closeIdentifier? h htail)
  have hnone : passFrom? .outside (identifierMark :: tail) = none :=
    (passFrom?_opening .identifier tail).trans (by rw [RegionKind.close?, hopen]; rfl)
  have hpass := passFrom?_flatMap hlexed
  rw [if_pos hsettled, htail, hnone] at hpass
  cases hpass

/-! ## Lexemes in front of a longer text -/

/-- A character behind which a text with the given lexemes is read as if it ended there. -/
structure Separates (c : Char) (parts : List Lexeme) : Prop where
  settled : settled parts
  opensNothing : c ∉ openingMarks
  /-- The character is no second half of an opening mark either. -/
  closesNothing : c ≠ '*'
  /-- Only the end of a line separates behind a line comment. -/
  line : endsLine c ∨ ∀ lexeme ∈ parts, lexeme.isComment = false

namespace Separates

variable {c : Char} {lexeme : Lexeme} {parts : List Lexeme}

theorem tail (h : Separates c (lexeme :: parts)) : Separates c parts where
  settled := by
    cases lexeme with
    | region region => exact h.settled
    | char first => exact settled_of_cons h.settled
  opensNothing := h.opensNothing
  closesNothing := h.closesNothing
  line := h.line.imp_right fun hparts other hmem => hparts other (List.mem_cons_of_mem _ hmem)

/-- A region at the front is closed where it was. -/
theorem close? {region : Region} {text body : List Char}
    (h : Separates c (.region region :: parts)) (hlexed : Lexed parts)
    (hclosed : region.kind.close? text = some (body, parts.flatMap Lexeme.text))
    (back : List Char) :
    region.kind.close? (text ++ c :: back) = some (body, parts.flatMap Lexeme.text ++ c :: back) := by
  obtain ⟨kind, written⟩ := region
  have htext : body ++ parts.flatMap Lexeme.text = text := append_of_close? hclosed
  cases kind with
  | lineComment =>
      have hend : endsLine c := by
        rcases h.line with hend | hnone
        · exact hend
        · cases hnone _ (List.mem_cons_self ..)
      rw [close?_lineComment_append hend, hclosed]
      rfl
  | blockComment =>
      have hlonger := closeComment?_append hclosed (parts.flatMap Lexeme.text ++ c :: back)
      rwa [← List.append_assoc, htext] at hlonger
  | doubleQuoted | singleQuoted =>
      have hlonger := closeString?_append hclosed (parts.flatMap Lexeme.text ++ c :: back)
      rwa [← List.append_assoc, htext] at hlonger
  | identifier =>
      refine closeIdentifier?_append hclosed (head?_ne_identifierMark hclosed hlexed h.settled) ?_
      intro hhead
      obtain rfl := Option.some.inj hhead
      exact h.opensNothing (by decide)

/-- The first lexeme is still the first one. -/
theorem nextLexeme? (h : Separates c (lexeme :: parts)) (hlexed : Lexed (lexeme :: parts))
    (back : List Char) :
    nextLexeme? (lexeme.text ++ (parts.flatMap Lexeme.text ++ c :: back)) =
      some (lexeme, parts.flatMap Lexeme.text ++ c :: back) := by
  cases lexeme with
  | region region =>
      obtain ⟨body, after, htext, hclosed, hregion⟩ :=
        regionAt?_eq_some_iff.1 (regionAt?_of_nextLexeme? (Lexed.cons_iff.1 hlexed).1)
      refine nextLexeme?_of_regionAt? (regionAt?_eq_some_iff.2
        ⟨body, after ++ c :: back, ?_, h.close? hlexed.tail hclosed back, hregion⟩)
      rw [← List.append_assoc, htext, List.append_assoc]
  | char first =>
      have hsettled := h.settled
      rw [SqlTemplate.settled, Bool.and_eq_true, Option.isNone_iff_eq_none] at hsettled
      have hdash : c ≠ '-' := by
        rintro rfl
        exact h.opensNothing (by decide)
      have hnone : regionAt? (first :: (parts.flatMap Lexeme.text ++ c :: back)) = none := by
        rw [regionAt?, ofOpening?_append _ _ hdash h.closesNothing, hsettled.1]
        rfl
      exact nextLexeme?_of_regionAt?_eq_none hnone

/-- Both sides of a separator are read as if they were alone. -/
theorem lexed (h : Separates c parts) (hparts : Lexed parts) {others : List Lexeme}
    (hothers : Lexed others) : Lexed (parts ++ .char c :: others) := by
  induction parts with
  | nil => exact Lexed.cons_iff.2 ⟨nextLexeme?_of_not_mem h.opensNothing _, hothers⟩
  | cons lexeme parts ih =>
      rw [List.cons_append]
      refine Lexed.cons_iff.2 ⟨?_, ih h.tail hparts.tail⟩
      rw [List.flatMap_append, List.flatMap_cons]
      exact h.nextLexeme? hparts _

end Separates

/-- **A separator parts a text**: both sides of it are read as if they were alone. -/
theorem lexemes_append_cons {c : Char} {front : List Char} (h : Separates c (lexemes front))
    (back : List Char) :
    lexemes (front ++ c :: back) = lexemes front ++ .char c :: lexemes back := by
  have hlexed := h.lexed (lexed_lexemes front) (lexed_lexemes back)
  rwa [Lexed, List.flatMap_append, List.flatMap_cons, flatMap_text_lexemes, flatMap_text_lexemes]
    at hlexed

/-- The end of a line separates wherever all regions are closed. -/
theorem separates_newline {parts : List Lexeme} (h : settled parts) : Separates '\n' parts where
  settled := h
  opensNothing := by decide
  closesNothing := by decide
  line := Or.inl rfl

/-- **The end of a line separates.**  If all regions of a text are closed at its end, the
pass goes through it in the same way when a line ends behind it. -/
theorem pass?_append_newline {front : List Char} {parts : List Lexeme}
    (h : pass? front = some parts) (back : List Char) :
    pass? (front ++ '\n' :: back) = (pass? back).map (parts ++ .char '\n' :: ·) := by
  rw [pass?_eq, Option.ite_none_right_eq_some] at h
  obtain ⟨hsettled, hparts⟩ := h
  obtain rfl := Option.some.inj hparts
  rw [pass?_eq, pass?_eq, lexemes_append_cons (separates_newline hsettled),
    settled_append _ _ (by decide) (by decide), settled_cons _ (by decide), hsettled,
    Bool.true_and]
  split <;> rfl

/-- Behind a passive text every character separates that belongs to no mark. -/
theorem Passive.separates {text : List Char} (h : Passive text) {c : Char}
    (hc : c ∉ openingMarks) (hstar : c ≠ '*') : Separates c (SqlTemplate.lexemes text) where
  settled := h.lexemes.1
  opensNothing := hc
  closesNothing := hstar
  line := by
    refine Or.inr fun lexeme hmem => ?_
    have hactive := h.lexemes.2 lexeme hmem
    cases lexeme with
    | region region => exact hactive
    | char c => rfl

theorem lexemes_append_of_not_mem {front : List Char} (h : ∀ c ∈ front, c ∉ openingMarks)
    (back : List Char) : lexemes (front ++ back) = front.map .char ++ lexemes back := by
  induction front with
  | nil => rfl
  | cons c rest ih =>
      have hrest := ih fun other hmem => h other (List.mem_cons_of_mem _ hmem)
      rw [List.cons_append, lexemes_of_not_mem (h c (List.mem_cons_self ..)), hrest]
      rfl

/-- Behind a passive text, the characters of a mark that opens nothing are told one by one. -/
theorem Passive.lexemes_append {front : List Char} (h : Passive front) {mark : List Char}
    (hne : mark ≠ []) (hmark : ∀ c ∈ mark, c ∉ openingMarks ∧ c ≠ '*') (back : List Char) :
    SqlTemplate.lexemes (front ++ mark ++ back) =
      SqlTemplate.lexemes front ++ mark.map .char ++ SqlTemplate.lexemes back := by
  obtain ⟨c, more, rfl⟩ := List.exists_cons_of_ne_nil hne
  obtain ⟨hc, hstar⟩ := hmark c (List.mem_cons_self ..)
  have hmore : ∀ other ∈ more, other ∉ openingMarks :=
    fun other hmem => (hmark other (List.mem_cons_of_mem _ hmem)).1
  rw [List.append_assoc, List.cons_append, lexemes_append_cons (h.separates hc hstar),
    lexemes_append_of_not_mem hmore, List.append_assoc]
  rfl

end SqlTemplate
