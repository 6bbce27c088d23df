import Mathlib.Data.List.Infix
import SqlTemplate.Proofs.Template.Places

/-!
# What a cut of a text sees

The content of a block is cut out of its text, and the alternatives are cut out of the
content.  Every part is read again from its own first character, and what a region is
depends on what follows.  Nevertheless the part and the whole see the same
(`cuts_readAlike`).

* The content of a block has the structural characters and the regions that stand in the
  text between the braces of the block.
* The alternatives together have those of the content, the bars between them aside.
* A region is closed at the same place in the part and in the whole, and what is opened and
  never closed in the part is never closed in the whole.

## Strategy

Regions and structural characters are the two kinds of lexemes, so all of this is about
lexemes together with their places (`placed`).  The lexemes of a part stand side by side in
the whole (`Lexed.of_isInfix`), and only the places have to be counted.  A cut in a part is a
cut in the whole (`Embedded.trans`), also across the mark of a gate, where a blank is put in
front of the alternatives.
-/

namespace SqlTemplate

/-! ## Parts that are read as in the whole -/

/-- How a part is read by itself, compared with the whole in which it starts at a place. -/
structure ReadAlike (whole : List Char) (start : Nat) (part : List Char) : Prop where
  /-- A region of the part lies inside of it, and ends where it does in the whole. -/
  closed : ∀ place region, (place, region) ∈ literalRegions part 0 →
    place + region.text.length ≤ part.length ∧
      regionAt? (part.drop place) = some (region, part.drop (place + region.text.length)) ∧
      regionAt? (whole.drop (start + place)) =
        some (region, whole.drop (start + place + region.text.length))
  /-- What is opened in the part and never closed there is never closed in the whole. -/
  unclosed : ∀ place c kind, (place, c) ∈ structural part 0 →
    Problem.StartsAt (.unclosedRegion kind) part place →
    Problem.StartsAt (.unclosedRegion kind) whole (start + place)

/-- A part with the characters and lexemes of the whole, in which it starts at a place.  Blanks
may differ, as one does that stands for the mark of a gate. -/
structure Embedded (origin : Nat) (whole : List Char) (start : Nat) (part : List Char) :
    Prop where
  contains : ∀ place lexeme, (place, lexeme) ∈ placed part 0 →
    lexeme = .char ' ' ∨ (start + place, lexeme) ∈ placed whole origin
  stands : ∀ place c rest, part.drop place = c :: rest → c ≠ ' ' →
    part.drop place <+: whole.drop (start + place)

namespace Embedded

variable {origin start inner : Nat} {whole part piece : List Char}

theorem of_lexemes (hfront : part <+: whole.drop start)
    (hplaced : ∀ place lexeme, (place, lexeme) ∈ placed part 0 →
      (start + place, lexeme) ∈ placed whole origin) :
    Embedded origin whole start part where
  contains place lexeme hmem := Or.inr (hplaced place lexeme hmem)
  stands place c rest _ _ := by
    rw [← List.drop_drop]
    exact hfront.drop place

theorem trans (hwhole : Embedded origin whole start part) (hpart : Embedded 0 part inner piece) :
    Embedded origin whole (start + inner) piece where
  contains place lexeme hmem := by
    rcases hpart.contains place lexeme hmem with hblank | hplaced
    · exact Or.inl hblank
    · rw [Nat.add_assoc]
      exact hwhole.contains _ _ hplaced
  stands place c rest hdrop hblank := by
    have hfront := hpart.stands place c rest hdrop hblank
    have hpart : ∃ after, part.drop (inner + place) = c :: after := by
      obtain ⟨behind, hbehind⟩ := hfront
      rw [hdrop, List.cons_append] at hbehind
      exact ⟨_, hbehind.symm⟩
    obtain ⟨after, hafter⟩ := hpart
    rw [Nat.add_assoc]
    exact hfront.trans (hwhole.stands _ c after hafter hblank)

theorem readAlike (h : Embedded origin whole start part) : ReadAlike whole start part where
  closed place region hregion := by
    rw [mem_literalRegions_iff] at hregion
    rcases h.contains _ _ hregion with hblank | hplaced
    · cases hblank
    · exact ⟨length_le_of_mem_placed hregion,
        regionAt?_of_nextLexeme? (nextLexeme?_of_mem_placed hregion),
        regionAt?_of_nextLexeme? (nextLexeme?_of_mem_placed hplaced)⟩
  unclosed place c kind hchar hstarts := by
    rw [mem_structural_iff] at hchar
    have hdrop : part.drop place = c :: part.drop (place + 1) :=
      (append_of_nextLexeme? (nextLexeme?_of_mem_placed hchar)).symm
    have hmark : c ∈ openingMarks := by
      by_contra hmark
      have hopening := ofOpening?_eq_some_iff.2 hstarts.1
      rw [hdrop, ofOpening?_eq_none hmark] at hopening
      cases hopening
    have hblank : c ≠ ' ' := by
      rintro rfl
      exact absurd hmark (by decide)
    have hplaced : (start + place, .char c) ∈ placed whole origin :=
      (h.contains _ _ hchar).resolve_left fun hchar => hblank (Lexeme.char.inj hchar)
    have hnext := nextLexeme?_of_mem_placed hplaced
    have hwhole := append_of_nextLexeme? hnext
    refine ⟨hstarts.1.trans (h.stands place c _ hdrop hblank), ?_⟩
    rw [← hwhole] at hnext ⊢
    exact regionAt?_eq_none_of_nextLexeme? hnext

end Embedded

/-! ## The content of a block -/

/-- Between the braces of a block there are the lexemes of its content. -/
theorem IsBlock.placed_between {text : List Char} {opening close : Nat}
    (h : IsBlock text opening close) :
    (placed (between text opening close) 0).map (shift (opening + 1)) =
      (placed text opening).filter fun entry => opening < entry.1 ∧ entry.1 < close := by
  obtain ⟨after, hparts, -, hclose⟩ := h.exists_lexemes
  have hwhole : placed text opening = (opening, .char '{') ::
      (placedFrom (opening + 1) (lexemes (between text opening close)) ++
        placedFrom close (.char '}' :: after)) := by
    rw [placed, hparts, placedFrom, placedFrom_append, flatMap_text_lexemes]
    rw [show opening + (Lexeme.char '{').text.length = opening + 1 from rfl, ← hclose]
  have hinside : ∀ entry ∈ placedFrom (opening + 1) (lexemes (between text opening close)),
      opening < entry.1 ∧ entry.1 < close := by
    rw [placedFrom_eq_map, ← placed_zero]
    intro entry hmem
    obtain ⟨⟨place, lexeme⟩, hplaced, rfl⟩ := List.mem_map.1 hmem
    have hlength := length_le_of_mem_placed hplaced
    have hpos := length_pos_of_mem_placed hplaced
    simp only [shift, Prod.map_fst]
    omega
  have hbehind : ∀ entry ∈ placedFrom close (.char '}' :: after),
      ¬ (opening < entry.1 ∧ entry.1 < close) :=
    fun entry hmem hbetween => absurd (le_of_mem_placedFrom hmem) (Nat.not_le.2 hbetween.2)
  rw [hwhole, List.filter_cons_of_neg (by simp), List.filter_append,
    List.filter_eq_self.2 (by simpa using hinside),
    List.filter_eq_nil_iff.2 (by simpa using hbehind), List.append_nil, placedFrom_eq_map,
    placed_zero]

/-- What a view tells of the content is what it tells of the text between the braces. -/
theorem IsBlock.seen_between {α : Type} (view : Lexeme → Option α) {text : List Char}
    {opening close : Nat} (h : IsBlock text opening close) :
    (seen view (placed (between text opening close) 0)).map (shift (opening + 1)) =
      (seen view (placed text opening)).filter fun entry =>
        opening < entry.1 ∧ entry.1 < close := by
  rw [← seen_map_shift, h.placed_between]
  exact (filter_seen view (fun place => opening < place ∧ place < close) _).symm

theorem IsBlock.embedded {text : List Char} {opening close : Nat}
    (h : IsBlock text opening close) :
    Embedded opening text (opening + 1) (between text opening close) := by
  refine .of_lexemes (List.take_prefix _ _) fun place lexeme hmem => ?_
  have hplaced : (opening + 1 + place, lexeme) ∈
      (placed (between text opening close) 0).map (shift (opening + 1)) :=
    mem_map_shift_iff.2 ⟨place, rfl, hmem⟩
  rw [h.placed_between] at hplaced
  exact (List.mem_filter.1 hplaced).1

/-! ## The mark of a gate -/

/-- The blank in place of the mark of a gate changes nothing behind it. -/
theorem embedded_splitGate (content : List Char) :
    Embedded 0 content 0 (splitGate content).2 := by
  unfold splitGate
  split
  · next rest =>
      refine ⟨fun place lexeme hmem => ?_, fun place c tail hdrop hblank => ?_⟩
      · rw [placed_cons (by decide)] at hmem
        rw [placed_cons (by decide), Nat.zero_add]
        rcases List.mem_cons.1 hmem with hfirst | hrest
        · exact Or.inl (Prod.mk.inj hfirst).2
        · exact Or.inr (List.mem_cons_of_mem _ hrest)
      · cases place with
        | zero => exact absurd (List.cons.inj hdrop).1.symm hblank
        | succ place => rw [Nat.zero_add]; exact List.prefix_refl _
  · refine .of_lexemes (List.prefix_refl _) fun place lexeme hmem => ?_
    rwa [Nat.zero_add]

theorem literalRegions_splitGate (content : List Char) :
    literalRegions (splitGate content).2 0 = literalRegions content 0 := by
  unfold splitGate
  split
  · rw [literalRegions, literalRegions, placed_cons (by decide), placed_cons (by decide)]
    rfl
  · rfl

/-! ## The alternatives of a content -/

/-- Pieces with their places, when the first one stands at the given place and a single
character stands between two of them. -/
def placedPieces (offset : Nat) : List (List Char) → List (Nat × List Char)
  | [] => []
  | piece :: others => (offset, piece) :: placedPieces (offset + piece.length + 1) others

/-- Structural characters without the bars at depth zero or less, which separate alternatives. -/
def withoutSeparators (depth : Int) : List (Nat × Char) → List (Nat × Char)
  | [] => []
  | (place, c) :: rest =>
      if c = '|' ∧ depth ≤ 0 then withoutSeparators depth rest
      else (place, c) :: withoutSeparators (depth + (Lexeme.char c).nesting) rest

/-- Lexemes without the bars between the pieces. -/
def withoutBars (depth : Int) : List (Nat × Lexeme) → List (Nat × Lexeme)
  | [] => []
  | (place, lexeme) :: rest =>
      if lexeme = .char '|' ∧ depth ≤ 0 then withoutBars depth rest
      else (place, lexeme) :: withoutBars (depth + lexeme.nesting) rest

theorem withoutBars_sublist (depth : Int) (parts : List (Nat × Lexeme)) :
    (withoutBars depth parts).Sublist parts := by
  induction parts generalizing depth with
  | nil => exact .slnil
  | cons entry rest ih =>
      obtain ⟨place, lexeme⟩ := entry
      rw [withoutBars]
      split
      · exact (ih depth).cons _
      · exact (ih _).cons_cons _

theorem seen_char_withoutBars (depth : Int) (parts : List (Nat × Lexeme)) :
    seen Lexeme.char? (withoutBars depth parts) =
      withoutSeparators depth (seen Lexeme.char? parts) := by
  induction parts generalizing depth with
  | nil => rfl
  | cons entry rest ih =>
      obtain ⟨place, region | c⟩ := entry
      · rw [withoutBars, if_neg (by simp), seen_cons, seen_cons, ih,
          nesting_eq_zero (by simp) (by simp), Int.add_zero]
        rfl
      · rw [withoutBars, seen_cons]
        show _ = withoutSeparators depth ((place, c) :: seen Lexeme.char? rest)
        rw [withoutSeparators]
        by_cases hbar : c = '|' ∧ depth ≤ 0
        · rw [if_pos hbar, if_pos (by simpa using hbar), ih]
        · rw [if_neg hbar, if_neg (by simpa using hbar), seen_cons, ih]
          rfl

/-- The bars are no regions. -/
theorem seen_region_withoutBars (depth : Int) (parts : List (Nat × Lexeme)) :
    seen Lexeme.region? (withoutBars depth parts) = seen Lexeme.region? parts := by
  induction parts generalizing depth with
  | nil => rfl
  | cons entry rest ih =>
      obtain ⟨place, lexeme⟩ := entry
      rw [withoutBars]
      split
      · next hbar =>
          rw [ih, seen_cons, hbar.1, Lexeme.region?, Option.map_none, Option.toList_none,
            List.nil_append]
      · rw [seen_cons, seen_cons, ih]

/-- The lexemes of several pieces, each piece at its place. -/
def placedPiecewise (offset : Nat) (pieces : List (List Char)) : List (Nat × Lexeme) :=
  (placedPieces offset pieces).flatMap fun piece => placedFrom piece.1 (lexemes piece.2)

theorem placedPiecewise_cons (offset : Nat) (piece : List Char) (others : List (List Char)) :
    placedPiecewise offset (piece :: others) =
      placedFrom offset (lexemes piece) ++ placedPiecewise (offset + piece.length + 1) others :=
  List.flatMap_cons

/-- The lexemes of the pieces are those of the whole, bars aside, each at its place. -/
theorem placedPiecewise_piecesFrom (offset : Nat) (depth : Int) {parts : List Lexeme}
    (h : Lexed parts) :
    placedPiecewise offset (piecesFrom depth parts) =
      withoutBars depth (placedFrom offset parts) := by
  induction parts generalizing offset depth with
  | nil =>
      rw [piecesFrom, placedPiecewise_cons, lexemes_nil]
      rfl
  | cons lexeme rest ih =>
      rw [placedFrom, withoutBars]
      by_cases hbar : lexeme = .char '|' ∧ depth ≤ 0
      · obtain ⟨rfl, hdepth⟩ := hbar
        rw [if_pos ⟨rfl, hdepth⟩, ← ih _ _ h.tail, piecesFrom, if_pos ⟨rfl, hdepth⟩,
          placedPiecewise_cons, lexemes_nil]
        rfl
      -- the lexeme stands in front of the first piece of the rest
      · obtain ⟨first, others, hrest⟩ :=
          List.exists_cons_of_ne_nil (barPieces_ne_nil (depth + lexeme.nesting) rest)
        have hpieces : barPieces depth (lexeme :: rest) = (lexeme :: first) :: others := by
          rw [barPieces_cons hbar, hrest, List.modifyHead_cons]
        have hfirst : Lexed (lexeme :: first) :=
          h.of_isInfix (isInfix_of_mem_barPieces (hpieces ▸ List.mem_cons_self ..))
        have hbegin : placedPiecewise offset (piecesFrom depth (lexeme :: rest)) =
            (offset, lexeme) :: placedPiecewise (offset + lexeme.text.length)
              (piecesFrom (depth + lexeme.nesting) rest) := by
          rw [piecesFrom_eq_map, piecesFrom_eq_map, hpieces, hrest, List.map_cons, List.map_cons,
            placedPiecewise_cons, placedPiecewise_cons, hfirst, hfirst.tail, placedFrom,
            List.cons_append, List.flatMap_cons, List.length_append, ← Nat.add_assoc]
        rw [hbegin, if_neg hbar, ih _ _ h.tail]

/-! ### Where the alternatives stand -/

theorem flatMap_text_intercalate (pieces : List (List Lexeme)) :
    ([Lexeme.char '|'].intercalate pieces).flatMap Lexeme.text =
      ['|'].intercalate (pieces.map (·.flatMap Lexeme.text)) := by
  induction pieces with
  | nil => rfl
  | cons first others ih =>
      cases others with
      | nil => rw [List.map_singleton, List.intercalate_singleton, List.intercalate_singleton]
      | cons second more =>
          rw [List.map_cons] at ih
          rw [List.map_cons, List.map_cons, List.intercalate_cons_cons, List.intercalate_cons_cons,
            List.flatMap_append, List.flatMap_append, ih]
          rfl

/-- Joined by bars, the alternatives are the content. -/
theorem intercalate_alternatives (content : List Char) :
    ['|'].intercalate (alternatives content) = content := by
  rw [alternatives, piecesFrom_eq_map, ← flatMap_text_intercalate, intercalate_barPieces,
    flatMap_text_lexemes]

theorem exists_prefix_of_mem_placedPieces {offset : Nat} {pieces : List (List Char)}
    {piece : Nat × List Char} (h : piece ∈ placedPieces offset pieces) :
    ∃ place, piece.1 = offset + place ∧ piece.2 <+: (['|'].intercalate pieces).drop place := by
  induction pieces generalizing offset with
  | nil => cases h
  | cons first others ih =>
      rw [placedPieces] at h
      rcases List.mem_cons.1 h with rfl | hother
      · refine ⟨0, rfl, ?_⟩
        cases others with
        | nil => rw [List.intercalate_singleton]; exact List.prefix_refl first
        | cons second more =>
            rw [List.intercalate_cons_cons, List.append_assoc]
            exact List.prefix_append ..
      · obtain ⟨place, hplace, hfront⟩ := ih hother
        have hothers : others ≠ [] := by
          rintro rfl
          cases hother
        refine ⟨first.length + 1 + place, by omega, ?_⟩
        rw [List.intercalate_cons_of_ne_nil hothers, ← List.drop_drop]
        rwa [List.drop_left' (by rw [List.length_append, List.length_singleton])]

/-! ### What is seen of the alternatives -/

theorem flatMap_seen_alternatives {α : Type} (view : Lexeme → Option α) (content : List Char) :
    (placedPieces 0 (alternatives content)).flatMap
        (fun piece => (seen view (placed piece.2 0)).map (shift piece.1)) =
      seen view (withoutBars 0 (placed content 0)) := by
  have hpieces := placedPiecewise_piecesFrom 0 0 (lexed_lexemes content)
  rw [placed_zero, ← hpieces, placedPiecewise, seen, List.filterMap_flatMap, alternatives]
  refine congrArg (List.flatMap · _) (funext fun piece => ?_)
  rw [← seen_map_shift, placed_zero, ← placedFrom_eq_map, seen]

theorem structural_alternatives (content : List Char) :
    (placedPieces 0 (alternatives content)).flatMap
        (fun piece => (structural piece.2 0).map (shift piece.1)) =
      withoutSeparators 0 (structural content 0) := by
  simp only [structural_eq_seen]
  rw [flatMap_seen_alternatives, seen_char_withoutBars]

theorem literalRegions_alternatives (content : List Char) :
    (placedPieces 0 (alternatives content)).flatMap
        (fun piece => (literalRegions piece.2 0).map (shift piece.1)) =
      literalRegions content 0 := by
  simp only [literalRegions]
  rw [flatMap_seen_alternatives, seen_region_withoutBars]

/-- An alternative stands at its place. -/
theorem stands_of_mem_placedPieces {content : List Char} {piece : Nat × List Char}
    (h : piece ∈ placedPieces 0 (alternatives content)) : piece.2 <+: content.drop piece.1 := by
  obtain ⟨place, hplace, hfront⟩ := exists_prefix_of_mem_placedPieces h
  rwa [hplace, Nat.zero_add, ← intercalate_alternatives content]

theorem embedded_of_mem_placedPieces {content : List Char} {piece : Nat × List Char}
    (h : piece ∈ placedPieces 0 (alternatives content)) :
    Embedded 0 content piece.1 piece.2 := by
  refine .of_lexemes (stands_of_mem_placedPieces h) fun place lexeme hmem => ?_
  have hpiecewise : (piece.1 + place, lexeme) ∈ placedPiecewise 0 (alternatives content) := by
    refine List.mem_flatMap.2 ⟨piece, h, ?_⟩
    rw [placedFrom_eq_map, ← placed_zero]
    exact mem_map_shift_iff.2 ⟨place, rfl, hmem⟩
  rw [alternatives, placedPiecewise_piecesFrom 0 0 (lexed_lexemes content), ← placed_zero]
    at hpiecewise
  exact (withoutBars_sublist 0 _).mem hpiecewise

/-! ## Every cut -/

/-- How a block is seen from inside, compared with the text around it. -/
structure BlockReadAlike (text : List Char) (opening close : Nat) : Prop where
  /-- Behind the opening brace the content has the characters that stand between the braces. -/
  characters : (structural (between text opening close) 0).map (shift (opening + 1)) =
    (structural text opening).filter fun entry => opening < entry.1 ∧ entry.1 < close
  regions : (literalRegions (between text opening close) 0).map (shift (opening + 1)) =
    (literalRegions text opening).filter fun entry => opening < entry.1 ∧ entry.1 < close
  content : ReadAlike text (opening + 1) (between text opening close)
  /-- Every region between the braces is a region of one of the alternatives. -/
  contained : ∀ place region, (place, region) ∈ literalRegions text opening →
    opening < place → place < close →
    ∃ piece ∈ placedPieces 0 (alternatives (splitGate (between text opening close)).2),
      ∃ inner, place = opening + 1 + piece.1 + inner ∧
        (inner, region) ∈ literalRegions piece.2 0
  alternative : ∀ piece ∈ placedPieces 0 (alternatives (splitGate (between text opening close)).2),
    ReadAlike text (opening + 1 + piece.1) piece.2

/-- How the alternatives of a content are seen, compared with the content. -/
structure AlternativesReadAlike (content : List Char) : Prop where
  /-- The alternatives together have the characters of the content, separators aside. -/
  characters : (placedPieces 0 (alternatives content)).flatMap
      (fun piece => (structural piece.2 0).map (shift piece.1)) =
    withoutSeparators 0 (structural content 0)
  regions : (placedPieces 0 (alternatives content)).flatMap
      (fun piece => (literalRegions piece.2 0).map (shift piece.1)) =
    literalRegions content 0
  stands : ∀ piece ∈ placedPieces 0 (alternatives content), piece.2 <+: content.drop piece.1
  alternative : ∀ piece ∈ placedPieces 0 (alternatives content),
    ReadAlike content piece.1 piece.2

/-- A region of the content of a block lies in one of the alternatives, the mark of a gate
aside. -/
theorem exists_piece_of_mem_literalRegions {content : List Char} {place : Nat} {region : Region}
    (h : (place, region) ∈ literalRegions content 0) :
    ∃ piece ∈ placedPieces 0 (alternatives (splitGate content).2),
      ∃ inner, place = piece.1 + inner ∧ (inner, region) ∈ literalRegions piece.2 0 := by
  rw [← literalRegions_splitGate, ← literalRegions_alternatives] at h
  obtain ⟨piece, hpiece, hmem⟩ := List.mem_flatMap.1 h
  exact ⟨piece, hpiece, mem_map_shift_iff.1 hmem⟩

theorem IsBlock.readAlike {text : List Char} {opening close : Nat}
    (h : IsBlock text opening close) : BlockReadAlike text opening close where
  characters := by
    rw [structural_eq_seen, structural_eq_seen]
    exact h.seen_between Lexeme.char?
  regions := h.seen_between Lexeme.region?
  content := h.embedded.readAlike
  contained place region hregion hopening hclose := by
    have hmem : (place, region) ∈
        (literalRegions (between text opening close) 0).map (shift (opening + 1)) := by
      rw [literalRegions, h.seen_between]
      exact List.mem_filter.2 ⟨hregion, by simpa using ⟨hopening, hclose⟩⟩
    obtain ⟨inner, rfl, hinner⟩ := mem_map_shift_iff.1 hmem
    obtain ⟨piece, hpiece, further, rfl, hfurther⟩ := exists_piece_of_mem_literalRegions hinner
    exact ⟨piece, hpiece, further, (Nat.add_assoc ..).symm, hfurther⟩
  alternative piece hpiece := by
    have hgate := (embedded_splitGate (between text opening close)).trans
      (embedded_of_mem_placedPieces hpiece)
    rw [Nat.zero_add] at hgate
    exact (h.embedded.trans hgate).readAlike

theorem alternatives_readAlike (content : List Char) : AlternativesReadAlike content where
  characters := structural_alternatives content
  regions := literalRegions_alternatives content
  stands _ hpiece := stands_of_mem_placedPieces hpiece
  alternative _ hpiece := (embedded_of_mem_placedPieces hpiece).readAlike

/-- **A part of a text is read as it is read in the text**, wherever the text is cut: around
the content of a block, as a scan does it (`turnAt?_eq_block_iff`), and at the bars between
the alternatives of any content. -/
theorem cuts_readAlike :
    (∀ text opening close, IsBlock text opening close → BlockReadAlike text opening close) ∧
      ∀ content, AlternativesReadAlike content :=
  ⟨fun _ _ _ hblock => hblock.readAlike, alternatives_readAlike⟩

/-- A block with an identifier that the first of two backticks closes, since there is no
third one, and with a brace and a bar in a string.  The second backtick opens an identifier
that is never closed, in the alternative as in the text. -/
theorem cuts_readAlike_backticks :
    let text := "a\x7b\x60b\x60\x60 | '\x7d|'\x7d".toList
    IsBlock text 1 13 ∧ BlockReadAlike text 1 13 ∧
      alternatives (between text 1 13) = ["\x60b\x60\x60 ".toList, " '\x7d|'".toList] ∧
      literalRegions text 1 =
        [(2, ⟨.identifier, "\x60b\x60".toList⟩), (9, ⟨.singleQuoted, "'\x7d|'".toList⟩)] ∧
      Problem.StartsAt (.unclosedRegion .identifier) text 5 := by
  intro text
  have hblock : IsBlock text 1 13 := ⟨by decide +kernel, by decide +kernel⟩
  have halike : BlockReadAlike text 1 13 := cuts_readAlike.1 text 1 13 hblock
  have hpiece : (0, "\x60b\x60\x60 ".toList) ∈
      placedPieces 0 (alternatives (splitGate (between text 1 13)).2) := by decide +kernel
  refine ⟨hblock, halike, by decide +kernel, by decide +kernel, ?_⟩
  exact (halike.alternative _ hpiece).unclosed 3 '\x60' .identifier (by decide +kernel)
    ⟨by decide +kernel, by decide +kernel⟩

end SqlTemplate
