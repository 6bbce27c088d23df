import SqlTemplate.Proofs.Expansion.Skip
import SqlTemplate.Proofs.Literal.Rendered
import SqlTemplate.Proofs.Template.Comments

/-!
# The comments of a statement

A comment takes everything up to its end out of a statement, so no parameter should be
able to bring one in.  What a placeholder writes holds no comment, and still a statement
may have more comments than its template: a minus in front of a placeholder and a
negative number make a comment between them (`comments_of_minus`), and so do the two
minuses around a placeholder whose parameter is skipped.

Nothing else can go wrong.  If no character that was copied from the template makes the
mark of a comment with what follows it in the statement, the statement has no more
comments than the template (`comments_le`).  That is so for all parameters if no minus
and no slash of the template stands directly in front of a slot or a block
(`comments_le_of_spaced`).

## Strategy

The statement is gone through from right to left, along the reading of its template.
Each part adds no more comments to the text behind it than the lexemes it comes from
have: a character and a slot add none, a region adds one if it is a comment, and a
block adds at most those of the alternative that is shown.
-/

namespace SqlTemplate

/-! ## Edges between the parts of a statement -/

/-- Whether a text begins with the mark of a comment. -/
def opensComment (text : List Char) : Bool :=
  (RegionKind.ofOpening? text).any RegionKind.isComment

mutual

/-- Whether no character that is copied outside of all regions makes the mark of a
comment with what follows it, if the given text is behind the part. -/
def Piece.seamless (behind : List Char) : Piece → Bool
  | .copied [c] => !opensComment (c :: behind)
  | .copied _ | .slot .. => true
  | .block kept _ alternatives => !kept || Layout.firstSeamless behind alternatives

def Layout.seamless (behind : List Char) : List Piece → Bool
  | [] => true
  | piece :: rest => piece.seamless (Layout.text rest ++ behind) && Layout.seamless behind rest

/-- The same for the alternative that a block shows, between its two spaces. -/
def Layout.firstSeamless (behind : List Char) : List (List Piece) → Bool
  | [] => true
  | first :: _ => Layout.seamless (' ' :: behind) first

end

/-- A character that opens no region in the template opens none in the statement,
unless it is half of a mark of a comment there. -/
theorem ofOpening?_of_not_opensComment {c : Char} {front behind : List Char}
    (hfront : RegionKind.ofOpening? (c :: front) = none) (h : opensComment (c :: behind) = false) :
    RegionKind.ofOpening? (c :: behind) = none := by
  rw [Option.eq_none_iff_forall_ne_some]
  intro kind hkind
  have hnone : kind.isComment = false := by
    unfold opensComment at h
    rwa [hkind] at h
  obtain ⟨after, hafter⟩ := ofOpening?_eq_some_iff.1 hkind
  -- all other marks are a single character
  have hmark : kind.opening = [c] := by
    cases kind with
    | lineComment => cases hnone
    | blockComment => cases hnone
    | _ => exact congrArg (fun text => text.take 1) hafter
  have hopening : RegionKind.ofOpening? (c :: front) = some kind :=
    ofOpening?_eq_some_iff.2 ⟨front, by rw [hmark]; rfl⟩
  rw [hfront] at hopening
  cases hopening

/-! ## The parts of a layout -/

section

variable {quoter : Quoter} {parameters : List Value}

theorem seamless_layout_cons {node : Node} {nodes : Template} {start : Nat} {behind : List Char} :
    Layout.seamless behind (Template.layout quoter parameters (node :: nodes) start) ↔
      (node.layout quoter parameters start).seamless (Layout.text
          (Template.layout quoter parameters nodes (start + node.slotCount)) ++ behind) ∧
        Layout.seamless behind
          (Template.layout quoter parameters nodes (start + node.slotCount)) := by
  rw [Template.layout, Layout.seamless, Bool.and_eq_true]

theorem passive_of_slotText? (hcloses : ∀ value ∈ parameters, quoter.Closes value.strings)
    {tag : Tag} {index : Nat} {text : List Char}
    (h : slotText? quoter parameters tag index = some text) : Passive text := by
  cases hvalue : parameters[index]? with
  | none =>
      rw [slotText?, hvalue] at h
      cases h
  | some value =>
      by_cases hskip : value = .skip
      · subst hskip
        rw [slotText?, hvalue] at h
        obtain rfl := Option.some.inj h
        exact Passive.nil
      · rw [slotText?_of_ne_skip hvalue hskip] at h
        split at h
        · next literal hpresent =>
            obtain rfl := Option.some.inj h
            exact present_passive (hcloses value (List.mem_of_getElem? hvalue)) hpresent
        · cases h

/-- The end of a line is copied. -/
theorem text_layout_lineEnd {offset : Nat} {c : Char} {parts : List Lexeme} {nodes : Template}
    (h : Reading offset (.char c :: parts) nodes) (hend : endsLine c) (start : Nat) :
    ∃ rest, Layout.text (Template.layout quoter parameters nodes start) = c :: rest := by
  have hplain : c ∉ openingMarks ∧ c ∉ templateMarks := by
    simp only [endsLine, Bool.or_eq_true, beq_iff_eq] at hend
    rcases hend with rfl | rfl <;> decide
  cases h with
  | plain => exact ⟨_, rfl⟩
  | unclosedRegion hopening =>
      rw [ofOpening?_eq_none hplain.1] at hopening
      cases hopening
  | _ => exact absurd hplain.2 (by decide)

/-- The first alternative of a block ends at a bar or at the end of the block. -/
theorem exists_of_barPieces_eq_cons {parts first : List Lexeme} {others : List (List Lexeme)}
    (h : barPieces 0 parts = first :: others) :
    ∃ rest, parts = first ++ rest ∧ (rest = [] ∨ ∃ more, rest = .char '|' :: more) := by
  have hjoin := intercalate_barPieces 0 parts
  rw [h] at hjoin
  cases others with
  | nil => exact ⟨[], by simpa using hjoin.symm, Or.inl rfl⟩
  | cons second more =>
      rw [List.intercalate_cons_cons, List.append_assoc] at hjoin
      exact ⟨_, hjoin.symm, Or.inr ⟨_, rfl⟩⟩

theorem gateOf_append {inside : List Lexeme} (h : inside ≠ []) (rest : List Lexeme) :
    gateOf (inside ++ rest) = ((gateOf inside).1, (gateOf inside).2 ++ rest) := by
  obtain ⟨first, others, rfl⟩ := List.exists_cons_of_ne_nil h
  rw [List.cons_append]
  unfold gateOf
  by_cases hmark : first = .char '?'
  · subst hmark
    rfl
  · simp [hmark]

theorem countP_gateOf (inside : List Lexeme) :
    (gateOf inside).2.countP Lexeme.isComment = inside.countP Lexeme.isComment := by
  unfold gateOf
  split <;> rfl

/-- What has to be seen of the alternative that a block shows: it does not end in a line
comment, and it has no more comments than the block. -/
theorem first_alternative {inside parts first : List Lexeme} {others : List (List Lexeme)}
    (h : Lexed (inside ++ .char '}' :: parts)) (hinside : inside ≠ [])
    (hpieces : barPieces 0 (gateOf inside).2 = first :: others) :
    Lexed first ∧ ¬ EndsInLineComment first ∧
      first.countP Lexeme.isComment ≤ inside.countP Lexeme.isComment := by
  obtain ⟨rest, hsplit, hrest⟩ := exists_of_barPieces_eq_cons hpieces
  have hlexed := lexed_gateOf h
  rw [gateOf_append hinside, hsplit, List.append_assoc] at hlexed
  refine ⟨hlexed.of_append, ?_, ?_⟩
  · rcases hrest with rfl | ⟨more, rfl⟩
    · exact not_endsInLineComment hlexed (by decide)
    · exact not_endsInLineComment hlexed (by decide)
  · calc first.countP Lexeme.isComment
        ≤ (first ++ rest).countP Lexeme.isComment :=
          (List.sublist_append_left first rest).countP_le
      _ = inside.countP Lexeme.isComment := by rw [← hsplit, countP_gateOf]

/-- A block adds what its first alternative adds, if it is kept. -/
theorem addsAtMost_block {bound : Nat} {behind : List Char} {kept : Bool} {first : Layout}
    (h : kept → AddsAtMost bound (Layout.text first) (' ' :: behind)) (gate : Option Nat)
    (others : List Layout) :
    AddsAtMost bound (Piece.block kept gate (first :: others)).text behind := by
  cases kept with
  | false => exact (Passive.nil.addsAtMost behind).mono (Nat.zero_le _)
  | true =>
      have hspace : ∀ text, AddsAtMost 0 [' '] text :=
        addsAtMost_char_of_not_mem (by decide)
      have hinside := (hspace _).append ((h rfl).append (hspace behind))
      exact hinside.mono (by omega)

/-! ## The whole layout -/

variable (quoter parameters) in
/-- A part of a template in its place: its slots accept their parameters, and nothing goes
wrong at its edges if the given text is behind it in the statement. -/
structure Placed (parts : List Lexeme) (nodes : Template) (start : Nat) (behind : List Char) :
    Prop where
  lexed : Lexed parts
  suits : Template.suits quoter parameters nodes start
  lineEnd : EndsInLineComment parts → behind = []
  seamless : Layout.seamless behind (Template.layout quoter parameters nodes start)

namespace Placed

variable {parts : List Lexeme} {node : Node} {nodes : Template} {start : Nat}
  {behind : List Char}

theorem rest (front : List Lexeme)
    (h : Placed quoter parameters (front ++ parts) (node :: nodes) start behind) :
    Placed quoter parameters parts nodes (start + node.slotCount) behind := by
  have hsuits := h.suits
  rw [Template.suits, Bool.and_eq_true] at hsuits
  exact ⟨h.lexed.of_suffix, hsuits.2, fun hend => h.lineEnd (hend.append_left front),
    (seamless_layout_cons.1 h.seamless).2⟩

theorem node_suits (h : Placed quoter parameters parts (node :: nodes) start behind) :
    node.suits quoter parameters start := by
  have hsuits := h.suits
  rw [Template.suits, Bool.and_eq_true] at hsuits
  exact hsuits.1

theorem node_seamless (h : Placed quoter parameters parts (node :: nodes) start behind) :
    (node.layout quoter parameters start).seamless
      (Layout.text (Template.layout quoter parameters nodes (start + node.slotCount)) ++ behind) :=
  (seamless_layout_cons.1 h.seamless).1

/-- A placeholder adds nothing, whatever its tag. -/
theorem placeholder {tag : Tag} (hcloses : ∀ value ∈ parameters, quoter.Closes value.strings)
    (h : Placed quoter parameters parts (.placeholder tag :: nodes) start behind)
    (following : List Char) :
    AddsAtMost 0 ((Node.placeholder tag).layout quoter parameters start).text following := by
  obtain ⟨text, htext⟩ := Option.isSome_iff_exists.1 h.node_suits
  rw [Node.layout, Piece.text, htext, Option.getD_some]
  exact (passive_of_slotText? hcloses htext).addsAtMost following

end Placed

theorem addsAtMost_cons (front : List Lexeme) {parts : List Lexeme} {node : Node} {nodes : Template}
    {start : Nat} {behind : List Char}
    (hnode : AddsAtMost (front.countP Lexeme.isComment) (node.layout quoter parameters start).text
      (Layout.text (Template.layout quoter parameters nodes (start + node.slotCount)) ++ behind))
    (hrest : AddsAtMost (parts.countP Lexeme.isComment)
      (Layout.text (Template.layout quoter parameters nodes (start + node.slotCount))) behind) :
    AddsAtMost ((front ++ parts).countP Lexeme.isComment)
      (Layout.text (Template.layout quoter parameters (node :: nodes) start)) behind := by
  rw [Template.layout, Layout.text, List.countP_append]
  exact hnode.append hrest

/-- **A part adds no more comments than its lexemes have.** -/
theorem addsAtMost_layout (hcloses : ∀ value ∈ parameters, quoter.Closes value.strings)
    {offset : Nat} {parts : List Lexeme} {nodes : Template} (hreading : Reading offset parts nodes)
    {start : Nat} {behind : List Char} (h : Placed quoter parameters parts nodes start behind) :
    AddsAtMost (parts.countP Lexeme.isComment)
      (Layout.text (Template.layout quoter parameters nodes start)) behind := by
  induction hreading generalizing start behind with
  | done => exact Passive.nil.addsAtMost behind
  | @region _ region parts nodes hreading ih =>
      refine addsAtMost_cons [.region region] ?_ (ih (h.rest [_]))
      refine addsAtMost_region h.lexed fun hkind => ?_
      obtain ⟨kind, text⟩ := region
      obtain rfl : kind = .lineComment := hkind
      rcases lineEnd_of_lexed h.lexed with rfl | ⟨c, rest, rfl, hend⟩
      · cases hreading
        rw [h.lineEnd ⟨[], text, rfl⟩]
        rfl
      · obtain ⟨tail, htext⟩ := text_layout_lineEnd hreading hend _
        rw [htext, List.cons_append, List.takeWhile_cons_of_neg (by simpa using hend)]
  | @plain _ c parts nodes hplain hopening hreading ih =>
      refine addsAtMost_cons [.char c] ?_ (ih (h.rest [_]))
      refine addsAtMost_char (ofOpening?_of_not_opensComment hopening ?_)
      simpa [Node.layout, Piece.seamless] using h.node_seamless
  | @emptyBlock _ parts nodes hreading ih =>
      refine addsAtMost_cons [.char '{', .char '}'] ?_ (ih (h.rest [_, _]))
      have hclosing : ∀ text, AddsAtMost 0 ['}'] text := addsAtMost_char_of_not_mem (by decide)
      have hopening : ∀ text, AddsAtMost 0 ['{'] text := addsAtMost_char_of_not_mem (by decide)
      exact (hopening _).append (hclosing _)
  | @untagged _ parts nodes htag hreading ih =>
      exact addsAtMost_cons [.char '?'] (h.placeholder hcloses _)
        (ih (h.rest [_]))
  | @tagged _ c parts nodes htag hreading ih =>
      exact addsAtMost_cons [.char '?', .char c] (h.placeholder hcloses _)
        (ih (h.rest [_, _]))
  | @block _ inside parts nodes hinside hbalanced hpieces hreading ihpieces ih =>
      obtain ⟨first, others, hbars⟩ :=
        List.exists_cons_of_ne_nil (barPieces_ne_nil 0 (gateOf inside).2)
      obtain ⟨hfirst, hline, hcount⟩ := first_alternative h.lexed.tail hinside hbars
      have hsuits := h.node_suits
      have hseams := h.node_seamless
      have hparts : Lexeme.char '{' :: (inside ++ .char '}' :: parts) =
          (.char '{' :: (inside ++ [.char '}'])) ++ parts := by
        rw [List.cons_append, List.append_assoc, List.singleton_append]
      have hblock : (Lexeme.char '{' :: (inside ++ [.char '}'])).countP Lexeme.isComment =
          inside.countP Lexeme.isComment := by
        simp [Lexeme.isComment]
      rw [hparts] at h ⊢
      refine addsAtMost_cons _ ?_ (ih (h.rest _))
      rw [Node.suits, Bool.and_eq_true, hbars, List.map_cons, Template.allSuit,
        Bool.and_eq_true] at hsuits
      rw [Node.layout, hbars, List.map_cons, Template.allLayouts] at hseams ⊢
      rw [hblock]
      refine addsAtMost_block (fun hkept => ?_) _ _
      rw [Piece.seamless, hkept] at hseams
      have hmem : first ∈ barPieces 0 (gateOf inside).2 := by
        rw [hbars]
        exact List.mem_cons_self ..
      exact (ihpieces first hmem
        ⟨hfirst, hsuits.2.1, fun hend => absurd hend hline, hseams⟩).mono hcount
  | unclosedBlock => cases h.suits
  | strayClosingBrace => cases h.suits
  | unclosedRegion => cases h.suits

end

/-! ## Templates that leave space -/

/-- Whether a node is a single character that may be half of the mark of a comment. -/
def Node.isHalfMark : Node → Bool
  | .verbatim text => text == ['-'] || text == ['/']
  | _ => false

/-- Whether a template begins with a placeholder or a block. -/
def Template.beginsOpen : List Node → Bool
  | .placeholder _ :: _ | .block .. :: _ => true
  | _ => false

mutual

def Node.spaced : Node → Bool
  | .block _ alternatives => Template.allSpaced alternatives
  | .verbatim _ | .placeholder _ | .fault _ => true

/-- Whether no minus and no slash outside of all regions stands directly in front of a
placeholder or a block. -/
def Template.spaced : List Node → Bool
  | [] => true
  | node :: rest =>
      !(node.isHalfMark && Template.beginsOpen rest) && (node.spaced && Template.spaced rest)

def Template.allSpaced : List (List Node) → Bool
  | [] => true
  | template :: rest => Template.spaced template && Template.allSpaced rest

end

theorem spaced_cons {node : Node} {rest : Template} :
    Template.spaced (node :: rest) ↔
      (node.isHalfMark → Template.beginsOpen rest = false) ∧ node.spaced ∧
        Template.spaced rest := by
  rw [Template.spaced, Bool.and_eq_true, Bool.and_eq_true]
  cases node.isHalfMark <;> simp

theorem opensComment_singleton (c : Char) : opensComment [c] = false := by
  unfold opensComment RegionKind.ofOpening?
  split <;> simp_all [RegionKind.isComment]

/-- A space completes no mark. -/
theorem opensComment_space (c : Char) (text : List Char) :
    opensComment (c :: ' ' :: text) = false := by
  rw [← opensComment_singleton c]
  have hopening : RegionKind.ofOpening? (c :: ([] ++ ' ' :: text)) = RegionKind.ofOpening? [c] :=
    ofOpening?_append [] text (by decide) (by decide)
  unfold opensComment
  rw [← hopening]
  rfl

theorem opensComment_of_ne {c : Char} (hminus : c ≠ '-') (hslash : c ≠ '/') (behind : List Char) :
    opensComment (c :: behind) = false := by
  unfold opensComment RegionKind.ofOpening?
  split <;> simp_all [RegionKind.isComment]

theorem opensComment_congr {c : Char} {front behind : List Char}
    (h : front.head? = behind.head?) : opensComment (c :: front) = opensComment (c :: behind) := by
  cases front with
  | nil =>
      obtain rfl : behind = [] := List.head?_eq_none_iff.1 h.symm
      rfl
  | cons d rest =>
      obtain ⟨other, rfl⟩ := List.head?_eq_some_iff.1 h.symm
      unfold opensComment RegionKind.ofOpening?
      split <;> split <;> simp_all

/-- A region has two characters at least. -/
theorem text_region_ne_singleton {region : Region} {parts : List Lexeme}
    (h : Lexed (.region region :: parts)) (c : Char) : region.text ≠ [c] := by
  obtain ⟨body, after, -, hclosed, htext⟩ :=
    regionAt?_eq_some_iff.1 (regionAt?_of_nextLexeme? (Lexed.cons_iff.1 h).1)
  have hself : region.kind.close? (body ++ []) = some (body, []) := close?_of_append hclosed
  intro hsingle
  rw [htext] at hsingle
  obtain ⟨kind, text⟩ := region
  cases kind with
  | lineComment => cases hsingle
  | blockComment => cases hsingle
  | _ =>
      obtain ⟨-, rfl⟩ := List.cons.inj hsingle
      cases hself

theorem seamless_copied {text : List Char} (h : ∀ c, text ≠ [c]) (behind : List Char) :
    (Piece.copied text).seamless behind := by
  match text with
  | [] => rfl
  | [c] => exact absurd rfl (h c)
  | _ :: _ :: _ => rfl

section

variable {quoter : Quoter} {parameters : List Value} {offset : Nat} {parts : List Lexeme}
  {nodes : Template}

/-- Where no slot and no block comes next, the statement goes on as the template does. -/
theorem head_text_layout (h : Reading offset parts nodes) (hlexed : Lexed parts)
    (hopen : Template.beginsOpen nodes = false) {start : Nat} {d : Char} {rest : List Char}
    (htext : Layout.text (Template.layout quoter parameters nodes start) = d :: rest) :
    (parts.flatMap Lexeme.text).head? = some d := by
  cases h with
  | done => cases htext
  | @region _ region parts nodes hreading =>
      obtain ⟨c, more, hregion, -⟩ := hlexed.exists_mark
      rw [Template.layout, Layout.text, Node.layout, Piece.text, hregion] at htext
      obtain ⟨rfl, -⟩ := List.cons.inj htext
      rw [List.flatMap_cons, Lexeme.text, hregion]
      rfl
  | plain =>
      obtain ⟨rfl, -⟩ := List.cons.inj htext
      rfl
  | emptyBlock =>
      obtain ⟨rfl, -⟩ := List.cons.inj htext
      rfl
  | untagged => cases hopen
  | tagged => cases hopen
  | block => cases hopen
  | unclosedBlock => cases htext
  | strayClosingBrace => cases htext
  | unclosedRegion => cases htext

/-- The edges of a template that leaves space are seamless, whatever the parameters. -/
theorem seamless_of_spaced (hreading : Reading offset parts nodes) (hlexed : Lexed parts)
    (hspaced : Template.spaced nodes) {start : Nat} {behind : List Char}
    (hbehind : ∀ c, opensComment (c :: behind) = false) :
    Layout.seamless behind (Template.layout quoter parameters nodes start) := by
  induction hreading generalizing start behind with
  | done => rfl
  | @region _ region parts nodes hreading ih =>
      obtain ⟨hhalf, -, hrest⟩ := spaced_cons.1 hspaced
      exact seamless_layout_cons.2 ⟨seamless_copied (text_region_ne_singleton hlexed) _,
        ih hlexed.tail hrest hbehind⟩
  | @plain _ c parts nodes hplain hopening hreading ih =>
      obtain ⟨hhalf, -, hrest⟩ := spaced_cons.1 hspaced
      refine seamless_layout_cons.2 ⟨?_, ih hlexed.tail hrest hbehind⟩
      have hnone : ∀ start, opensComment (c ::
          (Layout.text (Template.layout quoter parameters nodes start) ++ behind)) = false := by
        intro start
        by_cases hmark : (Node.verbatim [c]).isHalfMark
        · have hopen := hhalf hmark
          cases htext : Layout.text (Template.layout quoter parameters nodes start) with
          | nil => exact hbehind c
          | cons d rest =>
              have hhead := head_text_layout hreading hlexed.tail hopen htext
              have hcopied : opensComment (c :: parts.flatMap Lexeme.text) = false := by
                unfold opensComment
                rw [hopening]
                rfl
              rw [← hcopied]
              exact opensComment_congr hhead.symm
        · simp only [Node.isHalfMark, Bool.or_eq_true, beq_iff_eq, List.cons.injEq, and_true,
            not_or] at hmark
          exact opensComment_of_ne hmark.1 hmark.2 _
      simp [Node.layout, Piece.seamless, hnone]
  | @emptyBlock _ parts nodes hreading ih =>
      obtain ⟨hhalf, -, hrest⟩ := spaced_cons.1 hspaced
      exact seamless_layout_cons.2 ⟨rfl, ih hlexed.tail.tail hrest hbehind⟩
  | @untagged _ parts nodes htag hreading ih =>
      obtain ⟨hhalf, -, hrest⟩ := spaced_cons.1 hspaced
      exact seamless_layout_cons.2 ⟨rfl, ih hlexed.tail hrest hbehind⟩
  | @tagged _ c parts nodes htag hreading ih =>
      obtain ⟨hhalf, -, hrest⟩ := spaced_cons.1 hspaced
      exact seamless_layout_cons.2 ⟨rfl, ih hlexed.tail.tail hrest hbehind⟩
  | @block _ inside parts nodes hinside hbalanced hpieces hreading ihpieces ih =>
      obtain ⟨first, others, hbars⟩ :=
        List.exists_cons_of_ne_nil (barPieces_ne_nil 0 (gateOf inside).2)
      obtain ⟨hfirst, -, -⟩ := first_alternative hlexed.tail hinside hbars
      have hmem : first ∈ barPieces 0 (gateOf inside).2 := by
        rw [hbars]
        exact List.mem_cons_self ..
      obtain ⟨-, hinner, hrest⟩ := spaced_cons.1 hspaced
      rw [Node.spaced, hbars, List.map_cons, Template.allSpaced, Bool.and_eq_true] at hinner
      refine seamless_layout_cons.2 ⟨?_, ih hlexed.tail.of_suffix.tail hrest hbehind⟩
      have hshown : ∀ (start : Nat) (text : List Char), Layout.seamless (' ' :: text)
          (Template.layout quoter parameters (Template.read (first.flatMap Lexeme.text)) start) :=
        fun _ text => ihpieces first hmem hfirst hinner.1 (opensComment_space · text)
      rw [Node.layout, hbars, List.map_cons, Template.allLayouts, Piece.seamless,
        Layout.firstSeamless, hshown, Bool.or_true]
  | unclosedBlock => rfl
  | strayClosingBrace => rfl
  | unclosedRegion => rfl

end

/-! ## Whole expansions -/

namespace Expander

variable {expander : Expander} {template : String} {parameters : List Value} {expanded : Expanded}

theorem comments_sql_le (hself : Template.selfContained (Template.read template.toList))
    (hcloses : ∀ value ∈ parameters, expander.quoter.Closes value.strings)
    (h : expander.expand template parameters = .ok expanded)
    (hseams : Layout.seamless []
      (Template.layout expander.quoter parameters (Template.read template.toList) 0)) :
    comments expanded.sql.toList ≤ comments template.toList := by
  obtain ⟨hsuits, rfl⟩ := (expand_eq_ok_iff_layout hself).1 h
  have hplaced : Placed expander.quoter parameters (lexemes template.toList)
      (Template.read template.toList) 0 [] :=
    ⟨lexed_lexemes _, hsuits, fun _ => rfl, hseams⟩
  obtain ⟨total, htotal, hle⟩ :=
    addsAtMost_layout hcloses (reading_read template.toList) hplaced 0 rfl
  rw [List.append_nil] at htotal
  rw [String.toList_ofList, comments_of_commentCount? htotal]
  exact hle

/-- **A template that leaves space gets no comments from its parameters.**  If no minus and
no slash stands directly in front of a placeholder or a block, the statement never has
more comments than the template. -/
theorem comments_le_of_spaced (hquoter : expander.quoter = .mysql)
    (hself : Template.selfContained (Template.read template.toList))
    (hspaced : Template.spaced (Template.read template.toList))
    (h : expander.expand template parameters = .ok expanded) :
    comments expanded.sql.toList ≤ comments template.toList := by
  refine comments_sql_le hself (fun value _ => ?_) h ?_
  · rw [hquoter]
    exact Quoter.closes_mysql _
  · exact seamless_of_spaced (reading_read _) (lexed_lexemes _) hspaced opensComment_singleton

/-- **Comments come up at edges only.**  If no character that was copied from the template
makes the mark of a comment with what follows it in the statement, the statement has no
more comments than the template. -/
theorem comments_le (hquoter : expander.quoter = .mysql)
    (hself : Template.selfContained (Template.read template.toList))
    (h : expander.expand template parameters = .ok expanded)
    (hseams : Layout.seamless []
      (Template.layout .mysql parameters (Template.read template.toList) 0)) :
    comments expanded.sql.toList ≤ comments template.toList := by
  refine comments_sql_le hself (fun value _ => ?_) h ?_
  · rw [hquoter]
    exact Quoter.closes_mysql _
  · rw [hquoter]
    exact hseams

/-- Comments on both sides of a placeholder, and a minus that a string keeps apart from
the next one. -/
theorem comments_le_strings :
    (Expander.ofProfile {}).expand "a -- b\n \x7b/* c */ ?_-?|--\n\x7d"
        [.int (-1), .text "-- d"] =
      .ok ⟨"a -- b\n  /* c */ '-1'-'-- d' ", 2, 2, "mysql"⟩ ∧
    comments "a -- b\n  /* c */ '-1'-'-- d' ".toList ≤
      comments "a -- b\n \x7b/* c */ ?_-?|--\n\x7d".toList := by
  have hexpand : (Expander.ofProfile {}).expand "a -- b\n \x7b/* c */ ?_-?|--\n\x7d"
      [.int (-1), .text "-- d"] =
      .ok ⟨"a -- b\n  /* c */ '-1'-'-- d' ", 2, 2, "mysql"⟩ := by decide +kernel
  have hle := comments_le rfl (by decide +kernel) hexpand (by decide +kernel)
  exact ⟨hexpand, hle⟩

/-- **A negative number opens a comment.**  Behind a minus it makes the rest of the
statement a comment, here the only condition on the owner. -/
theorem comments_of_minus :
    Template.selfContained (Template.read
      "SELECT * FROM t WHERE balance > credit-? AND owner = ?".toList) ∧
    (Expander.ofProfile {}).expand "SELECT * FROM t WHERE balance > credit-? AND owner = ?"
        [.int (-1), .text "x"] =
      .ok ⟨"SELECT * FROM t WHERE balance > credit--1 AND owner = 'x'", 2, 2, "mysql"⟩ ∧
    comments "SELECT * FROM t WHERE balance > credit-? AND owner = ?".toList = 0 ∧
    comments "SELECT * FROM t WHERE balance > credit--1 AND owner = 'x'".toList = 1 := by
  decide +kernel

end Expander

end SqlTemplate
