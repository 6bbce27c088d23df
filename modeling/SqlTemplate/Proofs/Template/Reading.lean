import SqlTemplate.Proofs.Template.Balance
import SqlTemplate.Template.Tree

/-!
# How a template is read, lexeme by lexeme

`Template.readFrom` works on characters: it cuts blocks out of the text, cuts
their content at the bars, and reads the pieces from scratch.  `Reading` tells
the same story about the lexemes of the whole text, one rule for each thing that
may come next, and `reading_read` shows that every text is read by these rules.

Whatever is to be proved about the tree of a template is proved by induction on
its reading, so cutting and reading again do not come up any more.
-/

namespace SqlTemplate

/-! ## One step of `readFrom` -/

section

variable {offset : Nat} {text rest : List Char}

theorem readFrom_fault {problem : Problem}
    (h : nextToken? text = some (.fault problem, rest)) :
    Template.readFrom offset text = [.fault ⟨problem, offset⟩] := by
  rw [Template.readFrom]
  split <;> simp_all

theorem readFrom_copied {copied : List Char} (h : nextToken? text = some (.copied copied, rest)) :
    Template.readFrom offset text =
      .verbatim copied :: Template.readFrom (offset + copied.length) rest := by
  rw [Template.readFrom]
  split <;> simp_all

theorem readFrom_placeholder {tag : Tag} (h : nextToken? text = some (.placeholder tag, rest)) :
    Template.readFrom offset text =
      .placeholder tag :: Template.readFrom (offset + (1 + tag.name.length)) rest := by
  rw [Template.readFrom]
  split <;> simp_all [Token.length]

theorem readFrom_block {content : List Char} (h : nextToken? text = some (.block content, rest)) :
    Template.readFrom offset text =
      Node.ofContent content :: Template.readFrom (offset + (content.length + 2)) rest := by
  rw [Template.readFrom]
  split <;> simp_all [Token.length, Node.ofContent, Template.read]

end

@[simp] theorem readFrom_nil (offset : Nat) : Template.readFrom offset [] = [] := by
  rw [Template.readFrom]
  rfl

/-! ## The gate of a block -/

/-- Whether lexemes open with the mark of a gate, and the lexemes without that
mark, in whose place a space is left. -/
def gateOf : List Lexeme → Bool × List Lexeme
  | .char '?' :: rest => (true, .char ' ' :: rest)
  | parts => (false, parts)

theorem balanced_gateOf {inside : List Lexeme} :
    balanced 0 (gateOf inside).2 = balanced 0 inside := by
  unfold gateOf
  split
  · rw [balanced_cons (by simp) (by simp), balanced_cons (by simp) (by simp)]
  · rfl

theorem length_gateOf (inside : List Lexeme) : (gateOf inside).2.length = inside.length := by
  unfold gateOf
  split <;> rfl

/-- A blank is never part of a region that begins with it. -/
theorem lexed_space {parts : List Lexeme} (h : Lexed parts) : Lexed (.char ' ' :: parts) :=
  Lexed.cons_iff.2 ⟨nextLexeme?_of_not_mem (by decide) _, h⟩

theorem lexed_gateOf {inside : List Lexeme} (h : Lexed inside) : Lexed (gateOf inside).2 := by
  unfold gateOf
  split
  · exact lexed_space h.tail
  · exact h

theorem splitGate_flatMap {inside : List Lexeme} (h : Lexed inside) :
    splitGate (inside.flatMap Lexeme.text) =
      ((gateOf inside).1, (gateOf inside).2.flatMap Lexeme.text) := by
  match inside with
  | [] => rfl
  | .region region :: rest =>
      obtain ⟨c, more, htext, hmark⟩ := h.exists_mark
      have hquestion : c ≠ '?' := by
        rintro rfl
        simp [openingMarks] at hmark
      simp [gateOf, Lexeme.text, htext, splitGate, hquestion]
  | .char c :: rest =>
      by_cases hquestion : c = '?'
      · subst hquestion
        rfl
      · simp [gateOf, Lexeme.text, splitGate, hquestion]

/-- No tag opens a region. -/
theorem not_mem_openingMarks_of_tag {c : Char} (h : c ∈ Tag.characters) : c ∉ openingMarks := by
  simp only [Tag.characters, List.mem_cons, List.not_mem_nil, or_false] at h
  rcases h with rfl | rfl | rfl | rfl | rfl | rfl | rfl | rfl | rfl <;> simp [openingMarks]

theorem split_eq_plain {parts : List Lexeme} (h : Lexed parts)
    (htag : ∀ c rest, parts = .char c :: rest → c ∉ Tag.characters) :
    Tag.split (parts.flatMap Lexeme.text) = (.plain, parts.flatMap Lexeme.text) := by
  match parts with
  | [] => rfl
  | .region region :: rest =>
      obtain ⟨c, more, htext, hmark⟩ := h.exists_mark
      have hplain : c ∉ Tag.characters := fun hmem => not_mem_openingMarks_of_tag hmem hmark
      simp [Lexeme.text, htext, Tag.split, hplain]
  | .char c :: rest => simp [Lexeme.text, Tag.split, htag c rest rfl]

theorem split_eq_tagged {c : Char} (h : c ∈ Tag.characters) {parts : List Lexeme} :
    Tag.split ((Lexeme.char c :: parts).flatMap Lexeme.text) =
      (.ofName (String.singleton c), parts.flatMap Lexeme.text) := by
  simp [Lexeme.text, Tag.split, h]

/-! ## The rules of reading -/

/-- How lexemes that begin at an offset are read as a template. -/
inductive Reading : Nat → List Lexeme → Template → Prop
  | done {offset : Nat} : Reading offset [] []
  | region {offset : Nat} {region : Region} {parts : List Lexeme} {nodes : Template} :
      Reading (offset + region.text.length) parts nodes →
      Reading offset (.region region :: parts) (.verbatim region.text :: nodes)
  | plain {offset : Nat} {c : Char} {parts : List Lexeme} {nodes : Template}
      (hplain : c ∉ ['{', '}', '?'])
      (hopening : RegionKind.ofOpening? (c :: parts.flatMap Lexeme.text) = none) :
      Reading (offset + 1) parts nodes →
      Reading offset (.char c :: parts) (.verbatim [c] :: nodes)
  | emptyBlock {offset : Nat} {parts : List Lexeme} {nodes : Template} :
      Reading (offset + 2) parts nodes →
      Reading offset (.char '{' :: .char '}' :: parts) (.verbatim ['{', '}'] :: nodes)
  | untagged {offset : Nat} {parts : List Lexeme} {nodes : Template}
      (htag : ∀ c rest, parts = .char c :: rest → c ∉ Tag.characters) :
      Reading (offset + 1) parts nodes →
      Reading offset (.char '?' :: parts) (.placeholder .plain :: nodes)
  | tagged {offset : Nat} {c : Char} {parts : List Lexeme} {nodes : Template}
      (htag : c ∈ Tag.characters) :
      Reading (offset + 2) parts nodes →
      Reading offset (.char '?' :: .char c :: parts)
        (.placeholder (.ofName (String.singleton c)) :: nodes)
  | block {offset : Nat} {inside parts : List Lexeme} {nodes : Template}
      (hinside : inside ≠ []) (hbalanced : balanced 0 inside) :
      (∀ piece ∈ barPieces 0 (gateOf inside).2,
        Reading 0 piece (Template.read (piece.flatMap Lexeme.text))) →
      Reading (offset + ((inside.flatMap Lexeme.text).length + 2)) parts nodes →
      Reading offset (.char '{' :: (inside ++ .char '}' :: parts))
        (.block (gateOf inside).1 ((barPieces 0 (gateOf inside).2).map
          fun piece => Template.read (piece.flatMap Lexeme.text)) :: nodes)
  | unclosedBlock {offset : Nat} {parts : List Lexeme} (hopen : closingBrace? 1 parts = none) :
      Reading offset (.char '{' :: parts) [.fault ⟨.unclosedBlock, offset⟩]
  | strayClosingBrace {offset : Nat} {parts : List Lexeme} :
      Reading offset (.char '}' :: parts) [.fault ⟨.strayClosingBrace, offset⟩]
  | unclosedRegion {offset : Nat} {c : Char} {parts : List Lexeme} {kind : RegionKind}
      (hopening : RegionKind.ofOpening? (c :: parts.flatMap Lexeme.text) = some kind) :
      Reading offset (.char c :: parts) [.fault ⟨.unclosedRegion kind, offset⟩]

/-! ## Every text is read by the rules -/

theorem nextToken?_region {region : Region} {parts : List Lexeme}
    (h : Lexed (.region region :: parts)) :
    nextToken? ((Lexeme.region region :: parts).flatMap Lexeme.text) =
      some (.copied region.text, parts.flatMap Lexeme.text) := by
  rw [List.flatMap_cons, nextToken?, (Lexed.cons_iff.1 h).1]

theorem nextToken?_char {c : Char} {parts : List Lexeme} (h : Lexed (.char c :: parts)) :
    nextToken? ((Lexeme.char c :: parts).flatMap Lexeme.text) =
      some (tokenAt c (parts.flatMap Lexeme.text)) := by
  rw [List.flatMap_cons, nextToken?, (Lexed.cons_iff.1 h).1]

theorem flatMap_text_eq_nil_iff {parts : List Lexeme} (h : Lexed parts) :
    parts.flatMap Lexeme.text = [] ↔ parts = [] := by
  constructor
  · intro hempty
    rw [Lexed, hempty, lexemes_nil] at h
    exact h.symm
  · rintro rfl
    rfl

theorem tokenAt_unclosedBlock {parts : List Lexeme} (h : Lexed parts)
    (hopen : closingBrace? 1 parts = none) :
    tokenAt '{' (parts.flatMap Lexeme.text) =
      (.fault .unclosedBlock, parts.flatMap Lexeme.text) := by
  rw [Lexed] at h
  simp only [tokenAt, h, hopen]

theorem tokenAt_block {inside after : List Lexeme} (h : Lexed (inside ++ .char '}' :: after))
    (hclosing : closingBrace? 1 (inside ++ .char '}' :: after) =
      some (inside.flatMap Lexeme.text).length) :
    tokenAt '{' ((inside ++ .char '}' :: after).flatMap Lexeme.text) =
      (if inside = [] then .copied ['{', '}'] else .block (inside.flatMap Lexeme.text),
        after.flatMap Lexeme.text) := by
  have hinside := flatMap_text_eq_nil_iff h.of_append
  rw [Lexed] at h
  simp only [tokenAt, h, hclosing]
  simp only [List.flatMap_append, List.flatMap_cons, List.take_left]
  simp [Lexeme.text, List.isEmpty_iff, hinside, List.drop_append]

theorem tokenAt_other {c : Char} (rest : List Char) (hplain : c ∉ ['{', '}', '?']) :
    tokenAt c rest =
      match RegionKind.ofOpening? (c :: rest) with
      | some kind => (.fault (.unclosedRegion kind), rest)
      | none => (.copied [c], rest) := by
  simp only [List.mem_cons, List.not_mem_nil, or_false, not_or] at hplain
  unfold tokenAt
  split
  · exact absurd rfl hplain.1
  · exact absurd rfl hplain.2.1
  · exact absurd rfl hplain.2.2
  · rfl

/-- The block that a content makes has the pieces between the content's bars. -/
theorem ofContent_flatMap {inside : List Lexeme} (h : Lexed inside) :
    Node.ofContent (inside.flatMap Lexeme.text) =
      .block (gateOf inside).1 ((barPieces 0 (gateOf inside).2).map
        fun piece => Template.read (piece.flatMap Lexeme.text)) := by
  simp only [Node.ofContent, splitGate_flatMap h, alternatives]
  rw [lexed_gateOf h, piecesFrom_eq_map, List.map_map]
  rfl

/-! ### The recursion

`ReadableBelow` is the claim about all texts of fewer lexemes, which the cases
below assume; the pieces of a block are no part of the list that they are cut from. -/

/-- Every text of fewer lexemes is read by the rules. -/
def ReadableBelow (size : Nat) : Prop :=
  ∀ parts : List Lexeme, parts.length < size → Lexed parts → ∀ offset,
    Reading offset parts (Template.readFrom offset (parts.flatMap Lexeme.text))

theorem reading_openingBrace {rest : List Lexeme} (h : Lexed (.char '{' :: rest))
    (ih : ReadableBelow (rest.length + 1)) (offset : Nat) :
    Reading offset (.char '{' :: rest)
      (Template.readFrom offset ((Lexeme.char '{' :: rest).flatMap Lexeme.text)) := by
  have htoken := nextToken?_char h
  cases hclosing : closingBrace? 1 rest with
  | none =>
      rw [tokenAt_unclosedBlock h.tail hclosing] at htoken
      rw [readFrom_fault htoken]
      exact .unclosedBlock hclosing
  | some distance =>
      obtain ⟨inside, after, rfl, hbalanced, rfl⟩ := exists_of_closingBrace? 0 hclosing
      rw [tokenAt_block h.tail hclosing] at htoken
      simp only [List.length_append, List.length_cons] at ih
      have hafter := ih after (by omega) h.tail.of_suffix.tail
      by_cases hempty : inside = []
      · subst hempty
        rw [readFrom_copied htoken]
        exact .emptyBlock (hafter _)
      · have hinside : Lexed inside := h.tail.of_append
        rw [if_neg hempty] at htoken
        rw [readFrom_block htoken, ofContent_flatMap hinside]
        refine .block hempty hbalanced (fun piece hpiece => ?_) (hafter _)
        have hwithin := isInfix_of_mem_barPieces hpiece
        -- the space in place of the gate's mark makes the content no longer
        have hshort := hwithin.length_le
        rw [length_gateOf] at hshort
        exact ih piece (by omega) ((lexed_gateOf hinside).of_isInfix hwithin) 0

theorem reading_questionMark {rest : List Lexeme} (h : Lexed (.char '?' :: rest))
    (ih : ReadableBelow (rest.length + 1)) (offset : Nat) :
    Reading offset (.char '?' :: rest)
      (Template.readFrom offset ((Lexeme.char '?' :: rest).flatMap Lexeme.text)) := by
  have htoken := nextToken?_char h
  by_cases htag : ∃ c after, rest = .char c :: after ∧ c ∈ Tag.characters
  · obtain ⟨c, after, rfl, hmem⟩ := htag
    simp only [tokenAt, split_eq_tagged hmem] at htoken
    rw [readFrom_placeholder htoken, Tag.name_ofName, String.length_singleton]
    exact .tagged hmem (ih after (by simp only [List.length_cons]; omega) h.tail.tail _)
  · have hplain : ∀ c after, rest = .char c :: after → c ∉ Tag.characters :=
      fun c after hrest hmem => htag ⟨c, after, hrest, hmem⟩
    simp only [tokenAt, split_eq_plain h.tail hplain] at htoken
    rw [readFrom_placeholder htoken]
    exact .untagged hplain (ih rest (by omega) h.tail _)

theorem reading_other {c : Char} {rest : List Lexeme} (h : Lexed (.char c :: rest))
    (hplain : c ∉ ['{', '}', '?']) (ih : ReadableBelow (rest.length + 1)) (offset : Nat) :
    Reading offset (.char c :: rest)
      (Template.readFrom offset ((Lexeme.char c :: rest).flatMap Lexeme.text)) := by
  have htoken := nextToken?_char h
  rw [tokenAt_other _ hplain] at htoken
  cases hopening : RegionKind.ofOpening? (c :: rest.flatMap Lexeme.text) with
  | some kind =>
      rw [hopening] at htoken
      rw [readFrom_fault htoken]
      exact .unclosedRegion hopening
  | none =>
      rw [hopening] at htoken
      rw [readFrom_copied htoken]
      exact .plain hplain hopening (ih rest (by omega) h.tail _)

theorem readableBelow (size : Nat) : ReadableBelow size := by
  induction size with
  | zero => exact fun parts hsize => absurd hsize (Nat.not_lt_zero _)
  | succ size ih =>
      intro parts hsize hlexed offset
      have hshorter : ReadableBelow parts.length :=
        fun shorter hshort => ih shorter (by omega)
      match parts with
      | [] => simpa using Reading.done
      | .region region :: rest =>
          rw [readFrom_copied (nextToken?_region hlexed)]
          exact .region (hshorter rest (Nat.lt_succ_self _) hlexed.tail _)
      | .char c :: rest =>
          by_cases hopen : c = '{'
          · subst hopen
            exact reading_openingBrace hlexed hshorter offset
          by_cases hclose : c = '}'
          · subst hclose
            rw [readFrom_fault (nextToken?_char hlexed)]
            exact .strayClosingBrace
          by_cases hquestion : c = '?'
          · subst hquestion
            exact reading_questionMark hlexed hshorter offset
          · exact reading_other hlexed (by simp [hopen, hclose, hquestion]) hshorter offset

/-- **Every text is read by the rules**, wherever its first character stands. -/
theorem reading_readFrom (offset : Nat) (text : List Char) :
    Reading offset (lexemes text) (Template.readFrom offset text) := by
  have hreading := readableBelow _ (lexemes text) (Nat.lt_succ_self _) (lexed_lexemes text) offset
  rwa [flatMap_text_lexemes] at hreading

theorem reading_read (text : List Char) : Reading 0 (lexemes text) (Template.read text) :=
  reading_readFrom 0 text

end SqlTemplate
