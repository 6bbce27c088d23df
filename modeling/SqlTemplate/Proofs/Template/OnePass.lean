import SqlTemplate.Proofs.Template.FaultFree

/-!
# Reading a template in one pass

`readOnce?` builds the tree of a well-formed template in a single pass from left
to right, with a stack of the blocks that are open.  No block is cut out, no
content is divided, and nothing is read twice.  For a well-formed template it
gives the tree that `Template.read` puts together from its pieces
(`readOnce?_eq_read`).

## Strategy

The statement for the induction is about a part of the template: from any stack
and any nodes that stand in front, the pass goes through the lexemes of the part
and leaves behind the nodes that the part is read as (`stackRead?_of_reading`).
Two things depend on what is around the part, and `Fits` keeps track of them.

* A bar ends an alternative inside a block and is a character elsewhere.  The
  pieces of a block have no bars of their own, so it is met only between pieces.
* A question mark at the end of a piece is followed by a bar or a brace.  The bar
  would be a tag elsewhere, but not inside a block.
-/

namespace SqlTemplate

/-- A block whose closing brace has not been reached. -/
structure OpenBlock where
  /-- What stands in front of the block, the latest node first. -/
  before : List Node
  gated : Bool
  /-- The alternatives that have been ended by a bar, the latest one first. -/
  finished : List (List Node)

/-- Ends an alternative, of which the latest node comes first. -/
def OpenBlock.finish (block : OpenBlock) (current : List Node) : OpenBlock :=
  { block with finished := current.reverse :: block.finished }

/-- The node of a block that is closed after its last alternative. -/
def OpenBlock.close (block : OpenBlock) (current : List Node) : Node :=
  .block block.gated (block.finish current).finished.reverse

/-- The pass over lexemes.  It holds the open blocks, the innermost one first, and
the nodes of the innermost alternative so far, the latest one first. -/
def stackRead? : List OpenBlock → List Node → List Lexeme → Option Template
  | [], current, [] => some current.reverse
  | _ :: _, _, [] => none
  | stack, current, .region region :: rest =>
      stackRead? stack (.verbatim region.text :: current) rest
  | stack, current, .char '{' :: .char '}' :: rest =>
      stackRead? stack (.verbatim ['{', '}'] :: current) rest
  | stack, current, .char '{' :: .char '?' :: rest =>
      stackRead? (⟨current, true, []⟩ :: stack) [.verbatim [' ']] rest
  | stack, current, .char '{' :: rest => stackRead? (⟨current, false, []⟩ :: stack) [] rest
  | [], _, .char '}' :: _ => none
  | block :: stack, current, .char '}' :: rest =>
      stackRead? stack (block.close current :: block.before) rest
  | block :: stack, current, .char '|' :: rest =>
      stackRead? (block.finish current :: stack) [] rest
  | stack, current, .char '?' :: .char c :: rest =>
      if c ∈ Tag.characters ∧ ¬ (c = '|' ∧ ¬ stack.isEmpty) then
        stackRead? stack (.placeholder (.ofName (String.singleton c)) :: current) rest
      else stackRead? stack (.placeholder .plain :: current) (.char c :: rest)
  | stack, current, .char '?' :: rest => stackRead? stack (.placeholder .plain :: current) rest
  | stack, current, .char c :: rest => stackRead? stack (.verbatim [c] :: current) rest

/-- Reads a template in one pass; there is no answer if it is not well formed. -/
def readOnce? (text : List Char) : Option Template :=
  (pass? text).bind (stackRead? [] [])

/-! ## Steps of the pass -/

section

variable {stack : List OpenBlock} {current : List Node} {rest : List Lexeme}

theorem stackRead?_region (region : Region) :
    stackRead? stack current (.region region :: rest) =
      stackRead? stack (.verbatim region.text :: current) rest := by
  cases stack <;> rfl

theorem stackRead?_emptyBlock :
    stackRead? stack current (.char '{' :: .char '}' :: rest) =
      stackRead? stack (.verbatim ['{', '}'] :: current) rest := by
  cases stack <;> rfl

/-- A block that is not empty is opened, and the mark of its gate leaves a space. -/
theorem stackRead?_openBlock {inside : List Lexeme} (h : inside ≠ []) (hbalanced : balanced 0 inside) :
    stackRead? stack current (.char '{' :: (inside ++ rest)) =
      stackRead? (⟨current, (gateOf inside).1, []⟩ :: stack) [] ((gateOf inside).2 ++ rest) := by
  obtain ⟨first, more, rfl⟩ := List.exists_cons_of_ne_nil h
  by_cases hgate : first = .char '?'
  · subst hgate
    simp [stackRead?, gateOf]
  · have hopen : gateOf (first :: more) = (false, first :: more) := by
      rw [gateOf]
      exact fun more heq => hgate (List.cons.inj heq).1
    have hclose : first ≠ .char '}' := by
      rintro rfl
      simp [balanced] at hbalanced
    rw [hopen, List.cons_append, stackRead?]
    · exact fun after heq => hclose (List.cons.inj heq).1
    · exact fun after heq => hgate (List.cons.inj heq).1

theorem stackRead?_close (block : OpenBlock) :
    stackRead? (block :: stack) current (.char '}' :: rest) =
      stackRead? stack (block.close current :: block.before) rest := rfl

theorem stackRead?_bar (block : OpenBlock) :
    stackRead? (block :: stack) current (.char '|' :: rest) =
      stackRead? (block.finish current :: stack) [] rest := rfl

theorem stackRead?_tagged {c : Char} (htag : c ∈ Tag.characters) (hbar : stack ≠ [] → c ≠ '|') :
    stackRead? stack current (.char '?' :: .char c :: rest) =
      stackRead? stack (.placeholder (.ofName (String.singleton c)) :: current) rest := by
  have hblock : ¬ (c = '|' ∧ ¬ stack.isEmpty) := by
    rw [List.isEmpty_iff]
    exact fun hc => hbar hc.2 hc.1
  rw [stackRead?, if_pos ⟨htag, hblock⟩]

theorem stackRead?_untagged
    (htag : ∀ c after, rest = .char c :: after → c ∈ Tag.characters → c = '|' ∧ stack ≠ []) :
    stackRead? stack current (.char '?' :: rest) =
      stackRead? stack (.placeholder .plain :: current) rest := by
  match rest with
  | [] => simp [stackRead?]
  | .region region :: after => simp [stackRead?]
  | .char c :: after =>
      rw [stackRead?, if_neg]
      rintro ⟨hmem, hblock⟩
      rw [List.isEmpty_iff] at hblock
      exact hblock (htag c after rfl hmem)

/-- The pass closes a block at a closing brace and refuses one where no block is open. -/
theorem ne_closingBrace_of_cases {c : Char} (hempty : stack = [] → c = '}' → False)
    (hblock : ∀ block outer, stack = block :: outer → c = '}' → False) : c ≠ '}' := by
  cases stack with
  | nil => exact hempty rfl
  | cons block outer => exact hblock block outer rfl

theorem ne_bar_of_cases {c : Char} (hbar : ∀ block outer, stack = block :: outer → c = '|' → False)
    (hstack : stack ≠ []) : c ≠ '|' := by
  obtain ⟨block, outer, rfl⟩ := List.exists_cons_of_ne_nil hstack
  exact hbar block outer rfl

theorem stackRead?_plain {c : Char} (hplain : c ∉ ['{', '}', '?']) (hbar : stack ≠ [] → c ≠ '|') :
    stackRead? stack current (.char c :: rest) =
      stackRead? stack (.verbatim [c] :: current) rest := by
  simp only [List.mem_cons, List.not_mem_nil, or_false, not_or] at hplain
  rw [stackRead?]
  all_goals (intros; simp_all)

end

/-! ## What may stand around a part -/

/-- Whether lexemes may stand where a stack of blocks is open and other lexemes
follow: at the outermost level they may be the rest of the template, and everywhere
they may be a part without a bar of its own, in front of a character that is no tag. -/
def Fits (stack : List OpenBlock) (parts tail : List Lexeme) : Prop :=
  (stack = [] ∧ tail = [] ∧ balanced 0 parts) ∨
    (isAlternative 0 parts ∧ ∃ c rest, tail = .char c :: rest ∧
      (c ∈ Tag.characters → c = '|' ∧ stack ≠ []))

namespace Fits

variable {stack : List OpenBlock} {parts tail : List Lexeme}

theorem braces (h : Fits stack parts tail) : balanced 0 parts := by
  rcases h with ⟨-, -, hbalanced⟩ | ⟨halternative, -⟩
  · exact hbalanced
  · exact balanced_of_isAlternative halternative

theorem ne_bar {lexeme : Lexeme} (h : Fits stack (lexeme :: parts) tail) :
    stack ≠ [] → lexeme ≠ .char '|' := by
  rintro hstack rfl
  rcases h with ⟨rfl, -, -⟩ | ⟨halternative, -⟩
  · exact hstack rfl
  · simp [isAlternative] at halternative

theorem cons {lexeme : Lexeme} (h : Fits stack (lexeme :: parts) tail)
    (hopen : lexeme ≠ .char '{') (hclose : lexeme ≠ .char '}') : Fits stack parts tail := by
  rcases h with ⟨hstack, htail, hbalanced⟩ | ⟨halternative, htail⟩
  · rw [balanced_cons hopen hclose] at hbalanced
    exact Or.inl ⟨hstack, htail, hbalanced⟩
  · have hbar : lexeme ≠ .char '|' := by
      rintro rfl
      simp [isAlternative] at halternative
    rw [isAlternative_cons hopen hclose hbar] at halternative
    exact Or.inr ⟨halternative, htail⟩

theorem after_block (inside : List Lexeme)
    (h : Fits stack (.char '{' :: (inside ++ .char '}' :: parts)) tail)
    (hinside : balanced 0 inside) : Fits stack parts tail := by
  rcases h with ⟨hstack, htail, hbalanced⟩ | ⟨halternative, htail⟩
  · have hparts : balanced 0 parts = true :=
      (balanced_append_closing 0 parts hinside).symm.trans hbalanced
    exact Or.inl ⟨hstack, htail, hparts⟩
  · have hparts : isAlternative 0 parts = true :=
      (isAlternative_append_closing 0 parts hinside).symm.trans halternative
    exact Or.inr ⟨hparts, htail⟩

/-- What follows a part is no tag, except for the bar that is none in a block. -/
theorem bar_of_tag {c : Char} {rest : List Lexeme} (h : Fits stack parts (.char c :: rest))
    (htag : c ∈ Tag.characters) : c = '|' ∧ stack ≠ [] := by
  rcases h with ⟨-, htail, -⟩ | ⟨-, d, after, htail, hd⟩
  · simp at htail
  · obtain ⟨hc, -⟩ := List.cons.inj htail
    obtain rfl := Lexeme.char.inj hc
    exact hd htag

end Fits

/-! ## From the rules of reading to the pass -/

/-- The pass over the pieces of a block, once it goes through each of them as it
should. -/
theorem stackRead?_pieces {pieces : List (List Lexeme)} (hpieces : pieces ≠ [])
    (halternative : ∀ piece ∈ pieces, isAlternative 0 piece)
    (hread : ∀ piece ∈ pieces, ∀ stack current tail, Fits stack piece tail →
      stackRead? stack current (piece ++ tail) =
        stackRead? stack ((Template.read (piece.flatMap Lexeme.text)).reverse ++ current) tail)
    (block : OpenBlock) (stack : List OpenBlock) (tail : List Lexeme) :
    stackRead? (block :: stack) [] ([Lexeme.char '|'].intercalate pieces ++ .char '}' :: tail) =
      stackRead? stack (.block block.gated (block.finished.reverse ++
        pieces.map fun piece => Template.read (piece.flatMap Lexeme.text)) :: block.before) tail := by
  induction pieces generalizing block with
  | nil => exact absurd rfl hpieces
  | cons first others ih =>
      have hfits : ∀ c rest, c = '|' ∨ c = '}' → Fits (block :: stack) first (.char c :: rest) := by
        intro c rest hc
        refine Or.inr ⟨halternative first (List.mem_cons_self ..), c, rest, rfl, ?_⟩
        rcases hc with rfl | rfl
        · exact fun _ => ⟨rfl, List.cons_ne_nil _ _⟩
        · exact fun htag => absurd htag (by simp [Tag.characters])
      have hfirst := hread first (List.mem_cons_self ..) (block :: stack) []
      cases others with
      | nil =>
          rw [List.intercalate_singleton, hfirst _ (hfits _ _ (Or.inr rfl)), stackRead?_close]
          simp [OpenBlock.close, OpenBlock.finish]
      | cons second more =>
          rw [List.intercalate_cons_cons, List.append_assoc, List.append_assoc,
            List.singleton_append, hfirst _ (hfits _ _ (Or.inl rfl)), stackRead?_bar,
            ih (by simp) (fun piece hpiece => halternative piece (List.mem_cons_of_mem _ hpiece))
              (fun piece hpiece => hread piece (List.mem_cons_of_mem _ hpiece))]
          simp [OpenBlock.finish]

/-- The pass goes through a part of a template and leaves behind the nodes that
the part is read as. -/
theorem stackRead?_of_reading {offset : Nat} {parts : List Lexeme} {nodes : Template}
    (h : Reading offset parts nodes) (hsettled : settled parts) (stack : List OpenBlock)
    (current : List Node) (tail : List Lexeme) (hfits : Fits stack parts tail) :
    stackRead? stack current (parts ++ tail) = stackRead? stack (nodes.reverse ++ current) tail := by
  induction h generalizing stack current tail with
  | done => rfl
  | region _ ih =>
      rw [List.cons_append, stackRead?_region,
        ih hsettled _ _ _ (hfits.cons (by simp) (by simp))]
      simp
  | @plain _ c _ _ hplain hopening _ ih =>
      have hbraces : c ≠ '{' ∧ c ≠ '}' := by
        constructor <;> rintro rfl <;> simp at hplain
      have hbar : stack ≠ [] → c ≠ '|' := by simpa using hfits.ne_bar
      rw [List.cons_append, stackRead?_plain hplain hbar,
        ih (settled_of_cons hsettled) _ _ _ (hfits.cons (by simp [hbraces]) (by simp [hbraces]))]
      simp
  | @emptyBlock _ parts _ _ ih =>
      have hparts : Fits stack parts tail := hfits.after_block [] rfl
      rw [List.cons_append, List.cons_append, stackRead?_emptyBlock,
        ih (settled_of_cons (settled_of_cons hsettled)) _ _ _ hparts]
      simp
  | @untagged _ parts _ htag _ ih =>
      have hparts := hfits.cons (by simp) (by simp)
      rw [List.cons_append, stackRead?_untagged, ih (settled_of_cons hsettled) _ _ _ hparts]
      · simp
      · -- what comes next may be the rest of the part or what stands behind it
        intro c after hafter hmem
        cases parts with
        | nil =>
            rw [List.nil_append] at hafter
            exact (hafter ▸ hparts).bar_of_tag hmem
        | cons lexeme more =>
            obtain ⟨rfl, -⟩ := List.cons.inj hafter
            exact absurd hmem (htag c more rfl)
  | @tagged _ c _ _ htag _ ih =>
      have hbraces : c ≠ '{' ∧ c ≠ '}' := by
        constructor <;> rintro rfl <;> simp [Tag.characters] at htag
      have hparts := hfits.cons (by simp) (by simp)
      have hbar : stack ≠ [] → c ≠ '|' := by simpa using hparts.ne_bar
      rw [List.cons_append, List.cons_append, stackRead?_tagged htag hbar,
        ih (settled_of_cons (settled_of_cons hsettled)) _ _ _
          (hparts.cons (by simp [hbraces]) (by simp [hbraces]))]
      simp
  | @block _ inside parts nodes hinside hbalanced _ _ ihpieces ih =>
      rw [settled_block, Bool.and_eq_true] at hsettled
      have hpieces := settled_barPieces inside
      rw [hsettled.1, List.all_eq_true] at hpieces
      -- open the block, go through its pieces and the bars between them, and close it
      rw [List.cons_append, List.append_assoc, List.cons_append,
        stackRead?_openBlock hinside hbalanced, ← intercalate_barPieces 0 (gateOf inside).2,
        stackRead?_pieces (barPieces_ne_nil _ _)
          (fun piece => isAlternative_of_mem_barPieces (balanced_gateOf.trans hbalanced))
          (fun piece hpiece => ihpieces piece hpiece (hpieces piece hpiece)),
        ih hsettled.2 _ _ _ (hfits.after_block inside hbalanced), intercalate_barPieces]
      simp
  | @unclosedBlock _ parts hopen =>
      have hbraces : balanced 0 (.char '{' :: parts) = false :=
        not_balanced_of_closingBrace? 0 0 hopen
      simp [hfits.braces] at hbraces
  | strayClosingBrace => exact absurd hfits.braces (by simp [balanced])
  | unclosedRegion hopening => simp [settled, hopening] at hsettled

/-- **One pass is enough.**  The tree that one pass builds of a well-formed template
is the tree that is put together from its pieces. -/
theorem readOnce?_eq_read {text : List Char} (h : wellFormed text) :
    readOnce? text = some (Template.read text) := by
  have hpass := pass?_of_wellFormed h
  rw [wellFormed_eq, Bool.and_eq_true] at h
  have hread := stackRead?_of_reading (reading_read text) h.1 [] [] [] (Or.inl ⟨rfl, rfl, h.2⟩)
  rw [List.append_nil, List.append_nil] at hread
  rw [readOnce?, hpass, Option.bind_some, hread, stackRead?, List.reverse_reverse]

/-! ## What the pass refuses -/

/-- The pass ends with an empty stack, so it has seen a closing brace for each block
that was open. -/
theorem balanced_of_stackRead? {stack : List OpenBlock} {current : List Node}
    {parts : List Lexeme} {nodes : Template} (h : stackRead? stack current parts = some nodes) :
    balanced stack.length parts := by
  fun_induction stackRead? stack current parts with
  | case1 => rfl
  | case2 => cases h
  | case3 _ _ _ _ ih =>
      rw [balanced_cons (by simp) (by simp)]
      exact ih h
  | case4 _ _ _ ih => exact ih h
  | case5 _ _ _ ih =>
      rw [balanced, balanced_cons (by simp) (by simp)]
      exact ih h
  | case6 _ _ _ _ _ ih => exact ih h
  | case7 => cases h
  | case8 _ _ _ _ ih => exact ih h
  | case9 _ _ _ _ ih =>
      rw [balanced_cons (by simp) (by simp)]
      exact ih h
  | case10 stack _ c _ htag ih =>
      have hbraces : c ≠ '{' ∧ c ≠ '}' := by
        constructor <;> rintro rfl <;> simp [Tag.characters] at htag
      rw [balanced_cons (by simp) (by simp), balanced_cons (by simp [hbraces]) (by simp [hbraces])]
      exact ih h
  | case11 _ _ _ _ _ ih =>
      rw [balanced_cons (by simp) (by simp)]
      exact ih h
  | case12 _ _ _ _ ih =>
      rw [balanced_cons (by simp) (by simp)]
      exact ih h
  | case13 stack _ c _ _ _ hopen hempty hblock _ _ _ ih =>
      have hclose := ne_closingBrace_of_cases hempty hblock
      rw [balanced_cons (by simpa using hopen) (by simpa using hclose)]
      exact ih h

/-- There is a tree exactly of the well-formed templates. -/
theorem isSome_readOnce? (text : List Char) : (readOnce? text).isSome = wellFormed text := by
  cases hformed : wellFormed text with
  | true => rw [readOnce?_eq_read hformed, Option.isSome_some]
  | false =>
      rw [Option.isSome_eq_false_iff, Option.isNone_iff_eq_none, readOnce?]
      cases hpass : pass? text with
      | none => rfl
      | some parts =>
          -- all regions are closed, so it is the braces that do not balance
          rw [wellFormed, hpass, Option.any_some] at hformed
          rw [Option.bind_some, Option.eq_none_iff_forall_not_mem]
          intro nodes hnodes
          have hbalanced : balanced 0 parts = true := balanced_of_stackRead? hnodes
          rw [hbalanced] at hformed
          cases hformed

end SqlTemplate
