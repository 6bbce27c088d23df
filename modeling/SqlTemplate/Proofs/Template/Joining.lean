import SqlTemplate.Proofs.Template.Lines
import SqlTemplate.Proofs.Template.Separators

/-!
# Templates joined at the end of a line

A template that is written on the lines behind a well formed one is read as it is read by
itself: the nodes of the first one come first, then the end of its line, then the nodes of
the second one (`readFrom_append_newline`).  The second template may have any fault.  It is
found further back then, and so the offsets of its outermost faults are moved by the length
of what stands in front (`readFrom_add`).

## Strategy

Both facts are shown of the rules of `Reading`, each of which is applied once more: to the
same lexemes at another offset, or to the same lexemes with more of them behind.  The rules
leave no choice (`Reading.eq_readFrom`), so the nodes that come of it are those that are
read from the text.
-/

namespace SqlTemplate

/-! ## The rules leave no choice -/

/-- The rules read the nodes that `readFrom` reads. -/
theorem Reading.eq_readFrom {offset : Nat} {parts : List Lexeme} {nodes : Template}
    (h : Reading offset parts nodes) (hlexed : Lexed parts) :
    nodes = Template.readFrom offset (parts.flatMap Lexeme.text) := by
  induction h with
  | done => rw [List.flatMap_nil, readFrom_nil]
  | region _ ih => rw [readFrom_copied (nextToken?_region hlexed), ih hlexed.tail]
  | plain hplain hopening _ ih =>
      have htoken := nextToken?_char hlexed
      rw [tokenAt_other _ hplain, hopening] at htoken
      rw [readFrom_copied htoken, ih hlexed.tail, List.length_singleton]
  | @emptyBlock _ parts _ _ ih =>
      have htoken := nextToken?_char hlexed
      have hempty : balanced 0 ([] : List Lexeme) := rfl
      have hblock := @tokenAt_block [] parts hlexed.tail (closingBrace?_of_balanced parts hempty)
      rw [List.nil_append, if_pos rfl] at hblock
      rw [hblock] at htoken
      rw [readFrom_copied htoken, ih hlexed.tail.tail]
      rfl
  | untagged htag _ ih =>
      have htoken := nextToken?_char hlexed
      simp only [tokenAt, split_eq_plain hlexed.tail htag] at htoken
      rw [readFrom_placeholder htoken, ih hlexed.tail]
      rfl
  | @tagged _ c parts _ htag _ ih =>
      have htoken := nextToken?_char hlexed
      simp only [tokenAt, split_eq_tagged htag] at htoken
      rw [readFrom_placeholder htoken, ih hlexed.tail.tail, Tag.name_ofName, String.length_singleton]
  | @block _ inside parts _ hinside hbalanced _ _ _ ih =>
      have htoken := nextToken?_char hlexed
      rw [tokenAt_block hlexed.tail (closingBrace?_of_balanced parts hbalanced), if_neg hinside]
        at htoken
      rw [readFrom_block htoken, ofContent_flatMap hlexed.tail.of_append,
        ih hlexed.tail.of_suffix.tail]
  | unclosedBlock hopen =>
      have htoken := nextToken?_char hlexed
      rw [tokenAt_unclosedBlock hlexed.tail hopen] at htoken
      rw [readFrom_fault htoken]
  | strayClosingBrace => rw [readFrom_fault (nextToken?_char hlexed)]
  | @unclosedRegion _ c _ _ hopening =>
      have htoken := nextToken?_char hlexed
      have hplain : c ∉ ['{', '}', '?'] := by
        intro hmem
        have hmark : c ∉ openingMarks := by
          simp only [List.mem_cons, List.not_mem_nil, or_false] at hmem
          rcases hmem with rfl | rfl | rfl <;> decide
        rw [ofOpening?_eq_none hmark] at hopening
        cases hopening
      rw [tokenAt_other _ hplain, hopening] at htoken
      rw [readFrom_fault htoken]

/-! ## Offsets -/

/-- A node of a text, seen from a place so far in front of the text. -/
def Node.moved (distance : Nat) : Node → Node
  | .fault found => .fault ⟨found.problem, distance + found.offset⟩
  | node => node

/-- At another offset only the faults outside of all blocks are found elsewhere. -/
theorem Reading.moved {offset : Nat} {parts : List Lexeme} {nodes : Template} (distance : Nat)
    (h : Reading offset parts nodes) :
    Reading (distance + offset) parts (nodes.map (Node.moved distance)) := by
  induction h with
  | done => exact .done
  | region _ ih => exact .region (by rwa [Nat.add_assoc])
  | plain hplain hopening _ ih => exact .plain hplain hopening (by rwa [Nat.add_assoc])
  | emptyBlock _ ih => exact .emptyBlock (by rwa [Nat.add_assoc])
  | untagged htag _ ih => exact .untagged htag (by rwa [Nat.add_assoc])
  | tagged htag _ ih => exact .tagged htag (by rwa [Nat.add_assoc])
  | block hinside hbalanced hpieces _ _ ih =>
      exact .block hinside hbalanced hpieces (by rwa [Nat.add_assoc])
  | unclosedBlock hopen => exact .unclosedBlock hopen
  | strayClosingBrace => exact .strayClosingBrace
  | unclosedRegion hopening => exact .unclosedRegion hopening

theorem readFrom_add (distance offset : Nat) (text : List Char) :
    Template.readFrom (distance + offset) text =
      (Template.readFrom offset text).map (Node.moved distance) := by
  have hmoved := ((reading_readFrom offset text).moved distance).eq_readFrom (lexed_lexemes text)
  rw [hmoved, flatMap_text_lexemes]

/-! ## The lines behind a template -/

/-- Behind lexemes without faults, the lexemes of the next lines are read as they are read
alone. -/
theorem Reading.append_newline {offset : Nat} {parts : List Lexeme} {nodes : Template}
    (h : Reading offset parts nodes) (hsettled : settled parts) (hbalanced : balanced 0 parts)
    {others : List Lexeme} {more : Nat → Template}
    (hothers : ∀ offset, Reading offset others (more offset)) :
    Reading offset (parts ++ .char '\n' :: others)
      (nodes ++ .verbatim ['\n'] :: more (offset + (parts.flatMap Lexeme.text).length + 1)) := by
  induction h with
  | done => exact .plain (by decide) (ofOpening?_eq_none (by decide) _) (hothers _)
  | region _ ih =>
      have hrest := ih hsettled (by rwa [balanced_cons (by simp) (by simp)] at hbalanced)
      rw [List.flatMap_cons, List.length_append, ← Nat.add_assoc]
      exact .region hrest
  | @plain _ c parts _ hplain hopening _ ih =>
      have hbraces : Lexeme.char c ≠ .char '{' ∧ Lexeme.char c ≠ .char '}' := by
        simp only [List.mem_cons, List.not_mem_nil, or_false, not_or] at hplain
        simp [hplain]
      have hrest := ih (settled_of_cons hsettled)
        (by rwa [balanced_cons hbraces.1 hbraces.2] at hbalanced)
      have hlonger : RegionKind.ofOpening?
          (c :: (parts ++ .char '\n' :: others).flatMap Lexeme.text) = none := by
        rw [List.flatMap_append, List.flatMap_cons]
        exact (ofOpening?_append _ _ (by decide) (by decide)).trans hopening
      rw [List.flatMap_cons, List.length_append, ← Nat.add_assoc]
      exact .plain hplain hlonger hrest
  | emptyBlock _ ih =>
      have hrest := ih (settled_of_cons (settled_of_cons hsettled)) hbalanced
      rw [List.flatMap_cons, List.flatMap_cons, List.length_append, List.length_append,
        ← Nat.add_assoc, ← Nat.add_assoc]
      exact .emptyBlock hrest
  | @untagged _ parts _ htag _ ih =>
      have hrest := ih (settled_of_cons hsettled)
        (by rwa [balanced_cons (by simp) (by simp)] at hbalanced)
      -- the end of the line is no tag
      have hlonger : ∀ c rest, parts ++ .char '\n' :: others = .char c :: rest →
          c ∉ Tag.characters := by
        intro c rest heq
        cases parts with
        | nil =>
            obtain rfl := Lexeme.char.inj (List.cons.inj heq).1
            decide
        | cons first parts => exact htag c parts (by rw [(List.cons.inj heq).1])
      rw [List.flatMap_cons, List.length_append, ← Nat.add_assoc]
      exact .untagged hlonger hrest
  | @tagged _ c _ _ htag _ ih =>
      have hbraces : Lexeme.char c ≠ .char '{' ∧ Lexeme.char c ≠ .char '}' := by
        constructor <;> rintro ⟨⟩ <;> exact absurd htag (by decide)
      rw [balanced_cons (by simp) (by simp), balanced_cons hbraces.1 hbraces.2] at hbalanced
      have hrest := ih (settled_of_cons (settled_of_cons hsettled)) hbalanced
      rw [List.flatMap_cons, List.flatMap_cons, List.length_append, List.length_append,
        ← Nat.add_assoc, ← Nat.add_assoc]
      exact .tagged htag hrest
  | @block _ inside parts _ hinside hbraces hpieces _ _ ih =>
      rw [settled_block, Bool.and_eq_true] at hsettled
      have hrest := ih hsettled.2 ((balanced_append_closing 0 parts hbraces).symm.trans hbalanced)
      have hlength : ((Lexeme.char '{' :: (inside ++ .char '}' :: parts)).flatMap Lexeme.text).length =
          (inside.flatMap Lexeme.text).length + 2 + (parts.flatMap Lexeme.text).length := by
        simp only [List.flatMap_cons, List.flatMap_append, List.length_append, Lexeme.text,
          List.length_singleton]
        omega
      rw [hlength, ← Nat.add_assoc, List.cons_append, List.append_assoc]
      exact .block hinside hbraces hpieces hrest
  | @unclosedBlock _ parts hopen =>
      have hbraces : balanced 0 (.char '{' :: parts) = false :=
        not_balanced_of_closingBrace? 0 0 hopen
      rw [hbraces] at hbalanced
      cases hbalanced
  | strayClosingBrace => cases hbalanced
  | unclosedRegion hopening =>
      rw [settled, hopening] at hsettled
      cases hsettled

/-- **Joined at the end of a line, two templates are read one after the other**, if the first
one is well formed. -/
theorem readFrom_append_newline {front : List Char} (h : wellFormed front) (offset : Nat)
    (back : List Char) :
    Template.readFrom offset (front ++ '\n' :: back) =
      Template.readFrom offset front ++
        .verbatim ['\n'] :: Template.readFrom (offset + front.length + 1) back := by
  rw [wellFormed_eq, Bool.and_eq_true] at h
  have hlexemes := lexemes_append_cons (separates_newline h.1) back
  have hreading := (reading_readFrom offset front).append_newline h.1 h.2
    fun offset => reading_readFrom offset back
  rw [← hlexemes, flatMap_text_lexemes] at hreading
  rw [hreading.eq_readFrom (lexed_lexemes _), flatMap_text_lexemes]

end SqlTemplate
