import SqlTemplate.Proofs.Template.FaultFree

/-!
# Where the problem of a fault is

A fault says how many characters stand in front of its problem.  They are counted
from the start of the text that was being read, which is the template or an
alternative of a block.  This file finds the problem in the template itself
(`site_of_mem_faults`).

* A brace that has no partner is never inside of a block, since a block is closed by
  a brace of its own and its alternatives are balanced.  Its offset is its place in
  the template.
* A region that is never closed may be anywhere.  Outside of all blocks its offset is
  its place; inside of a block the count begins behind the brace that opens the block,
  or behind the last bar of the block in front of the region.

The proof follows the reading of the template.  An alternative is cut out of the
content of its block at bars, and the only character that is changed on the way is the
mark of a gate, which starts no problem (`Leading.of_gateOf`).
-/

namespace SqlTemplate

mutual

/-- The faults in a node, at any depth. -/
def Node.faults : Node → List Fault
  | .verbatim _ | .placeholder _ => []
  | .block _ alternatives => Template.allFaults alternatives
  | .fault fault => [fault]

/-- The faults in a template, at any depth. -/
def Template.faults : List Node → List Fault
  | [] => []
  | node :: rest => node.faults ++ Template.faults rest

/-- The faults in several templates. -/
def Template.allFaults : List (List Node) → List Fault
  | [] => []
  | template :: rest => Template.faults template ++ Template.allFaults rest

end

theorem exists_of_mem_allFaults {alternatives : List (List Node)} {fault : Fault}
    (h : fault ∈ Template.allFaults alternatives) :
    ∃ alternative ∈ alternatives, fault ∈ Template.faults alternative := by
  induction alternatives with
  | nil => cases h
  | cons first rest ih =>
      rw [Template.allFaults, List.mem_append] at h
      rcases h with hfirst | hrest
      · exact ⟨first, List.mem_cons_self .., hfirst⟩
      · obtain ⟨alternative, hmem, hfault⟩ := ih hrest
        exact ⟨alternative, List.mem_cons_of_mem _ hmem, hfault⟩

/-! ## Places among lexemes -/

/-- Whether a problem starts with a character that stands in front of the given
lexemes. -/
def Problem.StartsWith : Problem → Char → List Lexeme → Prop
  | .unclosedRegion kind, c, after =>
      RegionKind.ofOpening? (c :: after.flatMap Lexeme.text) = some kind
  | .unclosedBlock, c, after => c = '{' ∧ closingBrace? 1 after = none
  | .strayClosingBrace, c, _ => c = '}'

/-- The problem lies outside of all blocks, and its offset is counted from the first
of the lexemes, which has the given offset. -/
def Outermost (offset : Nat) (parts : List Lexeme) (fault : Fault) : Prop :=
  ∃ inside c after, parts = inside ++ .char c :: after ∧ balanced 0 inside ∧
    fault.problem.StartsWith c after ∧ fault.offset = offset + (inside.flatMap Lexeme.text).length

/-- A region in the alternative that the lexemes begin with is never closed, and the
offset of the region is counted from the first of the lexemes. -/
def Leading (parts : List Lexeme) (fault : Fault) : Prop :=
  ∃ inside c after kind, parts = inside ++ .char c :: after ∧ isAlternative 0 inside ∧
    RegionKind.ofOpening? (c :: after.flatMap Lexeme.text) = some kind ∧
    fault = ⟨.unclosedRegion kind, (inside.flatMap Lexeme.text).length⟩

/-- A region inside of a block is never closed, and its offset is counted from the
start of the innermost alternative around it. -/
def InBlock (parts : List Lexeme) (fault : Fault) : Prop :=
  ∃ front mark rest, parts = front ++ .char mark :: rest ∧ (mark = '{' ∨ mark = '|') ∧
    Leading rest fault

/-! ### Braces in front of a place -/

theorem balanced_zero_append {front : List Lexeme} (back : List Lexeme) (h : balanced 0 front) :
    balanced 0 (front ++ back) = balanced 0 back := by
  have hdepth := balanced_append 0 back h
  rwa [Nat.add_zero] at hdepth

theorem balanced_block {inside : List Lexeme} (h : balanced 0 inside) :
    balanced 0 (.char '{' :: (inside ++ [.char '}'])) :=
  balanced_append_closing 0 [] h

/-- Where no bar stands outside of the inner blocks, none stands in front. -/
theorem isAlternative_of_append {depth : Nat} {front back : List Lexeme}
    (h : isAlternative depth (front ++ back)) (hfront : balanced depth front) :
    isAlternative depth front := by
  fun_induction isAlternative depth front with
  | case1 depth => simpa [balanced] using hfront
  | case2 depth rest ih =>
      rw [List.cons_append, isAlternative] at h
      exact ih h hfront
  | case3 => simp [balanced] at hfront
  | case4 depth rest ih =>
      rw [List.cons_append, isAlternative] at h
      exact ih h hfront
  | case5 rest => simp [isAlternative] at h
  | case6 depth lexeme rest hopen hzero hsucc hbar ih =>
      have hclose := ne_closing hzero hsucc
      rw [balanced_cons hopen hclose] at hfront
      refine ih ?_ hfront
      cases depth with
      | zero => rwa [List.cons_append, isAlternative_cons hopen hclose (hbar rfl)] at h
      | succ depth => rwa [List.cons_append, isAlternative_succ_cons hopen hclose] at h

/-! ### Moving a place to a longer text -/

theorem ofOpening?_of_append {front : List Char} {kind : RegionKind} (back : List Char)
    (h : RegionKind.ofOpening? front = some kind) :
    RegionKind.ofOpening? (front ++ back) = some kind := by
  rw [ofOpening?_eq_some_iff] at h ⊢
  exact h.trans (List.prefix_append front back)

variable {parts front back : List Lexeme} {fault : Fault} {offset : Nat}

/-- Lexemes that are balanced may stand in front of a problem outside of all blocks. -/
theorem Outermost.append_left
    (h : Outermost (offset + (front.flatMap Lexeme.text).length) parts fault)
    (hfront : balanced 0 front) : Outermost offset (front ++ parts) fault := by
  obtain ⟨inside, c, after, rfl, hinside, hstarts, hoffset⟩ := h
  refine ⟨front ++ inside, c, after, (List.append_assoc ..).symm, ?_, hstarts, ?_⟩
  · rw [balanced_zero_append inside hfront]
    exact hinside
  · rw [hoffset, List.flatMap_append, List.length_append, Nat.add_assoc]

theorem Leading.append_right (h : Leading parts fault) (back : List Lexeme) :
    Leading (parts ++ back) fault := by
  obtain ⟨inside, c, after, kind, rfl, hinside, hopening, rfl⟩ := h
  refine ⟨inside, c, after ++ back, kind, by simp, hinside, ?_, rfl⟩
  rw [List.flatMap_append, ← List.cons_append]
  exact ofOpening?_of_append _ hopening

theorem InBlock.append_left (h : InBlock parts fault) (front : List Lexeme) :
    InBlock (front ++ parts) fault := by
  obtain ⟨before, mark, rest, rfl, hmark, hrest⟩ := h
  exact ⟨front ++ before, mark, rest, (List.append_assoc ..).symm, hmark, hrest⟩

theorem InBlock.append_right (h : InBlock parts fault) (back : List Lexeme) :
    InBlock (parts ++ back) fault := by
  obtain ⟨before, mark, rest, rfl, hmark, hrest⟩ := h
  exact ⟨before, mark, rest ++ back, by simp, hmark, hrest.append_right back⟩

/-- A problem at the outermost level of an alternative is a region, because the braces
of an alternative are balanced. -/
theorem Outermost.leading (h : Outermost 0 parts fault) (hparts : isAlternative 0 parts) :
    Leading parts fault := by
  obtain ⟨inside, c, after, rfl, hinside, hstarts, hoffset⟩ := h
  have hbraces := balanced_of_isAlternative hparts
  rw [balanced_zero_append _ hinside] at hbraces
  obtain ⟨problem, place⟩ := fault
  rw [Nat.zero_add] at hoffset
  subst hoffset
  cases problem with
  | unclosedRegion kind =>
      exact ⟨inside, c, after, kind, rfl, isAlternative_of_append hparts hinside, hstarts, rfl⟩
  | unclosedBlock =>
      obtain ⟨rfl, hopen⟩ := hstarts
      have hunbalanced : balanced 0 (.char '{' :: after) = false :=
        not_balanced_of_closingBrace? 0 0 hopen
      rw [hunbalanced] at hbraces
      cases hbraces
  | strayClosingBrace =>
      obtain rfl : c = '}' := hstarts
      cases hbraces

/-! ### From an alternative to its block -/

theorem exists_of_mem_intercalate_bar {piece : List Lexeme} {pieces : List (List Lexeme)}
    (h : piece ∈ pieces) :
    ∃ front back, [Lexeme.char '|'].intercalate pieces = front ++ (piece ++ back) ∧
      (front = [] ∨ ∃ more, front = more ++ [.char '|']) := by
  induction pieces with
  | nil => cases h
  | cons first others ih =>
      cases others with
      | nil =>
          obtain rfl := List.mem_singleton.1 h
          exact ⟨[], [], by simp, Or.inl rfl⟩
      | cons second more =>
          rw [List.intercalate_cons_cons]
          rcases List.mem_cons.1 h with rfl | hothers
          · exact ⟨[], _, by rw [List.nil_append, List.append_assoc], Or.inl rfl⟩
          · obtain ⟨front, back, hjoin, hfront⟩ := ih hothers
            refine ⟨first ++ [.char '|'] ++ front, back, by simp [hjoin], Or.inr ?_⟩
            rcases hfront with rfl | ⟨before, rfl⟩
            · exact ⟨first, List.append_nil _⟩
            · exact ⟨first ++ [.char '|'] ++ before, (List.append_assoc ..).symm⟩

/-- The space in place of a gate's mark starts no problem, and it is as long as the
mark. -/
theorem Leading.of_gateOf {inside : List Lexeme} (h : Leading (gateOf inside).2 fault) :
    Leading inside fault := by
  unfold gateOf at h
  split at h
  · next rest =>
      obtain ⟨before, c, after, kind, hsplit, hbefore, hopening, rfl⟩ := h
      cases before with
      | nil =>
          obtain ⟨hc, -⟩ := List.cons.inj hsplit
          obtain rfl := Lexeme.char.inj hc
          rw [ofOpening?_eq_none (by simp [openingMarks])] at hopening
          cases hopening
      | cons lexeme more =>
          obtain ⟨rfl, rfl⟩ := List.cons.inj hsplit
          rw [isAlternative_cons (by simp) (by simp) (by simp)] at hbefore
          refine ⟨.char '?' :: more, c, after, kind, rfl, ?_, hopening, rfl⟩
          rwa [isAlternative_cons (by simp) (by simp) (by simp)]
  · exact h

theorem InBlock.of_gateOf {inside : List Lexeme} (h : InBlock (gateOf inside).2 fault) :
    InBlock inside fault := by
  unfold gateOf at h
  split at h
  · next rest =>
      obtain ⟨before, mark, behind, hsplit, hmark, hbehind⟩ := h
      cases before with
      | nil =>
          obtain ⟨hspace, -⟩ := List.cons.inj hsplit
          obtain rfl := Lexeme.char.inj hspace
          simp at hmark
      | cons lexeme more =>
          obtain ⟨rfl, rfl⟩ := List.cons.inj hsplit
          exact ⟨.char '?' :: more, mark, behind, rfl, hmark, hbehind⟩
  · exact h

/-- A problem of an alternative is a problem inside of its block. -/
theorem inBlock_of_mem_barPieces {inside piece : List Lexeme} (hinside : balanced 0 inside)
    (hpiece : piece ∈ barPieces 0 (gateOf inside).2)
    (h : Outermost 0 piece fault ∨ InBlock piece fault) :
    InBlock (.char '{' :: inside) fault := by
  obtain ⟨front, back, hjoin, hfront⟩ := exists_of_mem_intercalate_bar hpiece
  rw [intercalate_barPieces] at hjoin
  have hcontent : Leading (gateOf inside).2 fault ∨ InBlock (gateOf inside).2 fault := by
    rw [hjoin]
    rcases h with houter | hinner
    · have hleading := (houter.leading (isAlternative_of_mem_barPieces
        (balanced_gateOf.trans hinside) hpiece)).append_right back
      rcases hfront with rfl | ⟨more, rfl⟩
      · exact Or.inl hleading
      · exact Or.inr ⟨more, '|', piece ++ back, by simp, Or.inr rfl, hleading⟩
    · exact Or.inr ((hinner.append_right back).append_left front)
  rcases hcontent with hleading | hinner
  · exact ⟨[], '{', inside, rfl, Or.inl rfl, hleading.of_gateOf⟩
  · exact hinner.of_gateOf.append_left [.char '{']

/-! ## Every fault has its place -/

/-- The two ways for the problem of a fault to stand among lexemes. -/
def Site (offset : Nat) (parts : List Lexeme) (fault : Fault) : Prop :=
  Outermost offset parts fault ∨ InBlock parts fault

theorem Site.append_left (front : List Lexeme)
    (h : Site (offset + (front.flatMap Lexeme.text).length) parts fault)
    (hfront : balanced 0 front) : Site offset (front ++ parts) fault := by
  rcases h with houter | hinner
  · exact Or.inl (houter.append_left hfront)
  · exact Or.inr (hinner.append_left front)

theorem Site.starts {problem : Problem} {c : Char} {after : List Lexeme}
    (h : problem.StartsWith c after) : Site offset (.char c :: after) ⟨problem, offset⟩ :=
  Or.inl ⟨[], c, after, rfl, rfl, h, rfl⟩

theorem site_of_reading {nodes : Template} (h : Reading offset parts nodes)
    (hfault : fault ∈ Template.faults nodes) : Site offset parts fault := by
  induction h generalizing fault with
  | done => cases hfault
  | @region _ region _ _ _ ih =>
      have hrest := ih hfault
      exact Site.append_left [.region region] (by simpa [Lexeme.text] using hrest) rfl
  | @plain _ c _ _ hplain _ _ ih =>
      have hrest := ih hfault
      simp only [List.mem_cons, List.not_mem_nil, or_false, not_or] at hplain
      refine Site.append_left [.char c] hrest ?_
      rw [balanced_cons (by simp [hplain]) (by simp [hplain])]
      rfl
  | emptyBlock _ ih =>
      exact Site.append_left [.char '{', .char '}'] (ih hfault) rfl
  | untagged _ _ ih =>
      exact Site.append_left [.char '?'] (ih hfault) rfl
  | @tagged _ c _ _ htag _ ih =>
      have hbraces : c ≠ '{' ∧ c ≠ '}' := by
        constructor <;> rintro rfl <;> simp [Tag.characters] at htag
      refine Site.append_left [.char '?', .char c] (ih hfault) ?_
      rw [balanced_cons (by simp) (by simp), balanced_cons (by simp [hbraces]) (by simp [hbraces])]
      rfl
  | @block _ inside parts nodes _ hbalanced _ _ ihpieces ih =>
      rw [Template.faults, Node.faults, List.mem_append] at hfault
      have hwhole : Lexeme.char '{' :: (inside ++ .char '}' :: parts) =
          .char '{' :: (inside ++ [.char '}']) ++ parts := by simp
      rcases hfault with hinner | hrest
      · obtain ⟨alternative, hmem, hfault⟩ := exists_of_mem_allFaults hinner
        obtain ⟨piece, hpiece, rfl⟩ := List.mem_map.1 hmem
        have hblock := inBlock_of_mem_barPieces hbalanced hpiece (ihpieces piece hpiece hfault)
        exact Or.inr (hblock.append_right (.char '}' :: parts))
      · have hafter := ih hrest
        rw [hwhole]
        refine Site.append_left _ ?_ (balanced_block hbalanced)
        simpa [Lexeme.text] using hafter
  | unclosedBlock hopen =>
      obtain rfl := List.mem_singleton.1 hfault
      exact .starts ⟨rfl, hopen⟩
  | strayClosingBrace =>
      obtain rfl := List.mem_singleton.1 hfault
      exact .starts rfl
  | unclosedRegion hopening =>
      obtain rfl := List.mem_singleton.1 hfault
      exact .starts hopening

/-- **Every fault has its place.**  The problem of a fault stands in the template at
the offset of the fault, or it is a region inside of a block and the offset is counted
from the start of the innermost alternative. -/
theorem site_of_mem_faults {text : List Char} (h : fault ∈ Template.faults (Template.read text)) :
    Site 0 (lexemes text) fault :=
  site_of_reading (reading_read text) h

end SqlTemplate
