import SqlTemplate.Proofs.Template.Lines
import SqlTemplate.Proofs.Template.OnePass
import SqlTemplate.Proofs.Template.Separators
import SqlTemplate.Proofs.Template.Slots

/-!
# A text on a line of its own

A template has a line that holds nothing but one slot.  If another text is written on that
line, what becomes of the rest of the template?  Nothing: at any depth of blocks and in any
alternative, the nodes of the text stand where the slot stood, and all other nodes are the
same (`exists_surroundings`).

## Strategy

Both templates are read in one pass, in which nothing is cut out.

* **Regions.**  No region ends with the end of a line (`getLast?_ne_newline`), so where a
  slot is outside of all regions, the end of the line in front of it is too.  And the end
  of a line separates: the pass reads what is on both sides of it independently
  (`pass?_append_newline`).
* **In front of the line.**  What the pass has built up to the end of a line does not depend
  on what is behind it, and it holds a slot for each question mark (`Settles`).
* **On the line.**  The text is read as it is read alone (`stackRead?_of_reading`), since no
  bar of it ends an alternative and no tag is cut off at the end of the line.
* **Behind the line.**  The rest of the template adds the same nodes, whatever is there
  already, as long as the same number of blocks is open (`Completes`).
-/

namespace SqlTemplate

/-! ## In front of the line -/

/-- The number of slots that the pass has gone through and that are not behind a block. -/
def openSlots (stack : List OpenBlock) (current : List Node) : Nat :=
  (stack.map fun block => Template.slotCount block.before + block.gated.toNat +
    Template.slotCountAll block.finished).sum + Template.slotCount current

theorem openSlots_cons (block : OpenBlock) (stack : List OpenBlock) (current : List Node) :
    openSlots (block :: stack) current =
      openSlots stack block.before + block.gated.toNat + Template.slotCountAll block.finished +
        Template.slotCount current := by
  simp only [openSlots, List.map_cons, List.sum_cons]
  omega

theorem openSlots_push (stack : List OpenBlock) (node : Node) (current : List Node) :
    openSlots stack (node :: current) = node.slotCount + openSlots stack current := by
  simp only [openSlots, Template.slotCount]
  omega

theorem openSlots_finish (block : OpenBlock) (stack : List OpenBlock) (current : List Node) :
    openSlots (block.finish current :: stack) [] = openSlots (block :: stack) current := by
  simp only [openSlots_cons, OpenBlock.finish, Template.slotCountAll, Template.slotCount,
    slotCount_reverse]
  omega

theorem openSlots_close (block : OpenBlock) (stack : List OpenBlock) (current : List Node) :
    openSlots stack (block.close current :: block.before) = openSlots (block :: stack) current := by
  simp only [openSlots_cons, openSlots_push, OpenBlock.close, Node.slotCount, OpenBlock.finish,
    slotCountAll_reverse, Template.slotCountAll, slotCount_reverse]
  omega

/-- What the pass makes of the lexemes up to the end of a line does not depend on what is
behind it, and the slots are all there. -/
def Settles (stack : List OpenBlock) (current : List Node) (front : List Lexeme) : Prop :=
  ∃ blocks before, openSlots blocks before = openSlots stack current + front.count (.char '?') ∧
    ∀ behind, stackRead? stack current (front ++ .char '\n' :: behind) =
      stackRead? blocks before behind

section
variable {stack further : List OpenBlock} {current following : List Node}
  {front remaining rest : List Lexeme} {nodes : Template}

/-- A step that looks only at what is in front of the end of the line. -/
theorem Settles.of_step
    (hstep : ∀ behind, stackRead? stack current (front ++ .char '\n' :: behind) =
      stackRead? further following (remaining ++ .char '\n' :: behind))
    (hslots : openSlots further following + remaining.count (.char '?') =
      openSlots stack current + front.count (.char '?'))
    (h : stackRead? stack current (front ++ .char '\n' :: rest) = some nodes)
    (ih : stackRead? further following (remaining ++ .char '\n' :: rest) = some nodes →
      Settles further following remaining) : Settles stack current front := by
  rw [hstep] at h
  obtain ⟨blocks, before, hcount, hbehind⟩ := ih h
  refine ⟨blocks, before, hcount.trans hslots, ?_⟩
  intro behind
  rw [hstep, hbehind]

theorem stackRead?_openUngated (hclose : ∀ after, rest ≠ .char '}' :: after)
    (hgate : ∀ after, rest ≠ .char '?' :: after) :
    stackRead? stack current (.char '{' :: rest) =
      stackRead? (⟨current, false, []⟩ :: stack) [] rest := by
  rw [stackRead?]
  · exact fun after heq => hclose after heq
  · exact fun after heq => hgate after heq

/-- What begins in front of a separator does not begin with something else behind it. -/
theorem append_cons_ne_cons {α : Type} {first separator : α} {front : List α}
    (hseparator : first ≠ separator) (h : ∀ more, front = first :: more → False)
    (rest more : List α) : front ++ separator :: rest ≠ first :: more := by
  intro heq
  cases front with
  | nil => exact hseparator (List.cons.inj heq).1.symm
  | cons other others => exact h others (by rw [(List.cons.inj heq).1])

theorem settles_nil : Settles stack current [] := by
  refine ⟨stack, .verbatim ['\n'] :: current, ?_, ?_⟩
  · rw [openSlots_push, Node.slotCount, Nat.zero_add, List.count_nil, Nat.add_zero]
  · intro behind
    exact stackRead?_plain (by simp) (by simp)

theorem settles_of_stackRead?
    (h : stackRead? stack current (front ++ .char '\n' :: rest) = some nodes) :
    Settles stack current front := by
  fun_induction stackRead? stack current front with
  | case1 | case2 => exact settles_nil
  | case3 stack current region remaining ih =>
      refine .of_step (fun behind => stackRead?_region region) ?_ h ih
      rw [openSlots_push, Node.slotCount, Nat.zero_add, List.count_cons_of_ne (by simp)]
  | case4 stack current remaining ih =>
      refine .of_step (fun behind => stackRead?_emptyBlock) ?_ h ih
      rw [openSlots_push, Node.slotCount, Nat.zero_add, List.count_cons_of_ne (by simp),
        List.count_cons_of_ne (by simp)]
  | case5 stack current remaining ih =>
      refine .of_step (fun behind => by rw [List.cons_append, List.cons_append, stackRead?]) ?_ h ih
      simp only [openSlots_cons, Template.slotCount, Node.slotCount, Template.slotCountAll,
        Bool.toNat_true]
      rw [List.count_cons_of_ne (by simp), List.count_cons_self]
      omega
  | case6 stack current remaining hclose hgate ih =>
      refine .of_step (fun behind => ?_) ?_ h ih
      · rw [List.cons_append]
        exact stackRead?_openUngated (append_cons_ne_cons (by simp) hclose behind)
          (append_cons_ne_cons (by simp) hgate behind)
      · rw [List.count_cons_of_ne (by simp), openSlots_cons]
        rfl
  | case7 =>
      rw [List.cons_append, stackRead?] at h
      cases h
  | case8 block stack current remaining ih =>
      refine .of_step (fun behind => stackRead?_close block) ?_ h ih
      rw [openSlots_close, List.count_cons_of_ne (by simp)]
  | case9 block stack current remaining ih =>
      refine .of_step (fun behind => stackRead?_bar block) ?_ h ih
      rw [openSlots_finish, List.count_cons_of_ne (by simp)]
  | case10 stack current c remaining htag ih =>
      have hquestion : c ≠ '?' := by
        rintro rfl
        simp [Tag.characters] at htag
      refine .of_step (fun behind => ?_) ?_ h ih
      · rw [List.cons_append, List.cons_append, stackRead?, if_pos htag]
      · rw [openSlots_push, Node.slotCount, List.count_cons_self,
          List.count_cons_of_ne (by simpa using hquestion)]
        omega
  | case11 stack current c remaining htag ih =>
      refine .of_step (fun behind => ?_) ?_ h ih
      · rw [List.cons_append, List.cons_append, stackRead?, if_neg htag]
      · rw [openSlots_push, Node.slotCount, List.count_cons_self]
        omega
  | case12 stack current remaining hchar ih =>
      refine .of_step (fun behind => stackRead?_untagged ?_) ?_ h ih
      · rintro d after heq hmem
        have : d = '\n' := by
          by_contra hd
          exact append_cons_ne_cons (by simpa using hd) (hchar d) behind after heq
        subst this
        simp [Tag.characters] at hmem
      · rw [openSlots_push, Node.slotCount, List.count_cons_self]
        omega
  | case13 stack current c remaining _ _ hopen hempty hblock hbar _ hquestion ih =>
      have hclose := ne_closingBrace_of_cases hempty hblock
      refine .of_step (fun behind => stackRead?_plain ?_ (ne_bar_of_cases hbar)) ?_ h ih
      · simpa using ⟨hopen, hclose, hquestion⟩
      · rw [openSlots_push, Node.slotCount, Nat.zero_add,
          List.count_cons_of_ne (by simpa using hquestion)]

end

/-! ## On the line -/

/-- A text that is one alternative has no bar outside of its blocks. -/
theorem isAlternative_lexemes {text : List Char} (h : wellFormed text)
    (hbar : alternatives text = [text]) : isAlternative 0 (lexemes text) := by
  rw [wellFormed_eq, Bool.and_eq_true] at h
  rw [alternatives, piecesFrom_eq_map, List.map_eq_singleton_iff] at hbar
  obtain ⟨piece, hpieces, -⟩ := hbar
  have hwhole := intercalate_barPieces 0 (lexemes text)
  rw [hpieces, List.intercalate_singleton] at hwhole
  apply isAlternative_of_mem_barPieces h.2
  rw [hpieces, hwhole]
  exact List.mem_singleton_self _

/-- On a line of its own, a text is read as it is read alone. -/
theorem stackRead?_lexemes {text : List Char} (h : wellFormed text)
    (hbar : alternatives text = [text]) (stack : List OpenBlock) (current : List Node)
    (rest : List Lexeme) :
    stackRead? stack current (lexemes text ++ .char '\n' :: rest) =
      stackRead? stack ((Template.read text).reverse ++ current) (.char '\n' :: rest) := by
  have hsettled := h
  rw [wellFormed_eq, Bool.and_eq_true] at hsettled
  have hfits : Fits stack (lexemes text) (.char '\n' :: rest) :=
    Or.inr ⟨isAlternative_lexemes h hbar, '\n', rest, rfl,
      fun htag => absurd htag (by simp [Tag.characters])⟩
  exact stackRead?_of_reading (reading_read text) hsettled.1 stack current _ hfits

/-! ## Behind the line -/

/-- Closes all open blocks around the nodes of the innermost alternative.  For each block
there are the alternatives that are still missing, and the nodes behind the block. -/
def complete : List OpenBlock → List Node → List (List (List Node) × List Node) → Template
  | block :: stack, nodes, (others, behind) :: outer =>
      complete stack (block.before.reverse ++
        .block block.gated (block.finished.reverse ++ nodes :: others) :: behind) outer
  | _, nodes, _ => nodes

/-- What the lexemes add to a template does not depend on what is there already, as long
as so many blocks are open. -/
def Completes (depth : Nat) (rest : List Lexeme) : Prop :=
  ∃ behind outer, outer.length = depth ∧
    ∀ stack current, stack.length = depth →
      stackRead? stack current rest = some (complete stack (current.reverse ++ behind) outer)

section
variable {depth : Nat} {rest remaining : List Lexeme} {node : Node}

theorem Completes.push (h : Completes depth remaining)
    (hstep : ∀ stack current, stack.length = depth →
      stackRead? stack current rest = stackRead? stack (node :: current) remaining) :
    Completes depth rest := by
  obtain ⟨behind, outer, hlength, hread⟩ := h
  refine ⟨node :: behind, outer, hlength, ?_⟩
  intro stack current hstack
  rw [hstep stack current hstack, hread stack _ hstack, List.reverse_cons, List.append_assoc]
  rfl

/-- A block that is opened becomes a node once it is closed. -/
theorem Completes.opened {gated : Bool} {first : List Node} (h : Completes (depth + 1) remaining)
    (hstep : ∀ stack current, stack.length = depth →
      stackRead? stack current rest = stackRead? (⟨current, gated, []⟩ :: stack) first remaining) :
    Completes depth rest := by
  obtain ⟨behind, _ | ⟨⟨others, after⟩, outer⟩, hlength, hread⟩ := h
  · cases hlength
  refine ⟨.block gated ((first.reverse ++ behind) :: others) :: after, outer,
    Nat.succ.inj hlength, ?_⟩
  intro stack current hstack
  have hopen : (⟨current, gated, []⟩ :: stack : List OpenBlock).length = depth + 1 :=
    congrArg Nat.succ hstack
  rw [hstep stack current hstack, hread _ first hopen]
  rfl

theorem Completes.closed (h : Completes depth rest) : Completes (depth + 1) (.char '}' :: rest) := by
  obtain ⟨behind, outer, hlength, hread⟩ := h
  refine ⟨[], ([], behind) :: outer, congrArg Nat.succ hlength, ?_⟩
  rintro (_ | ⟨block, stack⟩) current hstack
  · cases hstack
  · rw [stackRead?_close, hread stack _ (Nat.succ.inj hstack), complete, OpenBlock.close,
      OpenBlock.finish, List.reverse_cons, List.reverse_cons, List.append_nil, List.append_assoc]
    rfl

theorem Completes.divided (h : Completes (depth + 1) rest) :
    Completes (depth + 1) (.char '|' :: rest) := by
  obtain ⟨behind, _ | ⟨⟨others, after⟩, outer⟩, hlength, hread⟩ := h
  · cases hlength
  refine ⟨[], (behind :: others, after) :: outer, hlength, ?_⟩
  rintro (_ | ⟨block, stack⟩) current hstack
  · cases hstack
  · rw [stackRead?_bar, hread (block.finish current :: stack) [] hstack, complete, complete,
      OpenBlock.finish, List.reverse_cons, List.append_nil, List.append_assoc]
    rfl

theorem completes_of_stackRead? {stack : List OpenBlock} {current : List Node} {nodes : Template}
    (h : stackRead? stack current rest = some nodes) : Completes stack.length rest := by
  -- how many blocks are open is all that is asked of a stack
  have hempty : ∀ {one other : List OpenBlock}, one.length = other.length →
      one.isEmpty = other.isEmpty := by
    intro one other hlength
    rw [Bool.eq_iff_iff, List.isEmpty_iff_length_eq_zero, hlength, List.isEmpty_iff_length_eq_zero]
  fun_induction stackRead? stack current rest with
  | case1 current =>
      refine ⟨[], [], rfl, ?_⟩
      intro stack current hstack
      obtain rfl := List.length_eq_zero_iff.1 hstack
      rw [stackRead?, List.append_nil]
      rfl
  | case2 => cases h
  | case3 stack current region rest ih =>
      exact (ih h).push fun stack current _ => stackRead?_region region
  | case4 stack current rest ih =>
      exact (ih h).push fun stack current _ => stackRead?_emptyBlock
  | case5 stack current rest ih =>
      exact (ih h).opened fun stack current _ => by rw [stackRead?]
  | case6 stack current rest hclose hgate ih =>
      exact (ih h).opened fun stack current _ => stackRead?_openUngated hclose hgate
  | case7 => cases h
  | case8 block stack current rest ih => exact (ih h).closed
  | case9 block stack current rest ih => exact (ih h).divided
  | case10 stack current c rest htag ih =>
      apply (ih h).push
      intro other current hlength
      rw [← hempty hlength] at htag
      rw [stackRead?, if_pos htag]
  | case11 stack current c rest htag ih =>
      apply (ih h).push
      intro other current hlength
      rw [← hempty hlength] at htag
      rw [stackRead?, if_neg htag]
  | case12 stack current rest hchar ih =>
      refine (ih h).push fun other current _ => stackRead?_untagged ?_
      exact fun d after heq => absurd heq (hchar d after)
  | case13 stack current c rest _ _ hopen hclose hblock hbar _ hquestion ih =>
      have hplain : c ∉ ['{', '}', '?'] := by
        simpa using ⟨hopen, ne_closingBrace_of_cases hclose hblock, hquestion⟩
      refine (ih h).push fun other current hlength => stackRead?_plain hplain ?_
      intro hother
      apply ne_bar_of_cases hbar
      rwa [Ne, ← List.isEmpty_iff, ← hempty hlength, List.isEmpty_iff]

end

/-! ## The whole template -/

/-- A template with a text on a line of its own. -/
def withLine (front text back : List Char) : List Char :=
  front ++ '\n' :: (text ++ '\n' :: back)

/-- The lexemes of such a template are those of its three parts. -/
theorem pass?_withLine {front text : List Char} {parts inner : List Lexeme}
    (hfront : pass? front = some parts) (htext : pass? text = some inner) (back : List Char) :
    pass? (withLine front text back) = (pass? back).map fun rest =>
      parts ++ .char '\n' :: (inner ++ .char '\n' :: rest) := by
  rw [withLine, pass?_append_newline hfront, pass?_append_newline htext, Option.map_map]
  rfl

/-- The line that holds nothing but the slot of a template. -/
def slotLine : List Char := ['?', 's']

theorem wellFormed_slotLine : wellFormed slotLine := by decide +kernel

theorem alternatives_slotLine : alternatives slotLine = [slotLine] := by decide +kernel

theorem read_slotLine : Template.read slotLine = [.placeholder .template] := by
  have htoken : nextToken? slotLine = some (.placeholder .template, []) := by decide +kernel
  rw [Template.read, readFrom_placeholder htoken, readFrom_nil]

/-- **What stands around a line.**  A slot on a line of its own shows what a template is like
around it: the blocks that are open there, the nodes in front of it and the nodes behind it.
Any text of one alternative is read between them when it is written on that line. -/
theorem exists_surroundings {front back : List Char} {count : Nat}
    (hformed : wellFormed (withLine front slotLine back))
    (hslot : (slotPlaces (withLine front slotLine back))[count]? = some (front.length + 1)) :
    ∃ stack before behind outer, openSlots stack before = count ∧ outer.length = stack.length ∧
      ∀ text, wellFormed text → alternatives text = [text] →
        Template.read (withLine front text back) =
          complete stack (before.reverse ++ (Template.read text ++ behind)) outer := by
  obtain ⟨parts, hfront, hcount⟩ := exists_pass?_of_slotPlaces hformed hslot
  obtain ⟨rest, hback⟩ : ∃ rest, pass? back = some rest := by
    rw [← Option.isSome_iff_exists]
    have hwhole := pass?_of_wellFormed hformed
    rw [pass?_withLine hfront (pass?_of_wellFormed wellFormed_slotLine)] at hwhole
    rw [← Option.isSome_map, hwhole]
    rfl
  have hreadOnce : ∀ text, wellFormed text → readOnce? (withLine front text back) =
      stackRead? [] [] (parts ++ .char '\n' :: (lexemes text ++ .char '\n' :: rest)) := by
    intro text htext
    rw [readOnce?, pass?_withLine hfront (pass?_of_wellFormed htext), hback, Option.map_some,
      Option.bind_some]
  -- the slot itself shows what stands around it
  have hread := readOnce?_eq_read hformed
  rw [hreadOnce slotLine wellFormed_slotLine] at hread
  obtain ⟨stack, before, hslots, hstack⟩ := settles_of_stackRead? hread
  rw [hstack, stackRead?_lexemes wellFormed_slotLine alternatives_slotLine] at hread
  obtain ⟨behind, outer, houter, hbehind⟩ := completes_of_stackRead? hread
  refine ⟨stack, before, behind, outer, ?_, houter, ?_⟩
  · rw [hslots, hcount]
    exact Nat.zero_add _
  · intro text htext hbar
    have honce : readOnce? (withLine front text back) =
        some (complete stack (before.reverse ++ (Template.read text ++ behind)) outer) := by
      rw [hreadOnce text htext, hstack, stackRead?_lexemes htext hbar, hbehind stack _ rfl,
        List.reverse_append, List.reverse_reverse, List.append_assoc]
    have hformed : wellFormed (withLine front text back) := by
      rw [← isSome_readOnce?, honce]
      rfl
    rw [readOnce?_eq_read hformed] at honce
    exact Option.some.inj honce

end SqlTemplate
