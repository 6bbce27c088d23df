import Mathlib.Algebra.GroupWithZero.Nat
import SqlTemplate.Proofs.Template.Reading

/-!
# The slots of a template

A slot is a place that takes a parameter: a placeholder, or the gate of a block.
A slot is written with a question mark of its own, so a template has no more slots
than characters (`slotCount_read_le`).
-/

namespace SqlTemplate

mutual

/-- The number of slots of a node. -/
def Node.slotCount : Node → Nat
  | .verbatim _ | .fault _ => 0
  | .placeholder _ => 1
  | .block gated alternatives => gated.toNat + Template.slotCountAll alternatives

/-- The number of slots of a template. -/
def Template.slotCount : List Node → Nat
  | [] => 0
  | node :: rest => node.slotCount + Template.slotCount rest

/-- The number of slots of several templates. -/
def Template.slotCountAll : List (List Node) → Nat
  | [] => 0
  | template :: rest => Template.slotCount template + Template.slotCountAll rest

end

mutual

/-- Whether no placeholder of a node takes a template. -/
def Node.selfContained : Node → Bool
  | .verbatim _ | .fault _ => true
  | .placeholder tag => tag ≠ .template
  | .block _ alternatives => Template.allSelfContained alternatives

/-- Whether no placeholder of a template takes another template. -/
def Template.selfContained : List Node → Bool
  | [] => true
  | node :: rest => node.selfContained && Template.selfContained rest

/-- Whether no placeholder of several templates takes another template. -/
def Template.allSelfContained : List (List Node) → Bool
  | [] => true
  | template :: rest => Template.selfContained template && Template.allSelfContained rest

end

theorem selfContained_of_mem {alternatives : List (List Node)} {alternative : List Node}
    (h : Template.allSelfContained alternatives) (hmem : alternative ∈ alternatives) :
    Template.selfContained alternative := by
  induction alternatives with
  | nil => cases hmem
  | cons first rest ih =>
      rw [Template.allSelfContained, Bool.and_eq_true] at h
      rcases List.mem_cons.1 hmem with rfl | hrest
      · exact h.1
      · exact ih h.2 hrest

/-! ## Counts as sums -/

theorem slotCount_eq_sum (nodes : List Node) :
    Template.slotCount nodes = (nodes.map Node.slotCount).sum := by
  induction nodes with
  | nil => rfl
  | cons node rest ih => rw [Template.slotCount, ih, List.map_cons, List.sum_cons]

theorem slotCountAll_eq_sum (alternatives : List (List Node)) :
    Template.slotCountAll alternatives = (alternatives.map Template.slotCount).sum := by
  induction alternatives with
  | nil => rfl
  | cons alternative rest ih =>
      rw [Template.slotCountAll, ih, List.map_cons, List.sum_cons]

theorem slotCountAll_append (front back : List (List Node)) :
    Template.slotCountAll (front ++ back) =
      Template.slotCountAll front + Template.slotCountAll back := by
  simp only [slotCountAll_eq_sum, List.map_append, List.sum_append]

theorem slotCount_reverse (nodes : List Node) :
    Template.slotCount nodes.reverse = Template.slotCount nodes := by
  rw [slotCount_eq_sum, slotCount_eq_sum, List.map_reverse, List.sum_reverse]

theorem slotCountAll_reverse (alternatives : List (List Node)) :
    Template.slotCountAll alternatives.reverse = Template.slotCountAll alternatives := by
  rw [slotCountAll_eq_sum, slotCountAll_eq_sum, List.map_reverse, List.sum_reverse]

/-! ## Slots and characters -/

theorem length_gateOf_text (inside : List Lexeme) :
    ((gateOf inside).2.flatMap Lexeme.text).length = (inside.flatMap Lexeme.text).length := by
  unfold gateOf
  split <;> rfl

/-- Pieces that have no more slots than characters have no more slots together than
there are characters in the whole. -/
theorem slotCountAll_le_length_intercalate (tree : List Lexeme → Template)
    {pieces : List (List Lexeme)}
    (h : ∀ piece ∈ pieces, Template.slotCount (tree piece) ≤ (piece.flatMap Lexeme.text).length) :
    Template.slotCountAll (pieces.map tree) ≤
      (([Lexeme.char '|'].intercalate pieces).flatMap Lexeme.text).length := by
  induction pieces with
  | nil => exact Nat.zero_le _
  | cons first others ih =>
      have hfirst := h first (List.mem_cons_self ..)
      have hothers := ih fun piece hpiece => h piece (List.mem_cons_of_mem _ hpiece)
      rw [List.map_cons, Template.slotCountAll]
      cases others with
      | nil => simpa [Template.slotCountAll] using hfirst
      | cons second more =>
          rw [List.intercalate_cons_cons, List.append_assoc, List.flatMap_append,
            List.flatMap_append, List.length_append, List.length_append]
          omega

theorem slotCount_of_reading {offset : Nat} {parts : List Lexeme} {nodes : Template}
    (h : Reading offset parts nodes) :
    Template.slotCount nodes ≤ (parts.flatMap Lexeme.text).length := by
  induction h with
  | done => exact Nat.le_refl _
  | region _ ih =>
      rw [List.flatMap_cons, List.length_append, Template.slotCount, Node.slotCount]
      omega
  | plain _ _ _ ih =>
      rw [List.flatMap_cons, List.length_append, Template.slotCount, Node.slotCount]
      omega
  | emptyBlock _ ih =>
      rw [List.flatMap_cons, List.flatMap_cons, List.length_append, List.length_append,
        Template.slotCount, Node.slotCount]
      omega
  | untagged _ _ ih =>
      rw [List.flatMap_cons, List.length_append, Template.slotCount, Node.slotCount, Lexeme.text,
        List.length_singleton]
      omega
  | tagged _ _ ih =>
      rw [List.flatMap_cons, List.flatMap_cons, List.length_append, List.length_append,
        Template.slotCount, Node.slotCount, Lexeme.text, List.length_singleton]
      omega
  | @block _ inside parts nodes _ _ _ _ ihpieces ih =>
      have hpieces := slotCountAll_le_length_intercalate
        (fun piece => Template.read (piece.flatMap Lexeme.text)) ihpieces
      rw [intercalate_barPieces, length_gateOf_text] at hpieces
      -- the two braces are more than enough for the gate
      have hgate := Bool.toNat_le (gateOf inside).1
      rw [List.flatMap_cons, List.flatMap_append, List.flatMap_cons, List.length_append,
        List.length_append, List.length_append, Template.slotCount, Node.slotCount, Lexeme.text,
        List.length_singleton]
      omega
  | unclosedBlock _ => exact Nat.zero_le _
  | strayClosingBrace => exact Nat.zero_le _
  | unclosedRegion _ => exact Nat.zero_le _

/-- **A template has no more slots than characters.** -/
theorem slotCount_read_le (text : List Char) :
    Template.slotCount (Template.read text) ≤ text.length := by
  have hslots := slotCount_of_reading (reading_read text)
  rwa [flatMap_text_lexemes] at hslots

end SqlTemplate
