import SqlTemplate.Proofs.Template.Pass
import SqlTemplate.Proofs.Template.Reading

/-!
# Faults in the tree of a template

A fault of a template is met while some piece of it is read, possibly a piece of
a piece.  The single pass over the whole text finds a problem exactly when the
tree has a fault somewhere: `faultFree_read`.

The proof follows the reading of the template.  What has to be seen is that both
conditions of the pass hold for a block if and only if they hold for its pieces:
the braces because a piece of a balanced content is balanced, the opening marks
because no bar and no brace is part of one (`settled_append`).
-/

namespace SqlTemplate

mutual

/-- Whether a node has no fault at any depth. -/
def Node.faultFree : Node → Bool
  | .verbatim _ | .placeholder _ => true
  | .block _ alternatives => Template.allFaultFree alternatives
  | .fault _ => false

/-- Whether a template has no fault at any depth. -/
def Template.faultFree : List Node → Bool
  | [] => true
  | node :: rest => node.faultFree && Template.faultFree rest

/-- Whether none of several templates has a fault. -/
def Template.allFaultFree : List (List Node) → Bool
  | [] => true
  | template :: rest => Template.faultFree template && Template.allFaultFree rest

end

theorem allFaultFree_eq_all (alternatives : List (List Node)) :
    Template.allFaultFree alternatives = alternatives.all Template.faultFree := by
  induction alternatives with
  | nil => rfl
  | cons template rest ih => rw [Template.allFaultFree, ih, List.all_cons]

/-! ## Opening marks across a cut -/

/-- A character that is no second half of an opening mark opens nothing together
with what stands in front of it. -/
theorem ofOpening?_append {c d : Char} (front back : List Char) (hdash : d ≠ '-') (hstar : d ≠ '*') :
    RegionKind.ofOpening? (c :: (front ++ d :: back)) = RegionKind.ofOpening? (c :: front) := by
  unfold RegionKind.ofOpening?
  cases front with
  | nil => split <;> simp_all
  | cons first more => split <;> simp_all

theorem settled_append {d : Char} (front back : List Lexeme) (hdash : d ≠ '-') (hstar : d ≠ '*') :
    settled (front ++ .char d :: back) = (settled front && settled (.char d :: back)) := by
  induction front with
  | nil => rfl
  | cons lexeme front ih =>
      cases lexeme with
      | region region => exact ih
      | char c =>
          rw [List.cons_append, settled, settled, ih, List.flatMap_append, List.flatMap_cons,
            Lexeme.text, List.singleton_append, ofOpening?_append _ _ hdash hstar, Bool.and_assoc]

theorem settled_cons {c : Char} (rest : List Lexeme) (h : c ∉ openingMarks) :
    settled (.char c :: rest) = settled rest := by
  rw [settled, ofOpening?_eq_none h, Option.isNone_none, Bool.true_and]

theorem settled_of_cons {c : Char} {rest : List Lexeme} (h : settled (.char c :: rest)) :
    settled rest := by
  rw [settled, Bool.and_eq_true] at h
  exact h.2

theorem settled_block (inside parts : List Lexeme) :
    settled (.char '{' :: (inside ++ .char '}' :: parts)) = (settled inside && settled parts) := by
  rw [settled_cons _ (by simp [openingMarks]), settled_append _ _ (by simp) (by simp),
    settled_cons _ (by simp [openingMarks])]

theorem settled_gateOf (inside : List Lexeme) : settled (gateOf inside).2 = settled inside := by
  unfold gateOf
  split
  · rw [settled_cons _ (by simp [openingMarks]), settled_cons _ (by simp [openingMarks])]
  · rfl

theorem settled_intercalate {pieces : List (List Lexeme)} (h : pieces ≠ []) :
    settled ([Lexeme.char '|'].intercalate pieces) = pieces.all settled := by
  induction pieces with
  | nil => exact absurd rfl h
  | cons first others ih =>
      cases others with
      | nil => simp
      | cons second more =>
          rw [List.intercalate_cons_cons, List.append_assoc, List.singleton_append,
            settled_append _ _ (by simp) (by simp), settled_cons _ (by simp [openingMarks]),
            ih (by simp)]
          rfl

/-- The opening marks of a block are those of its pieces. -/
theorem settled_barPieces (inside : List Lexeme) :
    (barPieces 0 (gateOf inside).2).all settled = settled inside := by
  rw [← settled_intercalate (barPieces_ne_nil _ _), intercalate_barPieces, settled_gateOf]

/-! ## Faults and the pass -/

/-- Reading meets a fault at some depth exactly if an opening mark is left over or
the braces are not balanced. -/
theorem faultFree_of_reading {offset : Nat} {parts : List Lexeme} {nodes : Template}
    (h : Reading offset parts nodes) :
    Template.faultFree nodes = (settled parts && balanced 0 parts) := by
  induction h with
  | done => rfl
  | region _ ih =>
      rw [balanced_cons (by simp) (by simp)]
      exact ih
  | plain hplain hopening _ ih =>
      simp only [List.mem_cons, List.not_mem_nil, or_false, not_or] at hplain
      rw [balanced_cons (by simp [hplain]) (by simp [hplain]), settled, hopening]
      simpa [Template.faultFree, Node.faultFree] using ih
  | emptyBlock _ ih =>
      rw [settled_cons _ (by simp [openingMarks]), settled_cons _ (by simp [openingMarks])]
      exact ih
  | untagged htag _ ih =>
      rw [settled_cons _ (by simp [openingMarks]), balanced_cons (by simp) (by simp)]
      exact ih
  | @tagged _ c _ _ htag _ ih =>
      have hbraces : c ≠ '{' ∧ c ≠ '}' := by
        constructor <;> rintro rfl <;> simp [Tag.characters] at htag
      rw [settled_cons _ (by simp [openingMarks]), balanced_cons (by simp) (by simp),
        settled_cons _ (not_mem_openingMarks_of_tag htag),
        balanced_cons (by simp [hbraces]) (by simp [hbraces])]
      exact ih
  | @block _ inside parts nodes hinside hbalanced _ _ ihpieces ih =>
      -- a piece of a balanced content is balanced, so only its opening marks count
      have hpieces : ∀ piece ∈ barPieces 0 (gateOf inside).2,
          Template.faultFree (Template.read (piece.flatMap Lexeme.text)) = settled piece := by
        intro piece hpiece
        rw [ihpieces piece hpiece, balanced_of_isAlternative
          (isAlternative_of_mem_barPieces (balanced_gateOf.trans hbalanced) hpiece), Bool.and_true]
      have hbraces : balanced 0 (.char '{' :: (inside ++ .char '}' :: parts)) = balanced 0 parts :=
        balanced_append_closing 0 parts hbalanced
      rw [hbraces, settled_block, Bool.and_assoc, ← ih, ← settled_barPieces, Template.faultFree,
        Node.faultFree, allFaultFree_eq_all, List.all_map]
      congr 1
      rw [Bool.eq_iff_iff, List.all_eq_true, List.all_eq_true]
      exact forall₂_congr fun piece hpiece => by rw [← hpieces piece hpiece]; rfl
  | @unclosedBlock _ parts hopen =>
      have hbraces : balanced 0 (.char '{' :: parts) = false :=
        not_balanced_of_closingBrace? 0 0 hopen
      rw [hbraces, Bool.and_false]
      rfl
  | strayClosingBrace => simp [balanced, Template.faultFree, Node.faultFree]
  | unclosedRegion hopening => simp [settled, hopening, Template.faultFree, Node.faultFree]

/-- **The pass finds every fault.**  The tree of a text has no fault at any depth
exactly if the text is well formed. -/
theorem faultFree_read (text : List Char) :
    Template.faultFree (Template.read text) = wellFormed text := by
  rw [faultFree_of_reading (reading_read text), wellFormed_eq]

end SqlTemplate
