import Mathlib.Algebra.GroupWithZero.Nat
import SqlTemplate.Proofs.Expansion.Ledger
import SqlTemplate.Proofs.Template.FaultFree
import SqlTemplate.Proofs.Template.Slots

/-!
# How many parameters an expansion consumes

Every question mark outside of literal regions stands for one slot: a placeholder
with or without a tag, or the gate of a block.  A successful expansion visits all
slots of its template, whatever it drops, and all slots of the templates that are
nested in it.  So the number of parameters that it consumes can be counted on the
texts alone (`Expander.consumed_eq_questionMarks`).

## Strategy

On the side of the text, a template without faults has as many slots as question
marks (`slotCount_read`): cutting a block into alternatives removes bars only, and
the mark of a gate is the one that is replaced by a space.

On the side of the run, `Tallies` compares the length of the ledger with the number
of slots and the templates that the ledger lists.  A step that succeeds has met no
fault, so the count of the text may be used for every nested template as well.
-/

namespace SqlTemplate

/-- The number of question marks of a text outside of its literal regions. -/
def questionMarks (text : List Char) : Nat :=
  (structural text 0).countP (·.2 == '?')

/-! ## Question marks and slots -/

theorem questionMarks_eq_count (text : List Char) :
    questionMarks text = (lexemes text).count (.char '?') := by
  rw [questionMarks, structural, List.drop_zero, countP_structuralFrom]

/-- The mark of a gate is the question mark that its block has besides those of its
pieces. -/
theorem count_gateOf (inside : List Lexeme) :
    inside.count (.char '?') =
      (gateOf inside).1.toNat + (gateOf inside).2.count (.char '?') := by
  unfold gateOf
  split
  · next rest =>
      rw [List.count_cons_self, List.count_cons_of_ne (by simp), Bool.toNat_true, Nat.add_comm]
  · rw [Bool.toNat_false, Nat.zero_add]

/-- The slots of pieces without faults are the question marks of the whole, since a
bar is none. -/
theorem slotCountAll_eq_count_intercalate (tree : List Lexeme → Template)
    {pieces : List (List Lexeme)}
    (h : ∀ piece ∈ pieces, Template.slotCount (tree piece) = piece.count (.char '?')) :
    Template.slotCountAll (pieces.map tree) =
      ([Lexeme.char '|'].intercalate pieces).count (.char '?') := by
  induction pieces with
  | nil => rfl
  | cons first others ih =>
      have hfirst := h first (List.mem_cons_self ..)
      have hothers := ih fun piece hpiece => h piece (List.mem_cons_of_mem _ hpiece)
      rw [List.map_cons, Template.slotCountAll, hfirst]
      cases others with
      | nil => simp [Template.slotCountAll]
      | cons second more =>
          have hbar : [Lexeme.char '|'].count (.char '?') = 0 := rfl
          rw [List.intercalate_cons_cons, List.append_assoc, List.count_append,
            List.count_append, hbar, hothers]
          omega

theorem faultFree_of_mem {alternatives : List (List Node)} {alternative : List Node}
    (h : Template.allFaultFree alternatives) (hmem : alternative ∈ alternatives) :
    Template.faultFree alternative := by
  rw [allFaultFree_eq_all, List.all_eq_true] at h
  exact h alternative hmem

theorem slotCount_eq_count_of_reading {offset : Nat} {parts : List Lexeme} {nodes : Template}
    (h : Reading offset parts nodes) (hfree : Template.faultFree nodes) :
    Template.slotCount nodes = parts.count (.char '?') := by
  induction h with
  | done => rfl
  | region _ ih =>
      have hrest := ih hfree
      rw [List.count_cons_of_ne (by simp), ← hrest, Template.slotCount, Node.slotCount,
        Nat.zero_add]
  | plain hplain _ _ ih =>
      have hrest := ih hfree
      simp only [List.mem_cons, List.not_mem_nil, or_false, not_or] at hplain
      rw [List.count_cons_of_ne (by simp [hplain]), ← hrest, Template.slotCount,
        Node.slotCount, Nat.zero_add]
  | emptyBlock _ ih =>
      have hrest := ih hfree
      rw [List.count_cons_of_ne (by simp), List.count_cons_of_ne (by simp), ← hrest,
        Template.slotCount, Node.slotCount, Nat.zero_add]
  | untagged _ _ ih =>
      have hrest := ih hfree
      rw [List.count_cons_self, ← hrest, Template.slotCount, Node.slotCount, Nat.add_comm]
  | @tagged _ c _ _ htag _ ih =>
      have hrest := ih hfree
      have hquestion : c ≠ '?' := by
        rintro rfl
        simp [Tag.characters] at htag
      rw [List.count_cons_self, List.count_cons_of_ne (by simpa using hquestion), ← hrest,
        Template.slotCount, Node.slotCount, Nat.add_comm]
  | @block _ inside parts nodes _ _ _ _ ihpieces ih =>
      rw [Template.faultFree, Node.faultFree, Bool.and_eq_true] at hfree
      have hrest := ih hfree.2
      have hpieces := slotCountAll_eq_count_intercalate
        (fun piece => Template.read (piece.flatMap Lexeme.text)) fun piece hpiece =>
          ihpieces piece hpiece (faultFree_of_mem hfree.1 (List.mem_map_of_mem hpiece))
      rw [intercalate_barPieces] at hpieces
      rw [List.count_cons_of_ne (by simp), List.count_append, List.count_cons_of_ne (by simp),
        count_gateOf, ← hpieces, ← hrest, Template.slotCount, Node.slotCount]
  | unclosedBlock _ => simp [Template.faultFree, Node.faultFree] at hfree
  | strayClosingBrace => simp [Template.faultFree, Node.faultFree] at hfree
  | unclosedRegion _ => simp [Template.faultFree, Node.faultFree] at hfree

/-- **A template without faults has a slot for each of its question marks.** -/
theorem slotCount_read {text : List Char} (hfree : Template.faultFree (Template.read text)) :
    Template.slotCount (Template.read text) = questionMarks text := by
  rw [questionMarks_eq_count]
  exact slotCount_eq_count_of_reading (reading_read text) hfree

/-! ## The length of a ledger -/

/-- The question marks of all templates in a ledger. -/
def nestedMarks (ledger : List Intake) : Nat :=
  ((ledger.filterMap Intake.template?).map questionMarks).sum

theorem nestedMarks_append (ledger others : List Intake) :
    nestedMarks (ledger ++ others) = nestedMarks ledger + nestedMarks others := by
  rw [nestedMarks, List.filterMap_append, List.map_append, List.sum_append]
  rfl

theorem nestedMarks_cons (intake : Intake) (ledger : List Intake) :
    nestedMarks (intake :: ledger) =
      (intake.template?.map questionMarks).getD 0 + nestedMarks ledger := by
  unfold nestedMarks
  cases htemplate : intake.template? with
  | none => simp [htemplate]
  | some text => simp [htemplate]

/-- A step that succeeds has met no fault, and it has taken a parameter for each of its
slots and for each question mark of the templates that it took, as long as no more than
`size` parameters were pending. -/
def Tallies {α : Type} (size : Nat) (faultFree : Bool) (slots : Nat) (step : Expansion α)
    (ledger : Supply → List Intake) : Prop :=
  ∀ supply value after, supply.pending.length ≤ size → step supply = (.ok value, after) →
    faultFree = true ∧ (ledger supply).length = slots + nestedMarks (ledger supply)

namespace Tallies

variable {α β : Type} {size slots : Nat} {faultFree : Bool} {step : Expansion α}
  {ledger : Supply → List Intake}

theorem pure (value : α) : Tallies size true 0 (Pure.pure value : Expansion α) fun _ => [] :=
  fun _ _ _ _ _ => ⟨rfl, rfl⟩

theorem malformed (fault : Fault) (slots : Nat) :
    Tallies size false slots (throw (.malformed fault) : Expansion α) fun _ => [] := by
  intro supply value after _ hrun
  cases hrun

theorem bind {others : Bool} {more : Nat} {next : α → Expansion β}
    {following : Supply → List Intake} (hstep : Tallies size faultFree slots step ledger)
    (hlength : NeverLengthens α step)
    (hnext : ∀ value, Tallies size others more (next value) following) :
    Tallies size (faultFree && others) (slots + more) (step >>= next) fun supply =>
      ledger supply ++ ledgerAfter (step supply) following := by
  intro supply result last hsize hboth
  have hshorter := hlength supply
  obtain ⟨value, after, hrun, hbehind⟩ := Expansion.exists_of_bind_ok hboth
  rw [hrun] at hshorter
  obtain ⟨hfree, hfirst⟩ := hstep supply value after hsize hrun
  obtain ⟨hothers, hsecond⟩ :=
    hnext value after result last (Nat.le_trans hshorter hsize) hbehind
  refine ⟨by rw [hfree, hothers]; rfl, ?_⟩
  show (ledger supply ++ ledgerAfter (step supply) following).length = _ +
    nestedMarks (ledger supply ++ ledgerAfter (step supply) following)
  rw [ledgerAfter_of_ok hrun, List.length_append, nestedMarks_append]
  omega

theorem map (hstep : Tallies size faultFree slots step ledger) (f : α → β) :
    Tallies size faultFree slots (step >>= fun value => Pure.pure (f value)) ledger := by
  intro supply result last hsize hboth
  obtain ⟨value, after, hrun, -⟩ := Expansion.exists_of_bind_ok hboth
  exact hstep supply value after hsize hrun

theorem isolateSkip (hstep : Tallies size faultFree slots step ledger) :
    Tallies size faultFree slots (Expansion.isolateSkip step) fun supply =>
      ledger { supply with skipRaised := false } := by
  intro supply result last hsize hisolated
  obtain ⟨value, after, hrun, -, -⟩ := Expansion.exists_of_isolateSkip_ok hisolated
  exact hstep _ value after hsize hrun

end Tallies

section

variable {quoter : Quoter} {expandNested : List Char → Expansion (List Char)}
  {nestedLedger : List Char → Supply → List Intake} {size : Nat}

theorem tallies_passGate (gated : Bool) :
    Tallies size true gated.toNat (passGate gated) (gateLedger gated) := by
  cases gated with
  | false => exact .pure false
  | true =>
      intro supply value after _ hrun
      cases hpending : supply.pending with
      | nil =>
          rw [passGate_of_pending_nil hpending] at hrun
          cases hrun
      | cons first rest =>
          have hledger : gateLedger true supply = [.gate first] := by
            simp [gateLedger, hpending]
          rw [hledger]
          exact ⟨rfl, rfl⟩

/-- A parameter that is no template adds nothing to the count besides itself. -/
theorem tally_slot {tag : Tag} {value : Value} (h : (Intake.slot tag value).template? = none) :
    [Intake.slot tag value].length = 1 + nestedMarks [Intake.slot tag value] := by
  rw [nestedMarks_cons, h]
  rfl

/-- Only the tag for templates accepts a text as a template. -/
theorem template?_slot_of_ne {tag : Tag} {value : Value}
    (h : ∀ text, present quoter tag value ≠ .ok (.template text)) :
    (Intake.slot tag value).template? = none := by
  unfold Intake.template?
  split
  · next text heq =>
      obtain ⟨rfl, rfl⟩ := Intake.slot.inj heq
      exact absurd rfl (h text.toList)
  · rfl

theorem tallies_expandPlaceholder (tag : Tag)
    (h : ∀ text, ∀ small < size, Tallies small true (questionMarks text) (expandNested text)
      (nestedLedger text)) :
    Tallies size true 1 (expandPlaceholder quoter expandNested tag)
      (placeholderLedger quoter nestedLedger tag) := by
  intro supply value after hsize hrun
  refine ⟨rfl, ?_⟩
  have hcases := placeholderRun quoter expandNested tag supply
  rw [hrun] at hcases
  generalize houtcome : (Except.ok value, after) = outcome at hcases
  cases hcases with
  | missing hpending => cases houtcome
  | skipped hpending =>
      have hskip : ∀ text, present quoter tag .skip ≠ .ok (.template text) :=
        present_skip_ne_template tag
      rw [placeholderLedger_of_literal hpending hskip]
      exact tally_slot (template?_slot_of_ne hskip)
  | refused hpending hskip hpresent => cases houtcome
  | @literal first rest literal hpending hskip hpresent =>
      have hliteral : ∀ text, present quoter tag first ≠ .ok (.template text) := by
        intro text
        rw [hpresent]
        nofun
      rw [placeholderLedger_of_literal hpending hliteral]
      exact tally_slot (template?_slot_of_ne hliteral)
  | @template first rest text hpending hskip hpresent =>
      -- the parameter that holds the nested text is not pending any more
      have hshorter : rest.length < size := by
        rw [hpending, List.length_cons] at hsize
        exact hsize
      obtain ⟨-, hnested⟩ := h text rest.length hshorter _ value after (Nat.le_refl _)
        houtcome.symm
      rw [placeholderLedger_of_template hpending hpresent, List.length_cons, nestedMarks_cons,
        template?_slot_of_present hpresent, hnested, Option.map_some, Option.getD_some]
      omega

theorem tallies_expandAll {alternatives : List (List Node)}
    (hlength : ∀ text, NeverLengthens _ (expandNested text))
    (h : ∀ alternative ∈ alternatives, Tallies size (Template.faultFree alternative)
      (Template.slotCount alternative) (Template.expand quoter expandNested alternative)
      (Template.ledger quoter expandNested nestedLedger alternative)) :
    Tallies size (Template.allFaultFree alternatives) (Template.slotCountAll alternatives)
      (Template.expandAll quoter expandNested alternatives)
      (Template.ledgerAll quoter expandNested nestedLedger alternatives) := by
  induction alternatives with
  | nil => exact .pure []
  | cons alternative rest ih =>
      have hrest := ih fun other hmem => h other (List.mem_cons_of_mem _ hmem)
      exact (h alternative (List.mem_cons_self ..)).bind
        (compositional_neverLengthens.expand hlength alternative) fun _ => hrest.map _

theorem tallies_expand (hlength : ∀ text, NeverLengthens _ (expandNested text))
    (h : ∀ text, ∀ small < size, Tallies small true (questionMarks text) (expandNested text)
      (nestedLedger text)) (nodes : List Node) :
    Tallies size (Template.faultFree nodes) (Template.slotCount nodes)
      (Template.expand quoter expandNested nodes)
      (Template.ledger quoter expandNested nestedLedger nodes) := by
  have hcons : ∀ {node : Node} {rest : List Node},
      Tallies size node.faultFree node.slotCount (node.expand quoter expandNested)
        (node.ledger quoter expandNested nestedLedger) →
      Tallies size (Template.faultFree rest) (Template.slotCount rest)
        (Template.expand quoter expandNested rest)
        (Template.ledger quoter expandNested nestedLedger rest) →
      Tallies size (Template.faultFree (node :: rest)) (Template.slotCount (node :: rest))
        (Template.expand quoter expandNested (node :: rest))
        (Template.ledger quoter expandNested nestedLedger (node :: rest)) := by
    intro node rest hnode hrest
    exact hnode.bind (compositional_neverLengthens.expandNode hlength node) fun _ => hrest.map _
  induction nodes using Template.induction with
  | nil => exact .pure []
  | verbatim text rest ih => exact hcons (.pure text) ih
  | placeholder tag rest ih => exact hcons (tallies_expandPlaceholder tag h) ih
  | block gated alternatives rest ihalternatives ih =>
      have hinside := (tallies_expandAll hlength ihalternatives).isolateSkip
      exact hcons ((tallies_passGate gated).bind (compositional_neverLengthens.passGate gated)
        fun _ => hinside.map _) ih
  | fault fault rest ih => exact hcons (.malformed fault 0) ih

end

/-- An expansion that succeeds has taken a parameter for each question mark of its text
and of the templates in its ledger. -/
theorem tallies_expandWithin (quoter : Quoter) (depth : Nat) (text : List Char) :
    Tallies depth true (questionMarks text) (expandWithin quoter depth text)
      (ledgerWithin quoter depth text) := by
  induction depth generalizing text with
  | zero =>
      intro supply value after hsize hrun
      -- nothing is pending, so no nested text is reached
      have htallies : Tallies 0 _ _ _ (ledgerWithin quoter 0 text) :=
        tallies_expand (fun _ => compositional_neverLengthens.pure [])
          (fun _ small hsmall => absurd hsmall (Nat.not_lt_zero small)) (Template.read text)
      obtain ⟨hfree, hcount⟩ := htallies supply value after hsize hrun
      exact ⟨rfl, slotCount_read hfree ▸ hcount⟩
  | succ depth ih =>
      intro supply value after hsize hrun
      have hnested : ∀ nested, ∀ small < depth + 1, Tallies small true (questionMarks nested)
          (expandWithin quoter depth nested) (ledgerWithin quoter depth nested) := by
        intro nested small hsmall inner result last hinner
        exact ih nested inner result last (by omega)
      have htallies : Tallies (depth + 1) _ _ _ (ledgerWithin quoter (depth + 1) text) :=
        tallies_expand (fun nested => compositional_neverLengthens.expandWithin depth nested)
          hnested (Template.read text)
      obtain ⟨hfree, hcount⟩ := htallies supply value after hsize hrun
      exact ⟨rfl, slotCount_read hfree ▸ hcount⟩

namespace Expander

variable {expander : Expander} {template : String} {parameters : List Value}

/-- **Each slot consumes one parameter, once.**  A successful expansion lists each of
the parameters that it consumed once, and there are as many of them as there are
question marks outside of literal regions: those of the template, and those of every
text that was taken as a template.  What was dropped makes no difference. -/
theorem consumed_eq_questionMarks {expanded : Expanded}
    (h : expander.expand template parameters = .ok expanded) :
    expanded.consumed = questionMarks template.toList +
        ((expander.templatesTaken template parameters).map questionMarks).sum ∧
      (expander.ledger template parameters).map Intake.value =
        parameters.take expanded.consumed ∧
      expanded.consumed ≤ expanded.supplied := by
  have hle := consumed_le h
  have hvalues := values_ledger expander template parameters
  have hrun := h
  rw [expand] at hrun
  rcases hexpand : expandText expander.quoter template.toList (Supply.ofList parameters) with
    ⟨failure | sql, after⟩
  · rw [hexpand] at hrun
    cases hrun
  · rw [hexpand] at hrun hvalues
    cases hrun
    have hwithin := hexpand
    rw [expandText_eq_expandWithin _ _ (Nat.le_refl _)] at hwithin
    obtain ⟨-, hcount⟩ := tallies_expandWithin expander.quoter parameters.length template.toList
      (Supply.ofList parameters) sql after (Nat.le_refl _) hwithin
    have hlength : (expander.ledger template parameters).length = after.taken := by
      rw [← List.length_map Intake.value, hvalues, List.length_take_of_le hle]
    exact ⟨hlength.symm.trans hcount, hvalues, hle⟩

/-- Two templates inside each other in an alternative that is not kept, the inner one
in a block that is dropped, and question marks in literal regions. -/
theorem consumed_eq_questionMarks_nested :
    (Expander.ofProfile {}).expand "a ?d {b ?|{? ?s}} '?'"
        [.int 5, .null, .int 1, .text "x ?# {? y ?s}", .text "t", .skip, .text "\x60?\x60 ?d",
          .int 3, .foreign] = .ok ⟨"a 5  b NULL  '?'", 8, 9, "mysql"⟩ ∧
    (Expander.ofProfile {}).templatesTaken "a ?d {b ?|{? ?s}} '?'"
        [.int 5, .null, .int 1, .text "x ?# {? y ?s}", .text "t", .skip, .text "\x60?\x60 ?d",
          .int 3, .foreign] = ["x ?# {? y ?s}".toList, "\x60?\x60 ?d".toList] ∧
    8 = questionMarks "a ?d {b ?|{? ?s}} '?'".toList +
        (["x ?# {? y ?s}".toList, "\x60?\x60 ?d".toList].map questionMarks).sum := by
  have hexpanded : (Expander.ofProfile {}).expand "a ?d {b ?|{? ?s}} '?'"
      [.int 5, .null, .int 1, .text "x ?# {? y ?s}", .text "t", .skip, .text "\x60?\x60 ?d",
        .int 3, .foreign] = .ok ⟨"a 5  b NULL  '?'", 8, 9, "mysql"⟩ := by decide +kernel
  have htaken : (Expander.ofProfile {}).templatesTaken "a ?d {b ?|{? ?s}} '?'"
      [.int 5, .null, .int 1, .text "x ?# {? y ?s}", .text "t", .skip, .text "\x60?\x60 ?d",
        .int 3, .foreign] = ["x ?# {? y ?s}".toList, "\x60?\x60 ?d".toList] := by decide +kernel
  obtain ⟨hcount, -, -⟩ := consumed_eq_questionMarks hexpanded
  rw [htaken] at hcount
  exact ⟨hexpanded, htaken, hcount⟩

end Expander

end SqlTemplate
