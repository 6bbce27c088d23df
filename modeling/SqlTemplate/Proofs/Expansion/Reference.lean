import SqlTemplate.Proofs.Expansion.Ledger
import SqlTemplate.Proofs.Template.OnePass

/-!
# Expansion by parsing and evaluating

A template can be expanded in a simpler way than by scanning: read it once into a
tree, and walk over the tree from left to right with a cursor into the list of
parameters and a skip flag.  `Expander.evaluate` does this, and for well-formed
templates it gives what `Expander.expand` gives (`expand_eq_evaluate`).

The evaluation is written down without supplies and steps: the parameters are a
list that stays as it is, and cursor and flag go in and out.

## Strategy

A supply belongs to a cursor if its pending parameters are those from the cursor
on (`AtCursor`), which every step maintains since it takes its parameters from the
front.  `Simulates` compares one step with one evaluation from all such supplies.
It is closed under doing one thing after the other, so the recursion over the tree
only has to look at placeholders, gates and the skip flag of a block.

The evaluation gives up on a nested text that is not well formed.  The ledger of
the expansion lists these texts, so if all of them are well formed, it never does.
-/

namespace SqlTemplate

/-! ## The evaluation -/

/-- Why an evaluation stops. -/
inductive Stop where
  /-- The expansion fails for this reason. -/
  | failure (failure : Failure)
  /-- A template cannot be parsed. -/
  | illFormed
  /-- More templates are nested inside each other than there are parameters. -/
  | tooDeep
deriving DecidableEq, Repr

/-- What an evaluation comes to, and the cursor and the skip flag behind it. -/
structure Evaluated (α : Type) where
  value : α
  cursor : Nat
  skip : Bool
deriving DecidableEq, Repr

section

variable (quoter : Quoter) (parameters : List Value)
  (evaluateNested : List Char → Nat → Bool → Except Stop (Evaluated (List Char)))

/-- A placeholder renders the parameter at the cursor. -/
def evaluatePlaceholder (tag : Tag) (cursor : Nat) (skip : Bool) :
    Except Stop (Evaluated (List Char)) :=
  match parameters[cursor]? with
  | none => .error (.failure (.underflow (cursor + 1) parameters.length))
  | some .skip => .ok ⟨[], cursor + 1, true⟩
  | some value =>
      match present quoter tag value with
      | .error refusal => .error (.failure (refusal.toFailure tag (cursor + 1)))
      | .ok (.literal text) => .ok ⟨text, cursor + 1, skip⟩
      | .ok (.template text) => evaluateNested text (cursor + 1) skip

/-- A gate tells whether the parameter at the cursor is the skip mark. -/
def evaluateGate (gated : Bool) (cursor : Nat) (skip : Bool) : Except Stop (Evaluated Bool) :=
  if gated then
    match parameters[cursor]? with
    | none => .error (.failure (.underflow (cursor + 1) parameters.length))
    | some .skip => .ok ⟨true, cursor + 1, skip⟩
    | some _ => .ok ⟨false, cursor + 1, skip⟩
  else .ok ⟨false, cursor, skip⟩

mutual

/-- Evaluates a node.  A block lowers the skip flag for its alternatives and gives
it back as it was. -/
def Node.evaluate : Node → Nat → Bool → Except Stop (Evaluated (List Char))
  | .verbatim text, cursor, skip => .ok ⟨text, cursor, skip⟩
  | .placeholder tag, cursor, skip =>
      evaluatePlaceholder quoter parameters evaluateNested tag cursor skip
  | .block gated alternatives, cursor, skip => do
      let gate ← evaluateGate parameters gated cursor skip
      let inside ← Template.evaluateAll alternatives gate.cursor false
      let text :=
        if gate.value || inside.skip then []
        else match inside.value with
          | [] => []
          | first :: _ => ' ' :: first ++ [' ']
      return ⟨text, inside.cursor, gate.skip⟩
  | .fault _, _, _ => .error .illFormed

/-- Evaluates the nodes of a template one after the other. -/
def Template.evaluate : List Node → Nat → Bool → Except Stop (Evaluated (List Char))
  | [], cursor, skip => .ok ⟨[], cursor, skip⟩
  | node :: rest, cursor, skip => do
      let first ← node.evaluate cursor skip
      let others ← Template.evaluate rest first.cursor first.skip
      return ⟨first.value ++ others.value, others.cursor, others.skip⟩

/-- Evaluates templates one after the other. -/
def Template.evaluateAll :
    List (List Node) → Nat → Bool → Except Stop (Evaluated (List (List Char)))
  | [], cursor, skip => .ok ⟨[], cursor, skip⟩
  | template :: rest, cursor, skip => do
      let first ← Template.evaluate template cursor skip
      let others ← Template.evaluateAll rest first.cursor first.skip
      return ⟨first.value :: others.value, others.cursor, others.skip⟩

end

end

/-- Parses a text in one pass and evaluates the tree. -/
def evaluateParsed (quoter : Quoter) (parameters : List Value)
    (evaluateNested : List Char → Nat → Bool → Except Stop (Evaluated (List Char)))
    (text : List Char) (cursor : Nat) (skip : Bool) : Except Stop (Evaluated (List Char)) :=
  match readOnce? text with
  | none => .error .illFormed
  | some nodes => Template.evaluate quoter parameters evaluateNested nodes cursor skip

/-- Evaluates a text, and nested texts in the same way up to a depth. -/
def evaluateText (quoter : Quoter) (parameters : List Value) :
    Nat → List Char → Nat → Bool → Except Stop (Evaluated (List Char))
  | 0 => evaluateParsed quoter parameters fun _ _ _ => .error .tooDeep
  | depth + 1 => evaluateParsed quoter parameters (evaluateText quoter parameters depth)

/-- Expands a template by parsing and evaluating it. -/
def Expander.evaluate (expander : Expander) (template : String) (parameters : List Value) :
    Except Stop Expanded := do
  let evaluated ← evaluateText expander.quoter parameters parameters.length template.toList 0 false
  return {
    sql := String.ofList evaluated.value
    consumed := evaluated.cursor
    supplied := parameters.length
    dialect := expander.quoter.dialect }

/-! ## Simulation -/

/-- A run of the program as an evaluation. -/
def Evaluated.ofRun {α : Type} (run : Except Failure α × Supply) : Except Stop (Evaluated α) :=
  match run with
  | (.ok value, after) => .ok ⟨value, after.taken, after.skipRaised⟩
  | (.error failure, _) => .error (.failure failure)

/-- All texts in a ledger that are taken as templates are well formed. -/
def TakesWellFormed (ledger : List Intake) : Prop :=
  ∀ intake ∈ ledger, ∀ text, intake.template? = some text → wellFormed text

/-- An evaluation does what a step does, if no more than `size` parameters are
pending and the step takes only well-formed templates. -/
def Simulates {α : Type} (parameters : List Value) (size : Nat)
    (evaluation : Nat → Bool → Except Stop (Evaluated α)) (step : Expansion α)
    (ledger : Supply → List Intake) : Prop :=
  ∀ supply, AtCursor parameters supply → supply.pending.length ≤ size →
    TakesWellFormed (ledger supply) →
    evaluation supply.taken supply.skipRaised = Evaluated.ofRun (step supply)

namespace Simulates

variable {α β : Type} {parameters : List Value} {size : Nat}
  {evaluation : Nat → Bool → Except Stop (Evaluated α)} {step : Expansion α}
  {ledger : Supply → List Intake}

theorem pure (value : α) :
    Simulates parameters size (fun cursor skip => .ok ⟨value, cursor, skip⟩)
      (Pure.pure value : Expansion α) ledger :=
  fun _ _ _ _ => rfl

theorem bind {following : Evaluated α → Except Stop (Evaluated β)} {next : α → Expansion β}
    {nextLedger : Supply → List Intake}
    (hstep : Simulates parameters size evaluation step ledger) (hdetermined : Determined α step)
    (hnext : ∀ value, Simulates parameters size
      (fun cursor skip => following ⟨value, cursor, skip⟩) (next value) nextLedger) :
    Simulates parameters size (fun cursor skip => evaluation cursor skip >>= following)
      (step >>= next) fun supply => ledger supply ++ ledgerAfter (step supply) nextLedger := by
  intro supply hcursor hsize hledger
  rw [TakesWellFormed, List.forall_mem_append] at hledger
  obtain ⟨hfirst, hothers⟩ := hledger
  have hafter := hcursor.after hdetermined
  have hshorter := length_pending_le hdetermined supply
  show evaluation supply.taken supply.skipRaised >>= following = _
  rw [hstep supply hcursor hsize hfirst]
  rcases hrun : step supply with ⟨failure | value, after⟩
  · rw [Expansion.bind_of_error hrun]
    rfl
  · rw [ledgerAfter_of_ok hrun] at hothers
    rw [hrun] at hafter hshorter
    rw [Expansion.bind_of_ok hrun]
    exact hnext value after hafter (Nat.le_trans hshorter hsize) hothers

theorem map (hstep : Simulates parameters size evaluation step ledger) (f : α → β) :
    Simulates parameters size
      (fun cursor skip => evaluation cursor skip >>= fun evaluated =>
        .ok ⟨f evaluated.value, evaluated.cursor, evaluated.skip⟩)
      (step >>= fun value => Pure.pure (f value)) ledger := by
  intro supply hcursor hsize hledger
  show evaluation supply.taken supply.skipRaised >>= _ = _
  rw [hstep supply hcursor hsize hledger]
  rcases hrun : step supply with ⟨failure | value, after⟩
  · rw [Expansion.bind_of_error hrun]
    rfl
  · rw [Expansion.bind_of_ok hrun]
    rfl

/-- Inside of a block the flag begins lowered, and behind it the flag is as it was
before. -/
theorem isolateSkip (hstep : Simulates parameters size evaluation step ledger)
    (f : α → Bool → β) :
    Simulates parameters size
      (fun cursor skip => evaluation cursor false >>= fun inside =>
        .ok ⟨f inside.value inside.skip, inside.cursor, skip⟩)
      (Expansion.isolateSkip step >>= fun result => Pure.pure (f result.1 result.2))
      fun supply => ledger { supply with skipRaised := false } := by
  intro supply hcursor hsize hledger
  -- cursors do not depend on the flag
  have hinside := hstep { supply with skipRaised := false } ⟨hcursor.le, hcursor.pending⟩ hsize
    hledger
  show evaluation supply.taken false >>= _ = _
  rw [Expansion.bind_apply, Expansion.isolateSkip]
  rcases hrun : step { supply with skipRaised := false } with ⟨failure | value, after⟩
  · rw [hrun] at hinside
    rw [hinside]
    rfl
  · rw [hrun] at hinside
    rw [hinside]
    rfl

end Simulates

/-! ## From placeholders to whole expansions -/

section

variable {quoter : Quoter} {parameters : List Value}
  {evaluateNested : List Char → Nat → Bool → Except Stop (Evaluated (List Char))}
  {expandNested : List Char → Expansion (List Char)}
  {nestedLedger : List Char → Supply → List Intake} {size : Nat}

theorem simulates_passGate (gated : Bool) :
    Simulates parameters size (evaluateGate parameters gated) (passGate gated)
      (gateLedger gated) := by
  intro supply hcursor hsize hledger
  cases gated with
  | false => rfl
  | true =>
      cases hpending : supply.pending with
      | nil =>
          have hend := hcursor.taken_eq_length hpending
          simp [evaluateGate, passGate_of_pending_nil hpending, Evaluated.ofRun, hend]
      | cons value rest =>
          have hvalue := hcursor.getElem?_of_pending_cons hpending
          rw [passGate_of_pending_cons hpending]
          cases value <;> simp [evaluateGate, hvalue, Evaluated.ofRun, Value.isSkip]

theorem evaluatePlaceholder_of_ne_skip {tag : Tag} {cursor : Nat} {skip : Bool} {value : Value}
    (hvalue : parameters[cursor]? = some value) (hskip : value ≠ .skip) :
    evaluatePlaceholder quoter parameters evaluateNested tag cursor skip =
      match present quoter tag value with
      | .error refusal => .error (.failure (refusal.toFailure tag (cursor + 1)))
      | .ok (.literal text) => .ok ⟨text, cursor + 1, skip⟩
      | .ok (.template text) => evaluateNested text (cursor + 1) skip := by
  rw [evaluatePlaceholder, hvalue]
  cases value with
  | skip => exact absurd rfl hskip
  | _ => rfl

/-- A nested text is expanded only after a parameter has been taken. -/
theorem simulates_expandPlaceholder
    (h : ∀ text, wellFormed text → ∀ small < size, Simulates parameters small
      (evaluateNested text) (expandNested text) (nestedLedger text)) (tag : Tag) :
    Simulates parameters size (evaluatePlaceholder quoter parameters evaluateNested tag)
      (expandPlaceholder quoter expandNested tag)
      (placeholderLedger quoter nestedLedger tag) := by
  intro supply hcursor hsize hledger
  have hcases := placeholderRun quoter expandNested tag supply
  generalize expandPlaceholder quoter expandNested tag supply = run at hcases ⊢
  cases hcases with
  | missing hpending =>
      have hend := hcursor.taken_eq_length hpending
      simp [evaluatePlaceholder, Evaluated.ofRun, hend]
  | skipped hpending =>
      simp [evaluatePlaceholder, hcursor.getElem?_of_pending_cons hpending, Evaluated.ofRun]
  | refused hpending hskip hpresent =>
      have hvalue := hcursor.getElem?_of_pending_cons hpending
      rw [evaluatePlaceholder_of_ne_skip hvalue hskip, hpresent]
      rfl
  | literal hpending hskip hpresent =>
      have hvalue := hcursor.getElem?_of_pending_cons hpending
      rw [evaluatePlaceholder_of_ne_skip hvalue hskip, hpresent]
      rfl
  | @template value rest text hpending hskip hpresent =>
      have hvalue := hcursor.getElem?_of_pending_cons hpending
      rw [evaluatePlaceholder_of_ne_skip hvalue hskip, hpresent]
      rw [placeholderLedger_of_template hpending hpresent, TakesWellFormed,
        List.forall_mem_cons] at hledger
      have hformed := hledger.1 text (template?_slot_of_present hpresent)
      -- the parameter that holds the nested text is not pending any more
      have hshorter : rest.length < size := by
        rw [hpending, List.length_cons] at hsize
        exact hsize
      exact h text hformed rest.length hshorter _ (hcursor.of_pending_cons hpending)
        (Nat.le_refl _) hledger.2

theorem simulates_expandAll {alternatives : List (List Node)}
    (hnested : ∀ text, Determined _ (expandNested text))
    (hfree : Template.allFaultFree alternatives)
    (h : ∀ alternative ∈ alternatives, Template.faultFree alternative →
      Simulates parameters size
        (Template.evaluate quoter parameters evaluateNested alternative)
        (Template.expand quoter expandNested alternative)
        (Template.ledger quoter expandNested nestedLedger alternative)) :
    Simulates parameters size (Template.evaluateAll quoter parameters evaluateNested alternatives)
      (Template.expandAll quoter expandNested alternatives)
      (Template.ledgerAll quoter expandNested nestedLedger alternatives) := by
  induction alternatives with
  | nil => exact .pure []
  | cons alternative rest ih =>
      rw [Template.allFaultFree, Bool.and_eq_true] at hfree
      have hrest := ih hfree.2 fun other hmem => h other (List.mem_cons_of_mem _ hmem)
      exact (h alternative (List.mem_cons_self ..) hfree.1).bind
        (compositional_determined.expand hnested alternative) fun text => hrest.map (text :: ·)

theorem simulates_expand (hnested : ∀ text, Determined _ (expandNested text))
    (h : ∀ text, wellFormed text → ∀ small < size, Simulates parameters small
      (evaluateNested text) (expandNested text) (nestedLedger text))
    {nodes : List Node} (hfree : Template.faultFree nodes) :
    Simulates parameters size (Template.evaluate quoter parameters evaluateNested nodes)
      (Template.expand quoter expandNested nodes)
      (Template.ledger quoter expandNested nestedLedger nodes) := by
  have hcons : ∀ {node : Node} {rest : List Node},
      Simulates parameters size (node.evaluate quoter parameters evaluateNested)
        (node.expand quoter expandNested) (node.ledger quoter expandNested nestedLedger) →
      Simulates parameters size (Template.evaluate quoter parameters evaluateNested rest)
        (Template.expand quoter expandNested rest)
        (Template.ledger quoter expandNested nestedLedger rest) →
      Simulates parameters size (Template.evaluate quoter parameters evaluateNested (node :: rest))
        (Template.expand quoter expandNested (node :: rest))
        (Template.ledger quoter expandNested nestedLedger (node :: rest)) :=
    fun hnode hrest => hnode.bind (compositional_determined.expandNode hnested _) fun text =>
      hrest.map (text ++ ·)
  induction nodes using Template.induction with
  | nil => exact .pure []
  | verbatim text rest ih => exact hcons (.pure text) (ih hfree)
  | placeholder tag rest ih => exact hcons (simulates_expandPlaceholder h tag) (ih hfree)
  | block gated alternatives rest ihalternatives ih =>
      rw [Template.faultFree, Node.faultFree, Bool.and_eq_true] at hfree
      have hinside := simulates_expandAll hnested hfree.1 ihalternatives
      refine hcons ((simulates_passGate gated).bind
        (compositional_determined.passGate gated) fun dropped => ?_) (ih hfree.2)
      exact hinside.isolateSkip fun texts raised => if dropped || raised then [] else blockText texts
  | fault fault rest ih => simp [Template.faultFree, Node.faultFree] at hfree

end

theorem evaluateParsed_eq {quoter : Quoter} {parameters : List Value}
    {evaluateNested : List Char → Nat → Bool → Except Stop (Evaluated (List Char))}
    {text : List Char} (h : wellFormed text) :
    evaluateParsed quoter parameters evaluateNested text =
      Template.evaluate quoter parameters evaluateNested (Template.read text) := by
  funext cursor skip
  rw [evaluateParsed, readOnce?_eq_read h]

theorem simulates_expandWithin (quoter : Quoter) (parameters : List Value) (depth : Nat)
    {text : List Char} (h : wellFormed text) :
    Simulates parameters depth (evaluateText quoter parameters depth text)
      (expandWithin quoter depth text) (ledgerWithin quoter depth text) := by
  induction depth generalizing text with
  | zero =>
      rw [evaluateText, evaluateParsed_eq h]
      -- nothing is pending, so no nested text is reached
      exact simulates_expand (fun _ => compositional_determined.pure [])
        (fun _ _ small hsmall => absurd hsmall (Nat.not_lt_zero small))
        ((faultFree_read text).trans h)
  | succ depth ih =>
      rw [evaluateText, evaluateParsed_eq h]
      refine simulates_expand (fun nested => compositional_determined.expandWithin depth nested)
        (fun nested hnested small hsmall => ?_) ((faultFree_read text).trans h)
      exact fun supply hcursor hsize => ih hnested supply hcursor (by omega)

/-- **Scanning is parsing and evaluating.**  If a template and all texts that its
expansion takes as templates are well formed, it is expanded to what the evaluation
of its tree gives: the same statement and the same number of parameters, or the
same failure at the same parameter. -/
theorem Expander.expand_eq_evaluate (expander : Expander) (template : String)
    (parameters : List Value) (htemplate : wellFormed template.toList)
    (hnested : ∀ text ∈ expander.templatesTaken template parameters, wellFormed text) :
    (expander.expand template parameters).mapError .failure =
      expander.evaluate template parameters := by
  have hledger : TakesWellFormed (expander.ledger template parameters) := fun intake hmem text htext =>
    hnested text (List.mem_filterMap.2 ⟨intake, hmem, htext⟩)
  have hcursor : AtCursor parameters (Supply.ofList parameters) := ⟨Nat.zero_le _, rfl⟩
  have hrun := simulates_expandWithin expander.quoter parameters parameters.length htemplate
    (Supply.ofList parameters) hcursor (Nat.le_refl _) hledger
  have hevaluate : evaluateText expander.quoter parameters parameters.length template.toList 0
      false = _ := hrun
  rw [evaluate, hevaluate, expand_eq_within (Nat.le_refl _)]
  rcases expandWithin expander.quoter parameters.length template.toList
    (Supply.ofList parameters) with ⟨failure | sql, after⟩ <;> rfl

/-- Bars and question marks next to each other, a bar in a comment, and a template in
an alternative that is not kept.  The expansion succeeds with an integer at the end
and refuses a text. -/
theorem expand_eq_evaluate_nested :
    (Expander.ofProfile {}).evaluate "{?{a ?|/*|*/?s}|{}?|?d}"
        [.null, .int 1, .text "'\x7b' {?x|?#|}", .text "t", .skip, .int 2, .int 3] =
      .ok ⟨"   a 1  ", 7, 7, "mysql"⟩ ∧
    (Expander.ofProfile {}).evaluate "{?{a ?|/*|*/?s}|{}?|?d}"
        [.null, .int 1, .text "'\x7b' {?x|?#|}", .text "t", .skip, .int 2, .text "u"] =
      .error (.failure (.unsuitable .notInteger .integer 7 .text)) := by
  have hkept := Expander.expand_eq_evaluate (Expander.ofProfile {}) "{?{a ?|/*|*/?s}|{}?|?d}"
    [.null, .int 1, .text "'\x7b' {?x|?#|}", .text "t", .skip, .int 2, .int 3]
    (by decide +kernel) (by decide +kernel)
  have hrefused := Expander.expand_eq_evaluate (Expander.ofProfile {}) "{?{a ?|/*|*/?s}|{}?|?d}"
    [.null, .int 1, .text "'\x7b' {?x|?#|}", .text "t", .skip, .int 2, .text "u"]
    (by decide +kernel) (by decide +kernel)
  rw [← hkept, ← hrefused]
  decide +kernel

end SqlTemplate
