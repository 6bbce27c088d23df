import SqlTemplate.Proofs.Expansion.Prefix

/-!
# The ledger of an expansion

The ledger of an expansion lists the parameters that it takes, each with the slot
that takes it: the gate of a block, or a placeholder with its tag.  Parameters of
blocks that are dropped and of alternatives that are not kept are listed too, and
so are those of nested templates, behind the template that they belong to.  If the
expansion fails, the ledger ends there.

The ledger leaves nothing out and adds nothing: its values are the parameters that
were consumed, in their order (`Expander.values_ledger`).

What is shown of a step together with its ledger, for the single steps and for two of
them one after the other, holds of every expansion (`Ledgered.expandWithin`).
-/

namespace SqlTemplate

/-- A parameter that is taken, and the slot that takes it. -/
inductive Intake where
  | gate (value : Value)
  | slot (tag : Tag) (value : Value)

namespace Intake

/-- The parameter. -/
def value : Intake → Value
  | gate value | slot _ value => value

/-- The text of the template that is taken, if it is one. -/
def template? : Intake → Option (List Char)
  | slot .template (.scalar (.text text)) => some text.toList
  | _ => none

end Intake

/-- What is listed after a run, which is nothing if the run fails. -/
def ledgerAfter {α : Type} (run : Except Failure α × Supply) (ledger : Supply → List Intake) :
    List Intake :=
  match run with
  | (.ok _, after) => ledger after
  | (.error _, _) => []

theorem ledgerAfter_of_ok {α : Type} {run : Except Failure α × Supply} {value : α}
    {after : Supply} (h : run = (.ok value, after)) (ledger : Supply → List Intake) :
    ledgerAfter run ledger = ledger after := by
  rw [h, ledgerAfter]

theorem ledgerAfter_of_error {α : Type} {run : Except Failure α × Supply} {failure : Failure}
    {after : Supply} (h : run = (.error failure, after)) (ledger : Supply → List Intake) :
    ledgerAfter run ledger = [] := by
  rw [h, ledgerAfter]

section

variable (quoter : Quoter) (expandNested : List Char → Expansion (List Char))
  (nestedLedger : List Char → Supply → List Intake)

/-- What a placeholder takes, and the template after it. -/
def placeholderLedger (tag : Tag) (supply : Supply) : List Intake :=
  match supply.pending with
  | [] => []
  | value :: rest =>
      .slot tag value ::
        match present quoter tag value with
        | .ok (.template text) =>
            nestedLedger text { supply with pending := rest, taken := supply.taken + 1 }
        | _ => []

/-- What the gate of a block takes. -/
def gateLedger (gated : Bool) (supply : Supply) : List Intake :=
  if gated then (supply.pending.take 1).map .gate else []

mutual

/-- What a node takes. -/
def Node.ledger : Node → Supply → List Intake
  | .verbatim _, _ | .fault _, _ => []
  | .placeholder tag, supply => placeholderLedger quoter nestedLedger tag supply
  | .block gated alternatives, supply =>
      gateLedger gated supply ++ ledgerAfter (passGate gated supply) fun after =>
        Template.ledgerAll alternatives { after with skipRaised := false }

/-- What the nodes of a template take. -/
def Template.ledger : List Node → Supply → List Intake
  | [], _ => []
  | node :: rest, supply =>
      node.ledger supply ++
        ledgerAfter (node.expand quoter expandNested supply) (Template.ledger rest)

/-- What several templates take. -/
def Template.ledgerAll : List (List Node) → Supply → List Intake
  | [], _ => []
  | template :: rest, supply =>
      Template.ledger template supply ++
        ledgerAfter (Template.expand quoter expandNested template supply) (Template.ledgerAll rest)

end

end

section

variable {quoter : Quoter} {nestedLedger : List Char → Supply → List Intake} {tag : Tag}
  {supply : Supply} {value : Value} {rest : List Value}

/-- Only texts are taken as templates. -/
theorem template?_slot_of_present {text : List Char}
    (h : present quoter tag value = .ok (.template text)) :
    (Intake.slot tag value).template? = some text := by
  by_cases htag : tag = .template
  · subst htag
    simp only [present] at h
    split at h
    · simpa [Intake.template?] using h
    · cases h
  · exact absurd h (present_ne_template htag value text)

theorem placeholderLedger_of_template {text : List Char} (h : supply.pending = value :: rest)
    (hpresent : present quoter tag value = .ok (.template text)) :
    placeholderLedger quoter nestedLedger tag supply =
      .slot tag value ::
        nestedLedger text { supply with pending := rest, taken := supply.taken + 1 } := by
  simp only [placeholderLedger, h, hpresent]

theorem placeholderLedger_of_literal (h : supply.pending = value :: rest)
    (hpresent : ∀ text, present quoter tag value ≠ .ok (.template text)) :
    placeholderLedger quoter nestedLedger tag supply = [.slot tag value] := by
  simp only [placeholderLedger, h]

end

/-- What a template takes in which at most `depth` templates are nested inside each
other. -/
def ledgerWithin (quoter : Quoter) : Nat → List Char → Supply → List Intake
  | 0, text => Template.ledger quoter (fun _ => pure []) (fun _ _ => []) (Template.read text)
  | depth + 1, text =>
      Template.ledger quoter (expandWithin quoter depth) (ledgerWithin quoter depth)
        (Template.read text)

namespace Expander

/-- What an expansion takes. -/
def ledger (expander : Expander) (template : String) (parameters : List Value) : List Intake :=
  ledgerWithin expander.quoter parameters.length template.toList (Supply.ofList parameters)

/-- The texts that are taken as templates in an expansion. -/
def templatesTaken (expander : Expander) (template : String) (parameters : List Value) :
    List (List Char) :=
  (expander.ledger template parameters).filterMap Intake.template?

end Expander

/-! ## Properties of steps with their ledgers -/

/-- A property of steps with their ledgers that the single steps of an expansion have and
that two steps one after the other inherit. -/
structure Ledgered (quoter : Quoter)
    (Good : ∀ α : Type, Expansion α → (Supply → List Intake) → Prop) : Prop where
  pure : ∀ {α : Type} (value : α), Good α (pure value) fun _ => []
  malformed : ∀ {α : Type} (fault : Fault), Good α (throw (.malformed fault)) fun _ => []
  bind : ∀ {α β : Type} {step : Expansion α} {next : α → Expansion β}
    {ledger following : Supply → List Intake}, Good α step ledger →
    (∀ value, Good β (next value) following) →
    Good β (step >>= next) fun supply => ledger supply ++ ledgerAfter (step supply) following
  isolateSkip : ∀ {α : Type} {step : Expansion α} {ledger : Supply → List Intake},
    Good α step ledger →
    Good (α × Bool) (Expansion.isolateSkip step) fun supply =>
      ledger { supply with skipRaised := false }
  passGate : ∀ gated, Good Bool (passGate gated) (gateLedger gated)
  placeholder : ∀ {expandNested : List Char → Expansion (List Char)}
    {nestedLedger : List Char → Supply → List Intake} (tag : Tag),
    (∀ text, Good _ (expandNested text) (nestedLedger text)) →
    Good _ (expandPlaceholder quoter expandNested tag) (placeholderLedger quoter nestedLedger tag)

namespace Ledgered

variable {quoter : Quoter} {Good : ∀ α : Type, Expansion α → (Supply → List Intake) → Prop}
  (hgood : Ledgered quoter Good) {expandNested : List Char → Expansion (List Char)}
  {nestedLedger : List Char → Supply → List Intake}

include hgood

/-- Whatever is done with the value, nothing more is listed. -/
theorem map {α β : Type} {step : Expansion α} {ledger : Supply → List Intake}
    (h : Good α step ledger) (f : α → β) :
    Good β (step >>= fun value => Pure.pure (f value)) ledger := by
  have hboth := hgood.bind h fun value => hgood.pure (f value)
  have hledger : (fun supply => ledger supply ++ ledgerAfter (step supply) fun _ => []) = ledger := by
    funext supply
    rcases hrun : step supply with ⟨failure | value, after⟩
    · rw [← hrun, ledgerAfter_of_error hrun, List.append_nil]
    · rw [← hrun, ledgerAfter_of_ok hrun, List.append_nil]
  rwa [hledger] at hboth

theorem expandAll {alternatives : List (List Node)}
    (h : ∀ alternative ∈ alternatives, Good _ (Template.expand quoter expandNested alternative)
      (Template.ledger quoter expandNested nestedLedger alternative)) :
    Good _ (Template.expandAll quoter expandNested alternatives)
      (Template.ledgerAll quoter expandNested nestedLedger alternatives) := by
  induction alternatives with
  | nil => exact hgood.pure []
  | cons alternative rest ih =>
      exact hgood.bind (h alternative (List.mem_cons_self ..)) fun _ =>
        hgood.map (ih fun other hmem => h other (List.mem_cons_of_mem _ hmem)) _

theorem block {alternatives : List (List Node)}
    (h : ∀ alternative ∈ alternatives, Good _ (Template.expand quoter expandNested alternative)
      (Template.ledger quoter expandNested nestedLedger alternative)) (gated : Bool) :
    Good _ ((Node.block gated alternatives).expand quoter expandNested)
      ((Node.block gated alternatives).ledger quoter expandNested nestedLedger) :=
  hgood.bind (hgood.passGate gated) fun _ => hgood.map (hgood.isolateSkip (hgood.expandAll h)) _

theorem expand (h : ∀ text, Good _ (expandNested text) (nestedLedger text)) (nodes : List Node) :
    Good _ (Template.expand quoter expandNested nodes)
      (Template.ledger quoter expandNested nestedLedger nodes) := by
  have hcons : ∀ {node : Node} {rest : List Node},
      Good _ (node.expand quoter expandNested) (node.ledger quoter expandNested nestedLedger) →
      Good _ (Template.expand quoter expandNested rest)
        (Template.ledger quoter expandNested nestedLedger rest) →
      Good _ (Template.expand quoter expandNested (node :: rest))
        (Template.ledger quoter expandNested nestedLedger (node :: rest)) :=
    fun hnode hrest => hgood.bind hnode fun _ => hgood.map hrest _
  induction nodes using Template.induction with
  | nil => exact hgood.pure []
  | verbatim text rest ih => exact hcons (hgood.pure text) ih
  | placeholder tag rest ih => exact hcons (hgood.placeholder tag h) ih
  | block gated alternatives rest ihalternatives ih =>
      exact hcons (hgood.block ihalternatives gated) ih
  | fault fault rest ih => exact hcons (hgood.malformed fault) ih

/-- What every single step does, every expansion does. -/
theorem expandWithin (depth : Nat) (text : List Char) :
    Good _ (SqlTemplate.expandWithin quoter depth text) (ledgerWithin quoter depth text) := by
  induction depth generalizing text with
  | zero => exact hgood.expand (fun _ => hgood.pure []) _
  | succ depth ih => exact hgood.expand ih _

end Ledgered

/-! ## The ledger is complete -/

/-- A ledger that lists just the parameters that a step takes. -/
def Accounts {α : Type} (step : Expansion α) (ledger : Supply → List Intake) : Prop :=
  ∀ supply, supply.pending = (ledger supply).map Intake.value ++ (step supply).2.pending

namespace Accounts

variable {α β : Type} {step : Expansion α} {ledger : Supply → List Intake}

/-- A step that takes nothing. -/
theorem of_pending_eq (h : ∀ supply, (step supply).2.pending = supply.pending) :
    Accounts step fun _ => [] :=
  fun supply => (h supply).symm

theorem bind {next : α → Expansion β} {following : Supply → List Intake}
    (hstep : Accounts step ledger) (hnext : ∀ value, Accounts (next value) following) :
    Accounts (step >>= next) fun supply =>
      ledger supply ++ ledgerAfter (step supply) following := by
  intro supply
  show supply.pending = (ledger supply ++ ledgerAfter (step supply) following).map Intake.value ++ _
  have hfirst := hstep supply
  rcases hrun : step supply with ⟨failure | value, after⟩
  · rw [hrun] at hfirst
    rw [← hrun, ledgerAfter_of_error hrun, Expansion.bind_of_error hrun, List.append_nil, hfirst]
  · rw [hrun] at hfirst
    rw [← hrun, ledgerAfter_of_ok hrun, Expansion.bind_of_ok hrun, List.map_append,
      List.append_assoc, ← hnext value after, hfirst]

theorem map (hstep : Accounts step ledger) (f : α → β) :
    Accounts (step >>= fun value => pure (f value)) ledger := by
  intro supply
  have hfirst := hstep supply
  rcases hrun : step supply with ⟨failure | value, after⟩
  · rw [hrun] at hfirst
    rw [Expansion.bind_of_error hrun, hfirst]
  · rw [hrun] at hfirst
    rw [Expansion.bind_of_ok hrun, hfirst, Expansion.pure_apply]

theorem isolateSkip (hstep : Accounts step ledger) :
    Accounts (Expansion.isolateSkip step) fun supply =>
      ledger { supply with skipRaised := false } :=
  fun supply => hstep { supply with skipRaised := false }

end Accounts

section

variable {quoter : Quoter} {expandNested : List Char → Expansion (List Char)}
  {nestedLedger : List Char → Supply → List Intake}

theorem accounts_passGate (gated : Bool) : Accounts (passGate gated) (gateLedger gated) := by
  cases gated with
  | false => exact .of_pending_eq fun _ => rfl
  | true =>
      intro supply
      cases hpending : supply.pending with
      | nil => simp [passGate_of_pending_nil hpending, gateLedger, hpending]
      | cons value rest =>
          simp [passGate_of_pending_cons hpending, gateLedger, hpending, Intake.value]

theorem accounts_expandPlaceholder (tag : Tag)
    (h : ∀ text, Accounts (expandNested text) (nestedLedger text)) :
    Accounts (expandPlaceholder quoter expandNested tag)
      (placeholderLedger quoter nestedLedger tag) := by
  intro supply
  have hcases := placeholderRun quoter expandNested tag supply
  generalize expandPlaceholder quoter expandNested tag supply = run at hcases ⊢
  cases hcases with
  | missing hpending => simp [placeholderLedger, hpending]
  | skipped hpending =>
      rw [placeholderLedger_of_literal hpending (present_skip_ne_template tag), hpending]
      rfl
  | refused hpending hskip hpresent =>
      rw [placeholderLedger_of_literal hpending (by simp [hpresent]), hpending]
      rfl
  | literal hpending hskip hpresent =>
      rw [placeholderLedger_of_literal hpending (by simp [hpresent]), hpending]
      rfl
  | template hpending hskip hpresent =>
      rw [placeholderLedger_of_template hpending hpresent, hpending, List.map_cons,
        List.cons_append]
      exact congrArg (_ :: ·) (h _ { supply with pending := _, taken := supply.taken + 1 })

end

/-- Every single step takes just the parameters that are listed for it. -/
theorem ledgered_accounts (quoter : Quoter) :
    Ledgered quoter fun _ step ledger => Accounts step ledger where
  pure _ := .of_pending_eq fun _ => rfl
  malformed _ := .of_pending_eq fun _ => rfl
  bind hstep hnext := hstep.bind hnext
  isolateSkip hstep := hstep.isolateSkip
  passGate gated := accounts_passGate gated
  placeholder tag h := accounts_expandPlaceholder tag h

theorem accounts_expandWithin (quoter : Quoter) (depth : Nat) (text : List Char) :
    Accounts (expandWithin quoter depth text) (ledgerWithin quoter depth text) :=
  (ledgered_accounts quoter).expandWithin depth text

namespace Expander

/-- The text of an expansion is read at the depth of its ledger. -/
theorem expandText_eq_within (expander : Expander) (template : String)
    (parameters : List Value) :
    expandText expander.quoter template.toList (Supply.ofList parameters) =
      expandWithin expander.quoter parameters.length template.toList (Supply.ofList parameters) :=
  expandText_eq_expandWithin _ _ (Nat.le_refl _)

/-- **The ledger lists the parameters that are taken, and no others**, whether the
expansion succeeds or fails. -/
theorem values_ledger (expander : Expander) (template : String) (parameters : List Value) :
    (expander.ledger template parameters).map Intake.value =
      parameters.take
        (expandText expander.quoter template.toList (Supply.ofList parameters)).2.taken := by
  obtain ⟨outcome, after, hrun, -⟩ := takesOnly_expandWithin expander.quoter
    parameters.length template.toList parameters
  have haccounts := accounts_expandWithin expander.quoter parameters.length template.toList
    (Supply.ofList parameters)
  -- both lists stand in front of what the run leaves pending
  rw [hrun.pending, hrun.run] at haccounts
  rw [expandText_eq_within]
  calc (expander.ledger template parameters).map Intake.value
      = parameters.take after.taken := (List.append_cancel_right haccounts).symm
    _ = _ := congrArg (fun run => parameters.take run.2.taken) hrun.run.symm

/-- There are as many entries in the ledger as parameters in front of the cursor. -/
theorem length_ledger (expander : Expander) (template : String) (parameters : List Value) :
    (expander.ledger template parameters).length =
        (expandText expander.quoter template.toList (Supply.ofList parameters)).2.taken ∧
      (expander.ledger template parameters).length ≤ parameters.length := by
  have hcursor : AtCursor parameters
      (expandText expander.quoter template.toList (Supply.ofList parameters)).2 := by
    rw [expandText_eq_within]
    exact AtCursor.after ⟨Nat.zero_le _, rfl⟩ (compositional_determined.expandWithin _ _)
  have hvalues := congrArg List.length (expander.values_ledger template parameters)
  rw [List.length_map, List.length_take_of_le hcursor.le] at hvalues
  exact ⟨hvalues, hvalues ▸ hcursor.le⟩

end Expander

end SqlTemplate
