import Mathlib.Control.Monad.Basic
import SqlTemplate.Expansion.Evaluation

/-!
# Properties of all steps of an expansion

An expansion is put together from a handful of steps: taking a parameter, raising
the skip flag, rendering a value, reporting a fault, and running a step with the
skip flag put aside.  A property of steps that all of these have, and that two
steps one after the other inherit, is a property of every expansion
(`Compositional.expandWithin`).

The recursion over the tree is done here once.  `Template.induction` is its
induction principle, with one case for each kind of node.
-/

namespace SqlTemplate

/-! ## Induction over templates -/

/-- Induction over the nodes of a template and of all alternatives in it. -/
@[elab_as_elim]
theorem Template.induction {motive : List Node → Prop} (nil : motive [])
    (verbatim : ∀ text rest, motive rest → motive (.verbatim text :: rest))
    (placeholder : ∀ tag rest, motive rest → motive (.placeholder tag :: rest))
    (block : ∀ gated alternatives rest, (∀ alternative ∈ alternatives, motive alternative) →
      motive rest → motive (.block gated alternatives :: rest))
    (fault : ∀ fault rest, motive rest → motive (.fault fault :: rest))
    (nodes : List Node) : motive nodes := by
  match nodes with
  | [] => exact nil
  | .verbatim text :: rest =>
      exact verbatim text rest (induction nil verbatim placeholder block fault rest)
  | .placeholder tag :: rest =>
      exact placeholder tag rest (induction nil verbatim placeholder block fault rest)
  | .block gated alternatives :: rest =>
      refine block gated alternatives rest (fun alternative hmem => ?_)
        (induction nil verbatim placeholder block fault rest)
      have hsmaller := List.sizeOf_lt_of_mem hmem
      exact induction nil verbatim placeholder block fault alternative
  | .fault problem :: rest =>
      exact fault problem rest (induction nil verbatim placeholder block fault rest)
termination_by sizeOf nodes
decreasing_by
  all_goals simp only [List.cons.sizeOf_spec, Node.block.sizeOf_spec]
  all_goals omega

/-! ## Two steps one after the other -/

section

variable {α β : Type} {step : Expansion α} {next : α → Expansion β} {supply after : Supply}

theorem Expansion.bind_of_ok {value : α} (h : step supply = (.ok value, after)) :
    (step >>= next) supply = next value after := by
  rw [Expansion.bind_apply, h]

theorem Expansion.bind_of_error {failure : Failure} (h : step supply = (.error failure, after)) :
    (step >>= next) supply = (.error failure, after) := by
  rw [Expansion.bind_apply, h]

/-- The second step is not reached if the first one fails. -/
theorem Expansion.fst_bind_of_error {failure : Failure} (h : (step supply).1 = .error failure) :
    ((step >>= next) supply).1 = .error failure := by
  rw [Expansion.bind_of_error (Prod.ext h rfl)]

/-- What is made of the value of a step does not change the supply. -/
theorem Expansion.map_apply (f : α → β) (step : Expansion α) (supply : Supply) :
    (f <$> step) supply = ((step supply).1.map f, (step supply).2) := by
  rw [map_eq_pure_bind, Expansion.bind_apply]
  rcases step supply with ⟨failure | value, after⟩ <;> rfl

/-- Two steps succeed only if both of them do. -/
theorem Expansion.exists_of_bind_ok {result : β} (h : (step >>= next) supply = (.ok result, after)) :
    ∃ value mid, step supply = (.ok value, mid) ∧ next value mid = (.ok result, after) := by
  rcases hrun : step supply with ⟨failure | value, mid⟩
  · rw [Expansion.bind_of_error hrun] at h
    cases h
  · rw [Expansion.bind_of_ok hrun] at h
    exact ⟨value, mid, rfl, h⟩

theorem Expansion.isolateSkip_of_ok {value : α}
    (h : step { supply with skipRaised := false } = (.ok value, after)) :
    Expansion.isolateSkip step supply =
      (.ok (value, after.skipRaised), { after with skipRaised := supply.skipRaised }) := by
  rw [Expansion.isolateSkip, h]
  rfl

/-- With the skip flag put aside, a step succeeds only if it does so by itself. -/
theorem Expansion.exists_of_isolateSkip_ok {result : α × Bool}
    (h : Expansion.isolateSkip step supply = (.ok result, after)) :
    ∃ value last, step { supply with skipRaised := false } = (.ok value, last) ∧
      result = (value, last.skipRaised) ∧
      after = { last with skipRaised := supply.skipRaised } := by
  rcases hrun : step { supply with skipRaised := false } with ⟨failure | value, last⟩
  · rw [Expansion.isolateSkip, hrun] at h
    cases h
  · rw [Expansion.isolateSkip_of_ok hrun] at h
    cases h
    exact ⟨value, last, rfl, rfl, rfl⟩

end

/-! ## What a placeholder does with its parameter -/

section

variable {quoter : Quoter} {expandNested : List Char → Expansion (List Char)}

/-- What a presentation becomes: a literal stands as it is, a template is
expanded. -/
def Presentation.expand (expandNested : List Char → Expansion (List Char)) :
    Presentation → Expansion (List Char)
  | .literal text => pure text
  | .template text => expandNested text

theorem expandPlaceholder_of_pending_nil (tag : Tag) {supply : Supply} (h : supply.pending = []) :
    expandPlaceholder quoter expandNested tag supply =
      (.error (.underflow (supply.taken + 1) supply.taken), supply) :=
  Expansion.bind_of_error (Expansion.take_of_pending_nil h)

/-- The skip mark leaves no text and raises the skip flag. -/
theorem expandPlaceholder_of_skip (tag : Tag) {supply : Supply} {rest : List Value}
    (h : supply.pending = .skip :: rest) :
    expandPlaceholder quoter expandNested tag supply =
      (.ok [], { pending := rest, taken := supply.taken + 1, skipRaised := true }) := by
  unfold expandPlaceholder
  rw [Expansion.bind_of_ok (Expansion.take_of_pending_cons h)]
  rfl

/-- Every other parameter is presented, and the skip flag stays as it is. -/
theorem expandPlaceholder_of_ne_skip (tag : Tag) {supply : Supply} {value : Value}
    {rest : List Value} (h : supply.pending = value :: rest) (hskip : value ≠ .skip) :
    expandPlaceholder quoter expandNested tag supply =
      (Expansion.ofRule tag (present quoter tag value) >>= Presentation.expand expandNested)
        { supply with pending := rest, taken := supply.taken + 1 } := by
  unfold expandPlaceholder
  rw [Expansion.bind_of_ok (Expansion.take_of_pending_cons h)]
  cases value with
  | skip => exact absurd rfl hskip
  | _ => rfl

variable (quoter expandNested) in
/-- Everything that can come of a placeholder, by the parameter that is next. -/
inductive PlaceholderRun (tag : Tag) (supply : Supply) :
    Except Failure (List Char) × Supply → Prop
  | missing (hpending : supply.pending = []) :
      PlaceholderRun tag supply (.error (.underflow (supply.taken + 1) supply.taken), supply)
  | skipped {rest : List Value} (hpending : supply.pending = .skip :: rest) :
      PlaceholderRun tag supply (.ok [], ⟨rest, supply.taken + 1, true⟩)
  | refused {value : Value} {rest : List Value} {refusal : Refusal}
      (hpending : supply.pending = value :: rest) (hskip : value ≠ .skip)
      (hpresent : present quoter tag value = .error refusal) :
      PlaceholderRun tag supply (.error (refusal.toFailure tag (supply.taken + 1)),
        { supply with pending := rest, taken := supply.taken + 1 })
  | literal {value : Value} {rest : List Value} {text : List Char}
      (hpending : supply.pending = value :: rest) (hskip : value ≠ .skip)
      (hpresent : present quoter tag value = .ok (.literal text)) :
      PlaceholderRun tag supply
        (.ok text, { supply with pending := rest, taken := supply.taken + 1 })
  | template {value : Value} {rest : List Value} {text : List Char}
      (hpending : supply.pending = value :: rest) (hskip : value ≠ .skip)
      (hpresent : present quoter tag value = .ok (.template text)) :
      PlaceholderRun tag supply
        (expandNested text { supply with pending := rest, taken := supply.taken + 1 })

theorem placeholderRun (quoter : Quoter) (expandNested : List Char → Expansion (List Char))
    (tag : Tag) (supply : Supply) :
    PlaceholderRun quoter expandNested tag supply
      (expandPlaceholder quoter expandNested tag supply) := by
  cases hpending : supply.pending with
  | nil =>
      rw [expandPlaceholder_of_pending_nil tag hpending]
      exact .missing hpending
  | cons value rest =>
      by_cases hskip : value = .skip
      · subst hskip
        rw [expandPlaceholder_of_skip tag hpending]
        exact .skipped hpending
      · rw [expandPlaceholder_of_ne_skip tag hpending hskip]
        cases hpresent : present quoter tag value with
        | error refusal => exact .refused hpending hskip hpresent
        | ok presentation =>
            cases presentation with
            | literal text => exact .literal hpending hskip hpresent
            | template text => exact .template hpending hskip hpresent

end

/-! ## Which parameters are templates -/

section

variable {quoter : Quoter} {tag : Tag}

theorem literal_map_ne_template (rule : Except Refusal (List Char)) (text : List Char) :
    Presentation.literal <$> rule ≠ .ok (.template text) := by
  cases rule <;> nofun

/-- Only one tag hands out templates. -/
theorem present_ne_template (h : tag ≠ .template) (value : Value) (text : List Char) :
    present quoter tag value ≠ .ok (.template text) := by
  cases tag with
  | template => exact absurd rfl h
  | _ => exact literal_map_ne_template _ _

theorem present_skip_ne_template (tag : Tag) (text : List Char) :
    present quoter tag .skip ≠ .ok (.template text) := by
  by_cases htag : tag = .template
  · subst htag
    nofun
  · exact present_ne_template htag .skip text

end

/-! ## What a gate does with its parameter -/

/-- Whether a value is the skip mark. -/
def Value.isSkip : Value → Bool
  | .skip => true
  | _ => false

theorem Value.isSkip_eq_false {value : Value} (h : value ≠ .skip) : value.isSkip = false := by
  cases value with
  | skip => exact absurd rfl h
  | _ => rfl

theorem passGate_of_pending_nil {supply : Supply} (h : supply.pending = []) :
    passGate true supply = (.error (.underflow (supply.taken + 1) supply.taken), supply) :=
  Expansion.bind_of_error (Expansion.take_of_pending_nil h)

theorem passGate_of_pending_cons {supply : Supply} {value : Value} {rest : List Value}
    (h : supply.pending = value :: rest) :
    passGate true supply =
      (.ok value.isSkip, { supply with pending := rest, taken := supply.taken + 1 }) := by
  refine (Expansion.bind_of_ok (Expansion.take_of_pending_cons h)).trans ?_
  cases value <;> rfl

/-! ## Properties that carry over to expansions -/

/-- A property that the single steps of an expansion have and that two steps one
after the other inherit. -/
structure Compositional (Good : ∀ α : Type, Expansion α → Prop) : Prop where
  pure : ∀ {α : Type} (value : α), Good α (pure value)
  bind : ∀ {α β : Type} {step : Expansion α} {next : α → Expansion β},
    Good α step → (∀ value, Good β (next value)) → Good β (step >>= next)
  malformed : ∀ {α : Type} (fault : Fault), Good α (throw (.malformed fault))
  take : Good Value Expansion.take
  raiseSkip : Good Unit (Expansion.setSkip true)
  ofRule : ∀ {α : Type} (tag : Tag) (outcome : Except Refusal α),
    Good α (Expansion.ofRule tag outcome)
  isolateSkip : ∀ {α : Type} {step : Expansion α},
    Good α step → Good (α × Bool) (Expansion.isolateSkip step)

namespace Compositional

variable {Good : ∀ α : Type, Expansion α → Prop} (hgood : Compositional Good) {quoter : Quoter}
  {expandNested : List Char → Expansion (List Char)}

include hgood

theorem expandPlaceholder (hnested : ∀ text, Good _ (expandNested text)) (tag : Tag) :
    Good _ (SqlTemplate.expandPlaceholder quoter expandNested tag) := by
  refine hgood.bind hgood.take fun value => ?_
  split
  · exact hgood.bind hgood.raiseSkip fun _ => hgood.pure []
  · refine hgood.bind (hgood.ofRule tag _) fun presentation => ?_
    cases presentation with
    | literal text => exact hgood.pure text
    | template text => exact hnested text

theorem passGate (gated : Bool) : Good _ (SqlTemplate.passGate gated) := by
  cases gated with
  | false => exact hgood.pure false
  | true =>
      refine hgood.bind hgood.take fun value => ?_
      split
      · exact hgood.pure true
      · exact hgood.pure false

theorem expandBlock {alternatives : Expansion (List (List Char))} (h : Good _ alternatives)
    (gated : Bool) : Good _ (SqlTemplate.expandBlock gated alternatives) :=
  hgood.bind (hgood.passGate gated) fun _ =>
    hgood.bind (hgood.isolateSkip h) fun _ => hgood.pure _

theorem expandAll {alternatives : List (List Node)}
    (h : ∀ alternative ∈ alternatives, Good _ (Template.expand quoter expandNested alternative)) :
    Good _ (Template.expandAll quoter expandNested alternatives) := by
  induction alternatives with
  | nil => exact hgood.pure []
  | cons alternative rest ih =>
      refine hgood.bind (h alternative (List.mem_cons_self ..)) fun _ => ?_
      refine hgood.bind (ih fun other hmem => h other (List.mem_cons_of_mem _ hmem)) fun _ => ?_
      exact hgood.pure _

theorem expand (hnested : ∀ text, Good _ (expandNested text)) (nodes : List Node) :
    Good _ (Template.expand quoter expandNested nodes) := by
  have hcons : ∀ {node : Node} {rest : List Node}, Good _ (node.expand quoter expandNested) →
      Good _ (Template.expand quoter expandNested rest) →
      Good _ (Template.expand quoter expandNested (node :: rest)) := fun hnode hrest =>
    hgood.bind hnode fun _ => hgood.bind hrest fun _ => hgood.pure _
  induction nodes using Template.induction with
  | nil => exact hgood.pure []
  | verbatim text rest ih => exact hcons (hgood.pure text) ih
  | placeholder tag rest ih => exact hcons (hgood.expandPlaceholder hnested tag) ih
  | block gated alternatives rest ihalternatives ih =>
      exact hcons (hgood.expandBlock (hgood.expandAll ihalternatives) gated) ih
  | fault fault rest ih => exact hcons (hgood.malformed fault) ih

theorem expandNode (hnested : ∀ text, Good _ (expandNested text)) (node : Node) :
    Good _ (node.expand quoter expandNested) := by
  cases node with
  | verbatim text => exact hgood.pure text
  | placeholder tag => exact hgood.expandPlaceholder hnested tag
  | block gated alternatives =>
      exact hgood.expandBlock (hgood.expandAll fun _ _ => hgood.expand hnested _) gated
  | fault fault => exact hgood.malformed fault

/-- **What every single step does, every expansion does.** -/
theorem expandWithin (depth : Nat) (text : List Char) :
    Good _ (SqlTemplate.expandWithin quoter depth text) := by
  induction depth generalizing text with
  | zero => exact hgood.expand (fun _ => hgood.pure []) _
  | succ depth ih => exact hgood.expand ih _

end Compositional

end SqlTemplate
