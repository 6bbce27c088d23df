import SqlTemplate.Expander
import SqlTemplate.Proofs.Expansion.Steps

/-!
# How deep templates are nested

`expandWithin` expands templates that are nested up to a given depth, and
`expandText` lets it go as deep as there are parameters.  A nested template is
only reached after a parameter has been taken, so any greater depth gives the
same outcome (`expandText_eq_expandWithin`).  Two runs with different numbers of
parameters can therefore be compared at a common depth.
-/

namespace SqlTemplate

/-- The number of pending parameters never grows. -/
def NeverLengthens (α : Type) (step : Expansion α) : Prop :=
  ∀ supply, (step supply).2.pending.length ≤ supply.pending.length

theorem compositional_neverLengthens : Compositional NeverLengthens where
  pure _ _ := Nat.le_refl _
  bind {_ _ step next} hstep hnext supply := by
    have hfirst := hstep supply
    rw [Expansion.bind_apply]
    rcases hrun : step supply with ⟨outcome | value, after⟩
    · rw [hrun] at hfirst
      exact hfirst
    · rw [hrun] at hfirst
      exact Nat.le_trans (hnext value after) hfirst
  malformed _ _ := Nat.le_refl _
  take supply := by
    cases hpending : supply.pending with
    | nil => simp [Expansion.take_of_pending_nil hpending, hpending]
    | cons value rest => simp [Expansion.take_of_pending_cons hpending]
  raiseSkip _ := Nat.le_refl _
  ofRule _ _ _ := Nat.le_refl _
  isolateSkip {_ step} hstep supply := hstep { supply with skipRaised := false }

/-! ## Steps that agree while few parameters are left -/

/-- Two steps that do the same when no more than `size` parameters are pending. -/
def AgreeWithin {α : Type} (size : Nat) (step other : Expansion α) : Prop :=
  ∀ supply, supply.pending.length ≤ size → step supply = other supply

namespace AgreeWithin

variable {α β : Type} {size : Nat}

theorem bind {step other : Expansion α} {next following : α → Expansion β}
    (hstep : AgreeWithin size step other) (hlength : NeverLengthens α step)
    (hnext : ∀ value, AgreeWithin size (next value) (following value)) :
    AgreeWithin size (step >>= next) (other >>= following) := by
  intro supply hsize
  have hshort := hlength supply
  rw [Expansion.bind_apply, Expansion.bind_apply, ← hstep supply hsize]
  rcases hrun : step supply with ⟨outcome | value, after⟩
  · rfl
  · rw [hrun] at hshort
    exact hnext value after (Nat.le_trans hshort hsize)

theorem refl (step : Expansion α) : AgreeWithin size step step :=
  fun _ _ => rfl

theorem isolateSkip {step other : Expansion α} (h : AgreeWithin size step other) :
    AgreeWithin size (Expansion.isolateSkip step) (Expansion.isolateSkip other) := by
  intro supply hsize
  unfold Expansion.isolateSkip
  rw [h { supply with skipRaised := false } hsize]

end AgreeWithin

section

variable {quoter : Quoter} {nested other : List Char → Expansion (List Char)} {size : Nat}

/-- A placeholder expands a template only when it has taken a parameter. -/
theorem agreeWithin_expandPlaceholder
    (h : ∀ text supply, supply.pending.length < size → nested text supply = other text supply)
    (tag : Tag) :
    AgreeWithin size (expandPlaceholder quoter nested tag) (expandPlaceholder quoter other tag) := by
  intro supply hsize
  cases hpending : supply.pending with
  | nil =>
      rw [expandPlaceholder_of_pending_nil tag hpending, expandPlaceholder_of_pending_nil tag hpending]
  | cons value rest =>
      rw [hpending, List.length_cons] at hsize
      by_cases hskip : value = .skip
      · subst hskip
        rw [expandPlaceholder_of_skip tag hpending, expandPlaceholder_of_skip tag hpending]
      · rw [expandPlaceholder_of_ne_skip tag hpending hskip,
          expandPlaceholder_of_ne_skip tag hpending hskip]
        -- a parameter has been taken, so fewer than `size` are left for the nested text
        have hpresentation : ∀ presentation, AgreeWithin rest.length
            (Presentation.expand nested presentation) (Presentation.expand other presentation) := by
          intro presentation
          cases presentation with
          | literal text => exact .refl _
          | template text => exact fun after hafter => h text after (by omega)
        exact AgreeWithin.bind (.refl _) (compositional_neverLengthens.ofRule tag _)
          hpresentation _ (Nat.le_refl _)

theorem agreeWithin_expandAll {alternatives : List (List Node)}
    (hlength : ∀ text, NeverLengthens _ (nested text))
    (h : ∀ alternative ∈ alternatives, AgreeWithin size
      (Template.expand quoter nested alternative) (Template.expand quoter other alternative)) :
    AgreeWithin size (Template.expandAll quoter nested alternatives)
      (Template.expandAll quoter other alternatives) := by
  induction alternatives with
  | nil => exact .refl _
  | cons alternative rest ih =>
      have hrest := ih fun a hmem => h a (List.mem_cons_of_mem _ hmem)
      refine .bind (h alternative (List.mem_cons_self ..))
        (compositional_neverLengthens.expand hlength _) fun text => ?_
      exact .bind hrest (compositional_neverLengthens.expandAll fun a _ =>
        compositional_neverLengthens.expand hlength a) fun _ => .refl _

theorem agreeWithin_expandBlock (hlength : ∀ text, NeverLengthens _ (nested text)) (gated : Bool)
    {alternatives : List (List Node)}
    (h : ∀ alternative ∈ alternatives, AgreeWithin size
      (Template.expand quoter nested alternative) (Template.expand quoter other alternative)) :
    AgreeWithin size (expandBlock gated (Template.expandAll quoter nested alternatives))
      (expandBlock gated (Template.expandAll quoter other alternatives)) := by
  refine .bind (.refl _) (compositional_neverLengthens.passGate gated) fun _ => ?_
  refine .bind (agreeWithin_expandAll hlength h).isolateSkip ?_ fun _ => .refl _
  exact compositional_neverLengthens.isolateSkip (compositional_neverLengthens.expandAll
    fun alternative _ => compositional_neverLengthens.expand hlength alternative)

theorem agreeWithin_expand (hlength : ∀ text, NeverLengthens _ (nested text))
    (h : ∀ text supply, supply.pending.length < size → nested text supply = other text supply)
    (nodes : List Node) :
    AgreeWithin size (Template.expand quoter nested nodes)
      (Template.expand quoter other nodes) := by
  have hcons : ∀ {node : Node} {rest : List Node},
      AgreeWithin size (node.expand quoter nested) (node.expand quoter other) →
      AgreeWithin size (Template.expand quoter nested rest) (Template.expand quoter other rest) →
      AgreeWithin size (Template.expand quoter nested (node :: rest))
        (Template.expand quoter other (node :: rest)) := by
    intro node rest hnode hrest
    exact .bind hnode (compositional_neverLengthens.expandNode hlength node) fun _ => .bind hrest
      (compositional_neverLengthens.expand hlength rest) fun _ => .refl _
  induction nodes using Template.induction with
  | nil => exact .refl _
  | verbatim text rest ih => exact hcons (.refl _) ih
  | placeholder tag rest ih => exact hcons (agreeWithin_expandPlaceholder h tag) ih
  | block gated alternatives rest ihalternatives ih =>
      exact hcons (agreeWithin_expandBlock hlength gated ihalternatives) ih
  | fault fault rest ih => exact hcons (.refl _) ih

theorem agreeWithin_expandNode (hlength : ∀ text, NeverLengthens _ (nested text))
    (h : ∀ text supply, supply.pending.length < size → nested text supply = other text supply)
    (node : Node) : AgreeWithin size (node.expand quoter nested) (node.expand quoter other) := by
  cases node with
  | verbatim text => exact .refl _
  | placeholder tag => exact agreeWithin_expandPlaceholder h tag
  | block gated alternatives =>
      apply agreeWithin_expandBlock hlength gated
      intro alternative _
      exact agreeWithin_expand hlength h alternative
  | fault fault => exact .refl _

end

/-! ## Any depth that is enough -/

/-- How templates are expanded that stand inside another one. -/
def nestedAt (quoter : Quoter) : Nat → List Char → Expansion (List Char)
  | 0 => fun _ => pure []
  | depth + 1 => expandWithin quoter depth

theorem expandWithin_eq (quoter : Quoter) (depth : Nat) (text : List Char) :
    expandWithin quoter depth text =
      Template.expand quoter (nestedAt quoter depth) (Template.read text) := by
  cases depth <;> rfl

theorem neverLengthens_nestedAt (quoter : Quoter) (depth : Nat) (text : List Char) :
    NeverLengthens _ (nestedAt quoter depth text) := by
  cases depth with
  | zero => exact compositional_neverLengthens.pure []
  | succ depth => exact compositional_neverLengthens.expandWithin depth text

/-- All depths that are not below the number of pending parameters are the same. -/
theorem agreeWithin_expandWithin (quoter : Quoter) {size depth other : Nat}
    (hdepth : size ≤ depth) (hother : size ≤ other) (text : List Char) :
    AgreeWithin size (expandWithin quoter depth text) (expandWithin quoter other text) := by
  induction depth generalizing size other text with
  | zero =>
      rw [expandWithin_eq, expandWithin_eq]
      refine agreeWithin_expand (neverLengthens_nestedAt quoter 0) (fun inner after hafter => ?_) _
      -- nothing is pending, so no nested text has fewer parameters
      omega
  | succ depth ih =>
      rw [expandWithin_eq, expandWithin_eq]
      refine agreeWithin_expand (neverLengthens_nestedAt quoter _) (fun inner after hafter => ?_) _
      cases other with
      | zero => omega
      | succ other => exact ih (by omega) (by omega) inner after (Nat.le_refl _)

/-- **The depth does not matter as long as it suffices.**  A template is expanded
the same way at every depth that is not below the number of pending parameters. -/
theorem expandText_eq_expandWithin (quoter : Quoter) (text : List Char) {depth : Nat}
    {supply : Supply} (h : supply.pending.length ≤ depth) :
    expandText quoter text supply = expandWithin quoter depth text supply :=
  agreeWithin_expandWithin quoter (Nat.le_refl _) h text supply (Nat.le_refl _)

/-! ## Expanders at a depth -/

namespace Expander

variable {expander : Expander} {template : String} {parameters : List Value} {depth : Nat}

theorem expand_eq_within (h : parameters.length ≤ depth) :
    expander.expand template parameters =
      (expandWithin expander.quoter depth template.toList (Supply.ofList parameters)).1.map
        fun sql =>
          { sql := String.ofList sql
            consumed := (expandWithin expander.quoter depth template.toList
              (Supply.ofList parameters)).2.taken
            supplied := parameters.length
            dialect := expander.quoter.dialect } := by
  rw [expand, expandText_eq_expandWithin _ _ h]
  rfl

theorem expand_eq_ok_iff (h : parameters.length ≤ depth) {expanded : Expanded} :
    expander.expand template parameters = .ok expanded ↔
      ∃ sql, (expandWithin expander.quoter depth template.toList (Supply.ofList parameters)).1 =
          .ok sql ∧
        expanded =
          { sql := String.ofList sql
            consumed := (expandWithin expander.quoter depth template.toList
              (Supply.ofList parameters)).2.taken
            supplied := parameters.length
            dialect := expander.quoter.dialect } := by
  rw [expand_eq_within h]
  rcases (expandWithin expander.quoter depth template.toList (Supply.ofList parameters)).1 with
    failure | sql
  · simp [Except.map]
  · simp [Except.map, eq_comm]

theorem expand_eq_error_iff (h : parameters.length ≤ depth) {failure : Failure} :
    expander.expand template parameters = .error failure ↔
      (expandWithin expander.quoter depth template.toList (Supply.ofList parameters)).1 =
        .error failure := by
  rw [expand_eq_within h]
  rcases (expandWithin expander.quoter depth template.toList (Supply.ofList parameters)).1 with
    failure | sql <;> simp [Except.map]

end Expander

end SqlTemplate
