import SqlTemplate.Proofs.Expansion.Prefix

/-!
# Expansion as a recursion without a bound

`expandText` lets templates be nested as deep as there are parameters.  The bound is
never felt: an expansion is the expansion of its tree in which every nested template is
expanded in just the same way (`expandText_eq`), and so it is with placeholders and with
blocks.  Two runs can therefore be compared without looking at depths.
-/

namespace SqlTemplate

section

variable (quoter : Quoter)

/-- A nested template that is reached after a parameter has been taken is expanded like
any other template. -/
theorem nestedAt_eq_expandText {depth : Nat} {supply : Supply} (text : List Char)
    (h : supply.pending.length < depth) :
    nestedAt quoter depth text supply = expandText quoter text supply := by
  cases depth with
  | zero => exact absurd h (Nat.not_lt_zero _)
  | succ depth => exact (expandText_eq_expandWithin quoter text (Nat.le_of_lt_succ h)).symm

/-- A depth that is enough may be forgotten. -/
theorem agreeWithin_forget (depth : Nat) (nodes : List Node) :
    AgreeWithin depth (Template.expand quoter (nestedAt quoter depth) nodes)
      (Template.expand quoter (expandText quoter) nodes) := by
  apply agreeWithin_expand (neverLengthens_nestedAt quoter depth)
  intro text supply hsupply
  exact nestedAt_eq_expandText quoter text hsupply

/-- **The recursion of expansions.**  A nested template is expanded like the one that it
stands in. -/
theorem expandText_eq (text : List Char) :
    expandText quoter text = Template.expand quoter (expandText quoter) (Template.read text) := by
  funext supply
  rw [expandText_eq_expandWithin quoter text (Nat.le_refl _), expandWithin_eq]
  exact agreeWithin_forget quoter _ (Template.read text) supply (Nat.le_refl _)

theorem expandTag_eq (tag : Tag) :
    expandTag quoter tag = expandPlaceholder quoter (expandText quoter) tag := by
  funext supply
  have hagree : AgreeWithin supply.pending.length
      (expandPlaceholder quoter (expandWithin quoter supply.pending.length) tag)
      (expandPlaceholder quoter (expandText quoter) tag) := by
    apply agreeWithin_expandPlaceholder
    intro text after hafter
    exact (expandText_eq_expandWithin quoter text (Nat.le_of_lt hafter)).symm
  exact hagree supply (Nat.le_refl _)

theorem expandContent_eq (content : List Char) :
    expandContent quoter content = (Node.ofContent content).expand quoter (expandText quoter) := by
  funext supply
  have hagree : AgreeWithin supply.pending.length
      ((Node.ofContent content).expand quoter (expandWithin quoter supply.pending.length))
      ((Node.ofContent content).expand quoter (expandText quoter)) := by
    apply agreeWithin_expandNode
    · exact compositional_neverLengthens.expandWithin supply.pending.length
    · intro text after hafter
      exact (expandText_eq_expandWithin quoter text (Nat.le_of_lt hafter)).symm
  exact hagree supply (Nat.le_refl _)

/-! ## What all expansions do, without a depth -/

theorem neverLengthens_expandText (text : List Char) :
    NeverLengthens _ (expandText quoter text) :=
  fun supply => compositional_neverLengthens.expandWithin supply.pending.length text supply

/-- An expansion depends on nothing but the parameters it takes, whatever depth they
need. -/
theorem determined_expandText (text : List Char) : Determined _ (expandText quoter text) := by
  -- a run at any depth that is enough takes the parameters that the run at hand takes
  have hrun : ∀ depth supply, supply.pending.length ≤ depth → ∃ used,
      TakesOnly (expandWithin quoter depth text) supply used (expandText quoter text supply).1
        (expandText quoter text supply).2 := by
    intro depth supply hdepth
    have hdetermined : Determined _ (expandWithin quoter depth text) :=
      compositional_determined.expandWithin depth text
    obtain ⟨used, outcome, after, h⟩ := hdetermined supply
    refine ⟨used, ?_⟩
    rw [expandText_eq_expandWithin quoter text hdepth, h.run]
    exact h
  intro supply
  obtain ⟨used, h⟩ := hrun supply.pending.length supply (Nat.le_refl _)
  refine ⟨used, _, _, rfl, h.pending, h.taken, ?_, ?_, h.refused⟩
  · intro houtcome others
    obtain ⟨front, hdeeper⟩ := hrun (supply.pending.length + (used ++ others).length) supply
      (Nat.le_add_right _ _)
    obtain rfl : front = used := List.append_cancel_right (hdeeper.pending.symm.trans h.pending)
    rw [expandText_eq_expandWithin quoter text (Nat.le_add_left _ supply.pending.length)]
    exact hdeeper.again houtcome others
  · intro front value back hused
    have hshort : front.length ≤ supply.pending.length := by
      rw [h.pending, hused]
      simp only [List.length_append]
      omega
    rw [expandText_eq_expandWithin quoter text hshort]
    exact h.fewer front value back hused

end

end SqlTemplate
