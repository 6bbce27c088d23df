import SqlTemplate.Proofs.Expansion.Depth
import SqlTemplate.Proofs.Template.FaultFree
import SqlTemplate.Proofs.Template.Slots

/-!
# Expansions of nothing but skip marks

Every placeholder and every gate accepts the skip mark, and all alternatives of a
block are expanded whether they are kept or not.  So an expansion with enough skip
marks can fail for one reason only, and it fails exactly if the template has a
fault somewhere: `expand_allSkipped`.
-/

namespace SqlTemplate

/-- What a step does when only skip marks are pending, and no fewer than its slots:
if it has no fault it succeeds and uses up a mark for each slot, and otherwise it
reports a fault. -/
def RunsOnMarks {α : Type} (faultFree : Bool) (slots : Nat) (step : Expansion α) : Prop :=
  ∀ spare taken raised,
    if faultFree then
      ∃ value after raisedAfter,
        step ⟨List.replicate (slots + spare) .skip, taken, raised⟩ =
          (.ok value, ⟨List.replicate spare .skip, after, raisedAfter⟩)
    else
      ∃ fault, (step ⟨List.replicate (slots + spare) .skip, taken, raised⟩).1 =
        .error (.malformed fault)

namespace RunsOnMarks

variable {α β : Type} {faultFree : Bool} {slots : Nat} {step : Expansion α}

theorem pure (value : α) : RunsOnMarks true 0 (Pure.pure value : Expansion α) := by
  intro spare taken raised
  rw [Nat.zero_add]
  exact ⟨value, taken, raised, rfl⟩

theorem malformed (fault : Fault) (slots : Nat) :
    RunsOnMarks false slots (throw (.malformed fault) : Expansion α) :=
  fun _ _ _ => ⟨fault, rfl⟩

/-- If the first step reports a fault, the second one is not reached. -/
theorem bind {others : Bool} {more : Nat} {next : α → Expansion β}
    (hstep : RunsOnMarks faultFree slots step)
    (hnext : ∀ value, RunsOnMarks others more (next value)) :
    RunsOnMarks (faultFree && others) (slots + more) (step >>= next) := by
  intro spare taken raised
  have hfirst := hstep (more + spare) taken raised
  rw [← Nat.add_assoc] at hfirst
  cases faultFree with
  | false =>
      obtain ⟨fault, hfault⟩ := hfirst
      exact ⟨fault, Expansion.fst_bind_of_error hfault⟩
  | true =>
      obtain ⟨value, after, raisedAfter, hrun⟩ := hfirst
      rw [Expansion.bind_of_ok hrun, Bool.true_and]
      exact hnext value spare after raisedAfter

theorem map (hstep : RunsOnMarks faultFree slots step) (f : α → β) :
    RunsOnMarks faultFree slots (step >>= fun value => Pure.pure (f value)) := by
  simpa using hstep.bind fun value => pure (f value)

theorem isolateSkip (hstep : RunsOnMarks faultFree slots step) :
    RunsOnMarks faultFree slots (Expansion.isolateSkip step) := by
  intro spare taken raised
  have hinside := hstep spare taken false
  cases faultFree with
  | false =>
      obtain ⟨fault, hfault⟩ := hinside
      exact ⟨fault, congrArg (Except.map fun value => (value, _)) hfault⟩
  | true =>
      obtain ⟨value, after, raisedAfter, hrun⟩ := hinside
      refine ⟨(value, raisedAfter), after, raised, ?_⟩
      rw [Expansion.isolateSkip, hrun]
      rfl

end RunsOnMarks

section

variable {quoter : Quoter} {expandNested : List Char → Expansion (List Char)}

theorem runsOnMarks_expandPlaceholder (tag : Tag) :
    RunsOnMarks true 1 (expandPlaceholder quoter expandNested tag) := by
  intro spare taken raised
  rw [Nat.add_comm, List.replicate_succ]
  exact ⟨[], taken + 1, true, expandPlaceholder_of_skip tag rfl⟩

theorem runsOnMarks_passGate (gated : Bool) : RunsOnMarks true gated.toNat (passGate gated) := by
  cases gated with
  | false => exact .pure false
  | true =>
      intro spare taken raised
      refine ⟨true, taken + 1, raised, ?_⟩
      rw [Bool.toNat_true, Nat.add_comm, List.replicate_succ]
      rfl

theorem runsOnMarks_expandAll {alternatives : List (List Node)}
    (h : ∀ alternative ∈ alternatives, RunsOnMarks (Template.faultFree alternative)
      (Template.slotCount alternative) (Template.expand quoter expandNested alternative)) :
    RunsOnMarks (Template.allFaultFree alternatives) (Template.slotCountAll alternatives)
      (Template.expandAll quoter expandNested alternatives) := by
  induction alternatives with
  | nil => exact .pure []
  | cons alternative rest ih =>
      exact (h alternative (List.mem_cons_self ..)).bind fun _ =>
        (ih fun other hmem => h other (List.mem_cons_of_mem _ hmem)).map _

theorem runsOnMarks_expand (nodes : List Node) :
    RunsOnMarks (Template.faultFree nodes) (Template.slotCount nodes)
      (Template.expand quoter expandNested nodes) := by
  have hcons : ∀ {node : Node} {rest : List Node},
      RunsOnMarks node.faultFree node.slotCount (node.expand quoter expandNested) →
      RunsOnMarks (Template.faultFree rest) (Template.slotCount rest)
        (Template.expand quoter expandNested rest) →
      RunsOnMarks (Template.faultFree (node :: rest)) (Template.slotCount (node :: rest))
        (Template.expand quoter expandNested (node :: rest)) :=
    fun hnode hrest => hnode.bind fun _ => hrest.map _
  induction nodes using Template.induction with
  | nil => exact .pure []
  | verbatim text rest ih => exact hcons (.pure text) ih
  | placeholder tag rest ih => exact hcons (runsOnMarks_expandPlaceholder tag) ih
  | block gated alternatives rest ihalternatives ih =>
      have hinside := (runsOnMarks_expandAll ihalternatives).isolateSkip
      exact hcons ((runsOnMarks_passGate gated).bind fun _ => hinside.map _) ih
  | fault fault rest ih => exact hcons (.malformed fault _) ih

end

/-- **An expansion of skip marks accepts exactly the well-formed templates.**  With a
skip mark for each of its characters, a template is reported as malformed if and
only if it is not well formed, and otherwise the expansion succeeds. -/
theorem Expander.expand_allSkipped (expander : Expander) (template : String) :
    ((∃ fault, expander.expand template (List.replicate template.length .skip) =
        .error (.malformed fault)) ↔ wellFormed template.toList = false) ∧
    ((∃ expanded, expander.expand template (List.replicate template.length .skip) =
        .ok expanded) ↔ wellFormed template.toList = true) := by
  have hdepth : (List.replicate template.length Value.skip).length ≤ template.length :=
    Nat.le_of_eq List.length_replicate
  -- the marks that are left over when each slot has taken one
  obtain ⟨spare, hspare⟩ := Nat.le.dest (slotCount_read_le template.toList)
  rw [String.length_toList] at hspare
  have hrun : RunsOnMarks _ _ (Template.expand expander.quoter
      (nestedAt expander.quoter template.length) (Template.read template.toList)) :=
    runsOnMarks_expand (Template.read template.toList)
  replace hrun := hrun spare 0 false
  rw [faultFree_read, ← expandWithin_eq, hspare] at hrun
  cases hformed : wellFormed template.toList with
  | false =>
      rw [hformed] at hrun
      obtain ⟨fault, hfault⟩ := hrun
      -- an expansion has one outcome, so this settles both equivalences
      have hexpand := (expand_eq_error_iff hdepth).2 hfault
      rw [hexpand]
      simp
  | true =>
      rw [hformed] at hrun
      obtain ⟨text, after, raisedAfter, hok⟩ := hrun
      have hexpand := (expand_eq_ok_iff hdepth).2 ⟨text, congrArg Prod.fst hok, rfl⟩
      rw [hexpand]
      simp

end SqlTemplate
