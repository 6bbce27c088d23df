import SqlTemplate.Proofs.Expansion.Recursion

/-!
# Runs without one of the parameters

Take one parameter away from a list of parameters.  A run that has already gone past that
parameter, or that ends before it, does not need it: the run goes on as before, and comes to
a supply that is without the parameter just as well (`spares_expandText`).

The run counts one parameter less from then on, but the count is looked at only for
failures.
-/

namespace SqlTemplate

/-- The supply without the parameter at an index, which may have been taken or not. -/
def Supply.without (index : Nat) (supply : Supply) : Supply :=
  if supply.taken ≤ index then
    { supply with pending := supply.pending.eraseIdx (index - supply.taken) }
  else { supply with taken := supply.taken - 1 }

section

variable {index : Nat} {supply : Supply}

theorem Supply.without_of_le (h : supply.taken ≤ index) :
    supply.without index =
      { supply with pending := supply.pending.eraseIdx (index - supply.taken) } :=
  if_pos h

theorem Supply.without_of_lt (h : index < supply.taken) :
    supply.without index = { supply with taken := supply.taken - 1 } :=
  if_neg (Nat.not_le_of_lt h)

theorem Supply.without_ofList (parameters : List Value) :
    (Supply.ofList parameters).without index = Supply.ofList (parameters.eraseIdx index) :=
  Supply.without_of_le (Nat.zero_le index)

/-- The skip flag and the parameters have nothing to do with each other. -/
theorem Supply.without_setSkip (index : Nat) (supply : Supply) (raised : Bool) :
    Supply.without index { supply with skipRaised := raised } =
      { supply.without index with skipRaised := raised } := by
  unfold Supply.without
  split <;> rfl

theorem Supply.skipRaised_without (index : Nat) (supply : Supply) :
    (supply.without index).skipRaised = supply.skipRaised := by
  unfold Supply.without
  split <;> rfl

theorem Supply.length_without_le :
    (supply.without index).pending.length ≤ supply.pending.length := by
  unfold Supply.without
  split
  · exact List.length_eraseIdx_le ..
  · exact Nat.le_refl _

end

/-- A step that has been run without the parameter may have run with the skip flag put
aside. -/
theorem Expansion.isolateSkip_without {α : Type} {step : Expansion α} {index : Nat} {value : α}
    {supply after : Supply} (h : step (Supply.without index { supply with skipRaised := false }) =
      (.ok value, after.without index)) :
    Expansion.isolateSkip step (supply.without index) = (.ok (value, after.skipRaised),
      Supply.without index { after with skipRaised := supply.skipRaised }) := by
  rw [Supply.without_setSkip index supply false] at h
  rw [Expansion.isolateSkip_of_ok h, Supply.without_setSkip index after supply.skipRaised,
    Supply.skipRaised_without index supply, Supply.skipRaised_without index after]

/-- A step that gets on without the parameter at an index, unless it takes it. -/
def Spares (index : Nat) (α : Type) (step : Expansion α) : Prop :=
  ∀ supply value after, step supply = (.ok value, after) →
    supply.taken ≤ after.taken ∧ (after.taken ≤ index ∨ index < supply.taken →
      step (supply.without index) = (.ok value, after.without index))

section

variable {α β : Type} {index : Nat}

theorem spares_take : Spares index Value Expansion.take := by
  intro supply value after h
  cases hpending : supply.pending with
  | nil =>
      rw [Expansion.take_of_pending_nil hpending] at h
      cases h
  | cons first rest =>
      rw [Expansion.take_of_pending_cons hpending] at h
      cases h
      refine ⟨Nat.le_succ _, ?_⟩
      rintro (hbefore | hbehind)
      · -- the parameter at the index stands further back
        have hnext : supply.taken + 1 ≤ index := hbefore
        have hindex : index - supply.taken = (index - (supply.taken + 1)) + 1 := by omega
        rw [Supply.without_of_le (Nat.le_of_succ_le hnext), Supply.without_of_le hbefore, hpending,
          hindex, List.eraseIdx_cons_succ]
        exact Expansion.take_of_pending_cons rfl
      · have htake : Expansion.take { supply with taken := supply.taken - 1 } =
            (.ok value, { supply with pending := rest, taken := supply.taken - 1 + 1 }) :=
          Expansion.take_of_pending_cons hpending
        have hcount : supply.taken - 1 + 1 = supply.taken + 1 - 1 := by omega
        rw [Supply.without_of_lt hbehind, Supply.without_of_lt (Nat.lt_succ_of_lt hbehind), htake,
          hcount]

theorem spares_bind {step : Expansion α} {next : α → Expansion β} (hstep : Spares index α step)
    (hnext : ∀ value, Spares index β (next value)) : Spares index β (step >>= next) := by
  intro supply result last h
  obtain ⟨value, mid, hrun, hbehind⟩ := Expansion.exists_of_bind_ok h
  obtain ⟨hfirst, hwithout⟩ := hstep supply value mid hrun
  obtain ⟨hsecond, hwithoutNext⟩ := hnext value mid result last hbehind
  refine ⟨Nat.le_trans hfirst hsecond, ?_⟩
  intro hspared
  have hmid : mid.taken ≤ index ∨ index < supply.taken := by omega
  have hlast : last.taken ≤ index ∨ index < mid.taken := by omega
  rw [Expansion.bind_of_ok (hwithout hmid)]
  exact hwithoutNext hlast

theorem spares_isolateSkip {step : Expansion α} (hstep : Spares index α step) :
    Spares index (α × Bool) (Expansion.isolateSkip step) := by
  intro supply result last h
  obtain ⟨value, after, hrun, rfl, rfl⟩ := Expansion.exists_of_isolateSkip_ok h
  obtain ⟨hle, hwithout⟩ := hstep _ value after hrun
  exact ⟨hle, fun hspared => Expansion.isolateSkip_without (hwithout hspared)⟩

theorem compositional_spares (index : Nat) : Compositional (Spares index) where
  pure value supply result after h := by
    cases h
    exact ⟨Nat.le_refl _, fun _ => rfl⟩
  bind := spares_bind
  malformed fault supply value after h := by cases h
  take := spares_take
  raiseSkip supply value after h := by
    cases h
    exact ⟨Nat.le_refl _, fun _ => congrArg (Prod.mk _) (Supply.without_setSkip ..).symm⟩
  ofRule tag outcome supply value after h := by
    cases outcome with
    | error refusal => cases h
    | ok rendered =>
        cases h
        exact ⟨Nat.le_refl _, fun _ => rfl⟩
  isolateSkip := spares_isolateSkip

end

/-- Expansions get on without any parameter that they do not take. -/
theorem spares_expandText (quoter : Quoter) (index : Nat) (text : List Char) :
    Spares index _ (expandText quoter text) := by
  intro supply value after h
  rw [expandText_eq_expandWithin quoter text (Nat.le_refl _)] at h
  obtain ⟨hle, hwithout⟩ := (compositional_spares index).expandWithin supply.pending.length text
    supply value after h
  refine ⟨hle, ?_⟩
  intro hspared
  rw [expandText_eq_expandWithin quoter text Supply.length_without_le]
  exact hwithout hspared

end SqlTemplate
