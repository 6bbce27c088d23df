import Mathlib.Logic.Relation
import SqlTemplate.Proofs.Expansion.Malformed
import SqlTemplate.Proofs.Expansion.Termination

/-!
# What an expansion reaches

An activity calls others, and these call others again.  What is reached in this way is
everything that is scanned, dispatched and resolved on the way (`Reaches`).  Where the calls
of some activities are left out, what lies behind them is not reached: without the calls of
placeholders these are the nested templates, and without the calls of blocks it is what
stands in the alternatives.

A template that is malformed is found so by a scan.  A failure that tells of it comes from a
scan that was reached without the help of a placeholder, or else from a nested template
(`found_of_runs`).
-/

namespace SqlTemplate

/-- Whether an activity is the dispatch of a placeholder. -/
def Activity.isDispatch : Activity → Bool
  | dispatch _ => true
  | scan .. | resolve _ | alternatives .. => false

/-- Whether an activity is the resolution of a block. -/
def Activity.isResolve : Activity → Bool
  | resolve _ => true
  | scan .. | dispatch _ | alternatives .. => false

/-- What is reached from an activity on a supply by calls, those of the activities that are
left out aside. -/
def Reaches (quoter : Quoter) (leftOut : Activity → Bool) :
    Activity × Supply → Activity × Supply → Prop :=
  Relation.ReflTransGen fun caller callee => leftOut caller.1 = false ∧ Calls quoter caller callee

namespace Reaches

variable {quoter : Quoter} {leftOut : Activity → Bool} {first middle last : Activity × Supply}

theorem head (hcall : Calls quoter first middle) (hfirst : leftOut first.1 = false)
    (h : Reaches quoter leftOut middle last) : Reaches quoter leftOut first last :=
  Relation.ReflTransGen.head ⟨hfirst, hcall⟩ h

/-- What every call keeps holds of all that is reached. -/
theorem invariant {Good : Activity → Prop} (h : Reaches quoter leftOut first last)
    (hfirst : Good first.1)
    (hcalls : ∀ caller callee, leftOut caller.1 = false → Calls quoter caller callee →
      Good caller.1 → Good callee.1) : Good last.1 := by
  induction h with
  | refl => exact hfirst
  | tail _ hcall ih => exact hcalls _ _ hcall.1 hcall.2 ih

end Reaches

/-! ## Where a failure comes from -/

/-- Whether a fault is found by a scan that is reached, at the place where it is. -/
def FoundWithin (quoter : Quoter) (start : Activity × Supply) (fault : Fault) : Prop :=
  ∃ text supply next, Reaches quoter Activity.isDispatch start (.scan text fault.offset, supply) ∧
    turnAt? text fault.offset = some (.fault fault.problem, next)

/-- Whether the expansion of a template that a placeholder takes fails with a fault. -/
def FoundInTemplate (quoter : Quoter) (start : Activity × Supply) (fault : Fault) : Prop :=
  ∃ tag taking text supply, Reaches quoter Activity.isDispatch start (.dispatch tag, taking) ∧
    Calls quoter (.dispatch tag, taking) (.scan text 0, supply) ∧
    (expandText quoter text supply).1 = .error (.malformed fault)

section

variable {quoter : Quoter} {caller callee : Activity × Supply} {fault : Fault}

/-- What is found within a call is found within the caller. -/
theorem found_of_calls (hcall : Calls quoter caller callee)
    (hcaller : caller.1.isDispatch = false)
    (h : FoundWithin quoter callee fault ∨ FoundInTemplate quoter callee fault) :
    FoundWithin quoter caller fault ∨ FoundInTemplate quoter caller fault := by
  rcases h with ⟨text, supply, next, hreach, hturn⟩ | ⟨tag, taking, text, supply, hreach, hnested⟩
  · exact Or.inl ⟨text, supply, next, hreach.head hcall hcaller, hturn⟩
  · exact Or.inr ⟨tag, taking, text, supply, hreach.head hcall hcaller, hnested⟩

theorem eq_of_emit_eq_error {text : List Char} {result : Except Failure (List Char) × Supply}
    {failure : Failure} {after : Supply} (h : (.error failure, after) = emit text result) :
    (.error failure, after) = result := by
  obtain ⟨other | inside, last⟩ := result
  · cases h
    rfl
  · cases h

/-- Taking a parameter does not find a template malformed. -/
theorem take_ne_malformed (supply after : Supply) (fault : Fault) :
    Expansion.take supply ≠ (.error (.malformed fault), after) := by
  intro htake
  cases hpending : supply.pending with
  | nil => rw [Expansion.take_of_pending_nil hpending] at htake; cases htake
  | cons value rest => rw [Expansion.take_of_pending_cons hpending] at htake; cases htake

/-- **A malformed template is found so by a scan**, one that is reached or one that a nested
template is scanned by. -/
theorem found_of_runs {activity : Activity} {supply after : Supply}
    (h : Runs quoter activity supply (.error (.malformed fault), after)) :
    FoundWithin quoter (activity, supply) fault ∨
      FoundInTemplate quoter (activity, supply) fault := by
  generalize hresult : ((.error (.malformed fault), after) :
    Except Failure (List Char) × Supply) = result at h
  induction h generalizing after with
  | finished hend => cases hresult
  | @fault text position supply problem next hturn =>
      cases hresult
      exact Or.inl ⟨text, supply, next, .refl, hturn⟩
  | copied hturn hrest ih =>
      exact found_of_calls (.copied hturn) rfl (ih (eq_of_emit_eq_error hresult))
  | failed hturn hcallee hrun ih =>
      exact found_of_calls (.token hturn hcallee) rfl (ih hresult)
  | emitted hturn hcallee hrun hrest ihcallee ih =>
      exact found_of_calls (.behind hturn hcallee hrun) rfl (ih (eq_of_emit_eq_error hresult))
  | missing htake =>
      cases hresult
      exact absurd htake (take_ne_malformed _ _ _)
  | skipped htake => cases hresult
  | refused htake hskip hpresent =>
      exact absurd (Except.error.inj (Prod.mk.inj hresult).1).symm (toFailure_ne_malformed _ _ _ _)
  | literal htake hskip hpresent => cases hresult
  | @template tag supply value mid text result htake hskip hpresent hrun ih =>
      -- the induction hypothesis is not needed: the search ends in front of the template
      refine Or.inr ⟨tag, supply, text, mid, .refl, .template htake hskip hpresent, ?_⟩
      rw [runs_scan_iff.1 hrun, ← hresult]
  | locked hgate =>
      cases hresult
      cases reportsOnly_passGate _ _ fault (congrArg Prod.fst hgate)
  | broken hgate hrun ih =>
      cases hresult
      exact found_of_calls (.content hgate) rfl (ih rfl)
  | resolved hgate hrun ih => cases hresult
  | exhausted => cases hresult
  | spoiled hrun ih => exact found_of_calls .piece rfl (ih hresult)
  | expanded hpiece hothers ihpiece ih =>
      exact found_of_calls (.others hpiece) rfl (ih hresult)

end

end SqlTemplate
