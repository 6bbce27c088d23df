import SqlTemplate.Expansion.Failure
import SqlTemplate.Value

/-!
# The supply of parameters

One expansion takes its parameters from one supply, strictly in the order in which they were given,
however deeply blocks and templates are nested.  The supply also carries the *skip flag*, which a
placeholder raises when it takes the skip mark and which the nearest enclosing block looks at.

An `Expansion` is a step that may take parameters and may fail.  A failed step leaves the supply as
far as it had come.
-/

namespace SqlTemplate

structure Supply where
  pending : List Value
  taken : Nat
  /-- Whether a placeholder took the skip mark since the innermost open block began. -/
  skipRaised : Bool

namespace Supply

/-- A supply of which nothing has been taken. -/
def ofList (parameters : List Value) : Supply :=
  ⟨parameters, 0, false⟩

/-- The number of parameters that there were in the beginning. -/
def size (supply : Supply) : Nat :=
  supply.taken + supply.pending.length

end Supply

/-- A step of an expansion. -/
abbrev Expansion (α : Type) : Type :=
  ExceptT Failure (StateM Supply) α

namespace Expansion

def take : Expansion Value := fun supply =>
  match supply.pending with
  | [] => (.error (.underflow (supply.taken + 1) supply.size), supply)
  | value :: rest => (.ok value, { supply with pending := rest, taken := supply.taken + 1 })

def setSkip (raised : Bool) : Expansion Unit := fun supply =>
  (.ok (), { supply with skipRaised := raised })

/-- The outcome of a placeholder's rule, as a step at the parameter taken last. -/
def ofRule {α : Type} (tag : Tag) (outcome : Except Refusal α) : Expansion α := fun supply =>
  (outcome.mapError (·.toFailure tag supply.taken), supply)

/-- Runs a step with the skip flag lowered and tells whether the step raised it.  The flag has its
old value afterwards, whether the step succeeds or fails. -/
def isolateSkip {α : Type} (step : Expansion α) : Expansion (α × Bool) := fun supply =>
  let (outcome, after) := step { supply with skipRaised := false }
  (outcome.map (·, after.skipRaised), { after with skipRaised := supply.skipRaised })

/-! ### What each step does to the supply -/

variable {α β : Type}

theorem pure_apply (value : α) (supply : Supply) :
    (pure value : Expansion α) supply = (.ok value, supply) := rfl

theorem throw_apply (failure : Failure) (supply : Supply) :
    (throw failure : Expansion α) supply = (.error failure, supply) := rfl

theorem bind_apply (step : Expansion α) (next : α → Expansion β) (supply : Supply) :
    (step >>= next) supply =
      match step supply with
      | (.ok value, after) => next value after
      | (.error failure, after) => (.error failure, after) := by
  show (ExceptT.bindCont next (step supply).1) (step supply).2 = _
  rcases step supply with ⟨outcome, after⟩
  cases outcome <;> rfl

theorem take_of_pending_nil {supply : Supply} (h : supply.pending = []) :
    take supply = (.error (.underflow (supply.taken + 1) supply.taken), supply) := by
  simp [take, h, Supply.size]

theorem take_of_pending_cons {supply : Supply} {value : Value} {rest : List Value}
    (h : supply.pending = value :: rest) :
    take supply =
      (.ok value, { supply with pending := rest, taken := supply.taken + 1 }) := by
  simp [take, h]

/-- Taking a parameter, or failing to, does not change how many there were. -/
theorem size_take (supply : Supply) : (take supply).2.size = supply.size := by
  cases pending : supply.pending with
  | nil => rw [take_of_pending_nil pending]
  | cons value rest =>
    rw [take_of_pending_cons pending]
    simp only [Supply.size, pending, List.length_cons]
    omega

/-- The skip flag is as it was before, whatever the step did. -/
theorem skipRaised_isolateSkip (step : Expansion α) (supply : Supply) :
    (isolateSkip step supply).2.skipRaised = supply.skipRaised := rfl

end Expansion

end SqlTemplate
