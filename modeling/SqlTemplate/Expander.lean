import SqlTemplate.Expansion.Evaluation
import SqlTemplate.Log
import SqlTemplate.Profile

/-!
# Expanders

An expander turns a template and its parameters into one literal statement, for the dialect of its
quoter.  Expansion is all or nothing: it gives the statement together with the number of parameters
that it consumed, or a failure.

Only a finished expansion is logged, and unless the profile asks for the statement itself the log
shows no more of the parameters than their number.
-/

namespace SqlTemplate

/-- A profile together with the quoter to use. -/
structure Expander where
  profile : Profile
  quoter : Quoter

structure Expanded where
  sql : String
  /-- The number of parameters that the template took, gates of blocks included. -/
  consumed : Nat
  supplied : Nat
  dialect : String
deriving DecidableEq, Repr

/-- The number of parameters that the template never reached. -/
def Expanded.unconsumed (expanded : Expanded) : Nat :=
  expanded.supplied - expanded.consumed

namespace Expander

/-- The expander that uses the quoter of its profile's target. -/
def ofProfile (profile : Profile) : Expander :=
  ⟨profile, profile.target.quoter⟩

def expand (expander : Expander) (template : String) (parameters : List Value) :
    Except Failure Expanded :=
  let (outcome, supply) := expandText expander.quoter template.toList (Supply.ofList parameters)
  outcome.map fun sql =>
    { sql := String.ofList sql
      consumed := supply.taken
      supplied := parameters.length
      dialect := expander.quoter.dialect }

/-- What is logged about a finished expansion. -/
def records (profile : Profile) (expanded : Expanded) : List LogRecord :=
  let ignored :=
    if expanded.unconsumed ≠ 0 ∧ profile.warnUnconsumed then
      [⟨.warning, "Template consumed " ++ toString expanded.consumed ++ " of " ++
        toString expanded.supplied ++ " parameters; " ++ toString expanded.unconsumed ++
        " ignored"⟩]
    else []
  let statement :=
    if profile.logExpanded then [⟨.debug, "Expanded SQL: " ++ expanded.sql⟩] else []
  ignored ++ statement

/-- Expands a template and tells what is logged about it. -/
def expandLogged (expander : Expander) (template : String) (parameters : List Value) :
    Except Failure Expanded × List LogRecord :=
  let outcome := expander.expand template parameters
  match outcome with
  | .ok expanded => (outcome, records expander.profile expanded)
  | .error _ => (outcome, [])

end Expander

/-- Expands a template for the target of a profile. -/
def expand (template : String) (parameters : List Value) (profile : Profile) :
    Except Failure String :=
  ((Expander.ofProfile profile).expand template parameters).map (·.sql)

end SqlTemplate
