import SqlTemplate.Literal.Refusal
import SqlTemplate.Template.Fault
import SqlTemplate.Template.Tag

/-!
# Failed expansions

An expansion that fails gives no statement at all, only the cause: a fault of a template, a parameter
that its placeholder refuses, or a parameter that is missing.  Parameters are counted from one.
-/

namespace SqlTemplate

/-- Why an expansion failed. -/
inductive Failure where
  | malformed (fault : Fault)
  /-- The parameter at a position does not fit its placeholder. -/
  | unsuitable (complaint : Complaint) (tag : Tag) (position : Nat) (kind : Kind)
  /-- The template needs the parameter at a position, and only so many were supplied. -/
  | underflow (position supplied : Nat)
  | tooManyDigits
  /-- The integer part of a decimal has so many digits, more than `digitLimit`. -/
  | hugeDecimal (digits : Nat)
  | beyondDouble
deriving DecidableEq, Repr

/-- The failure of a placeholder that refuses the parameter at the given position. -/
def Refusal.toFailure (refusal : Refusal) (tag : Tag) (position : Nat) : Failure :=
  match refusal with
  | unsuitable complaint kind => .unsuitable complaint tag position kind
  | tooManyDigits => .tooManyDigits
  | hugeDecimal digits => .hugeDecimal digits
  | beyondDouble => .beyondDouble

end SqlTemplate
