import SqlTemplate.Literal.Scalar

/-!
# Refused parameters

A placeholder refuses a parameter that does not fit its tag, and says what it expected and which kind
of value it met.  Three refusals are about the size of a number alone.
-/

namespace SqlTemplate

/-- What a placeholder has to say about a parameter that does not fit. -/
inductive Complaint where
  | notScalar
  | notInteger
  | notNumber
  | notFinite
  | notTemplate
  | notArray
  | cellNotScalar
  | notIdentifier
  | identifierNotText
  | noLiteral (reason : NoLiteral)
deriving DecidableEq, Repr

def Complaint.message : Complaint → String
  | notScalar => "Placeholder value is not scalar"
  | notInteger => "Placeholder value is not an integer"
  | notNumber => "Placeholder value is not a number"
  | notFinite => "Placeholder value is not a finite number"
  | notTemplate => "Placeholder value is not a template string"
  | notArray => "Placeholder value is not array"
  | cellNotScalar => "Array element is not scalar"
  | notIdentifier => "Placeholder value is not an identifier"
  | identifierNotText => "Placeholder value is not string"
  | noLiteral reason => reason.message

/-- Why a parameter is not rendered. -/
inductive Refusal where
  /-- The parameter, or a part of it of the given kind, does not fit the tag. -/
  | unsuitable (complaint : Complaint) (kind : Kind)
  /-- An integer has more than `digitLimit` digits. -/
  | tooManyDigits
  /-- The integer part of a decimal has so many digits, more than `digitLimit`.  It is put together
  before its digits are counted, so this may already be more than memory has room for. -/
  | hugeDecimal (digits : Nat)
  /-- An integer is beyond the range of double precision. -/
  | beyondDouble
deriving DecidableEq, Repr

/-- The literal of a scalar, where having none is a complaint about the scalar. -/
def Scalar.literalOrComplain (quoter : Quoter) (s : Scalar) : Except Refusal (List Char) :=
  (s.literal quoter).mapError fun reason => .unsuitable (.noLiteral reason) s.kind

end SqlTemplate
