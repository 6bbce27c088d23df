import SqlTemplate.Literal.Refusal

/-!
# Numeric placeholders

The tags `d`, `n` and `f` accept numbers of every type and texts that read as numbers.  An integer is
kept exact wherever the parameter is exact; only a text that is no integer numeral goes through
double precision, and what is left of it is the part before the point.
-/

namespace SqlTemplate

open SqlTemplate.Number SqlTemplate.Text

/-! ## Integers -/

/-- The integer that a text stands for: an integer numeral, or any other number without its
fraction. -/
def integerOfText? (text : List Char) : Option Int :=
  let trimmed := trim text
  match integer? trimmed with
  | some i => some i
  | none => (Binary64.ofText? trimmed).bind Binary64.truncate?

/-- The digits of an integer, where having too many is a refusal of its own. -/
def writeInteger (i : Int) : Except Refusal (List Char) :=
  (integerLiteral i).mapError fun _ => .tooManyDigits

/-- The integer part of a scalar, as text. -/
def Scalar.integerPart (s : Scalar) : Except Refusal (List Char) :=
  let refused := .error (.unsuitable .notInteger s.kind)
  match s with
  | bool b => .ok (boolText b)
  | int i => writeInteger i
  | float x =>
      match x.truncate? with
      | some i => writeInteger i
      | none => refused
  | decimal (.finite negative coefficient exponent) =>
      let digits := Decimal.integerDigits coefficient exponent
      if digitLimit < digits then .error (.hugeDecimal digits)
      else writeInteger (signed negative (Decimal.integerPart coefficient exponent))
  | text t =>
      match integerOfText? t.toList with
      | some i => writeInteger i
      | none => refused
  | _ => refused

/-- What the tag `d` makes of a value other than `NULL`. -/
def renderInteger : Value → Except Refusal (List Char)
  | .scalar s => s.integerPart
  | value => .error (.unsuitable .notInteger value.kind)

/-! ## Empty values -/

/-- Whether a scalar counts as nothing: a zero of any type, no text, or the text of a zero. -/
def Scalar.isEmpty : Scalar → Bool
  | bool b => !b
  | int i => i == 0
  | float x => x.isZero
  | decimal d => d.isZero
  | text t => t == "" || t == "0"
  | _ => false

/-- Whether a value counts as nothing: `NULL`, an empty scalar, or an empty container. -/
def Value.isEmpty : Value → Bool
  | null => true
  | scalar s => s.isEmpty
  | sequence _ items => items.isEmpty
  | mapping _ entries => entries.isEmpty
  | _ => false

/-- What the tag `n` makes of a value. -/
def renderIntegerOrNull (value : Value) : Except Refusal (List Char) :=
  if value.isEmpty then .ok nullLiteral else renderInteger value

/-! ## Doubles -/

/-- Writes a double, where an infinity or a NaN is a complaint about the parameter. -/
def writeFloat (kind : Kind) (x : Binary64) : Except Refusal (List Char) :=
  (floatLiteral x).mapError fun _ => .unsuitable .notFinite kind

/-- The double that a text stands for; a comma counts as a point. -/
def doubleOfText? (text : List Char) : Option Binary64 :=
  Binary64.ofText? ((trim text).map fun c => if c = ',' then '.' else c)

/-- What the tag `f` makes of a value other than `NULL`. -/
def renderFloat : Value → Except Refusal (List Char)
  | .scalar (.bool b) => writeFloat .bool (Binary64.ofInt (if b then 1 else 0))
  | .scalar (.int i) =>
      let x := Binary64.ofInt i
      if x.isFinite then writeFloat .int x else .error .beyondDouble
  | .scalar (.float x) => writeFloat .float x
  | .scalar (.decimal d) => writeFloat .decimal d.toBinary64
  | .scalar (.text t) =>
      match doubleOfText? t.toList with
      | some x => writeFloat .text x
      | none => .error (.unsuitable .notFinite .text)
  | value => .error (.unsuitable .notNumber value.kind)

end SqlTemplate
