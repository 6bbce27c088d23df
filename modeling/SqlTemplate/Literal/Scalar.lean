import SqlTemplate.Quoter
import SqlTemplate.Value

/-!
# Literals of scalars

Numbers are written bare, truth values as `1` and `0`, and every other scalar as the quoted form of
its text.  Numbers that are not finite have no literal, nor has an integer with too many digits.
-/

namespace SqlTemplate

open SqlTemplate.Number

/-- Why a scalar has no literal. -/
inductive NoLiteral where
  | nonFiniteFloat (value : Binary64)
  | nonFiniteDecimal (value : Decimal)
  | tooManyDigits
deriving DecidableEq, Repr

def NoLiteral.message : NoLiteral → String
  | nonFiniteFloat value =>
      "Non-finite float " ++ String.ofList value.text ++ " has no SQL literal"
  | nonFiniteDecimal value => "Non-finite decimal " ++ value.shown ++ " has no SQL literal"
  | tooManyDigits =>
      "Exceeds the limit (" ++ toString digitLimit ++ " digits) for integer string conversion; " ++
        "use sys.set_int_max_str_digits() to increase the limit"

/-- The decimal digits of an integer that has no more than `digitLimit` of them. -/
def integerLiteral (i : Int) : Except NoLiteral (List Char) :=
  if digitLimit < digitCount i.natAbs then .error .tooManyDigits else .ok (integerText i)

/-- The shortest text of a finite double. -/
def floatLiteral (x : Binary64) : Except NoLiteral (List Char) :=
  if x.isFinite then .ok x.text else .error (.nonFiniteFloat x)

/-- The scientific string of a finite decimal number. -/
def decimalLiteral (d : Decimal) : Except NoLiteral (List Char) :=
  if d.isFinite then .ok d.text else .error (.nonFiniteDecimal d)

namespace Scalar

/-- The text of a truth value inside a statement. -/
def boolText (b : Bool) : List Char :=
  if b then ['1'] else ['0']

/-- The text of a scalar, as it stands between quotation marks. -/
def text? : Scalar → Except NoLiteral (List Char)
  | bool b => .ok (boolText b)
  | int i => integerLiteral i
  | float x => .ok x.text
  | decimal d => .ok d.text
  | text s => .ok s.toList
  | date d => .ok d.text
  | time t => .ok t.text
  | dateTime t => .ok t.text
  | uuid u => .ok (uuidText u)

def literal (quoter : Quoter) : Scalar → Except NoLiteral (List Char)
  | bool b => .ok (boolText b)
  | int i => integerLiteral i
  | float x => floatLiteral x
  | decimal d => decimalLiteral d
  | text s => .ok (quoter.quote s.toList)
  | date d => .ok (quoter.quote d.text)
  | time t => .ok (quoter.quote t.text)
  | dateTime t => .ok (quoter.quote t.text)
  | uuid u => .ok (quoter.quote (uuidText u))

end Scalar

def skipText : List Char := "SKIP".toList

/-- The literal of a value that can stand alone: a scalar, or the skip mark taken as a word. -/
def Value.literal? (quoter : Quoter) : Value → Option (Except NoLiteral (List Char))
  | scalar s => some (s.literal quoter)
  | skip => some (.ok (quoter.quote skipText))
  | _ => none

/-- The literal that stands for a missing value. -/
def nullLiteral : List Char := "NULL".toList

end SqlTemplate
