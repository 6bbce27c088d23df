import SqlTemplate.Text.Blank
import SqlTemplate.Text.DecimalDigit

/-!
# Numerals

The written forms of numbers that a parameter may have when it arrives as text: an optional sign and
a run of digits for an integer, and a run of digits with a point and a power of ten for any other
number.  Digits may come from every script, and a single low line may stand between two digits.

Nothing is rounded here: a numeral is read as a sign, a natural number and a power of ten.
-/

namespace SqlTemplate.Number

open SqlTemplate.Text

/-- A run of digits longer than this is not taken for an integer, and an integer with more digits is
not written. -/
def digitLimit : Nat := 4300

/-- The sign in front of a numeral, and what follows it.  The flag tells a minus. -/
def splitSign : List Char → Bool × List Char
  | '-' :: rest => (true, rest)
  | '+' :: rest => (false, rest)
  | text => (false, text)

/-- The part before the first character with the property, and the part after it, if there is such a
character. -/
def cutAt (separates : Char → Bool) (text : List Char) : List Char × Option (List Char) :=
  (text.takeWhile (!separates ·),
    match text.dropWhile (!separates ·) with
    | [] => none
    | _ :: rest => some rest)

/-- The values of a non-empty run of digits in which a single low line may stand between two
digits. -/
def digitRun? : List Char → Option (List Nat)
  | [] => none
  | [c] => (digitValue? c).map ([·])
  | c :: '_' :: rest => do
      let first ← digitValue? c
      let others ← digitRun? rest
      return first :: others
  | c :: rest => do
      let first ← digitValue? c
      let others ← digitRun? rest
      return first :: others

/-- Like `digitRun?`, with nothing standing for no digits. -/
def optionalRun? (text : List Char) : Option (List Nat) :=
  if text.isEmpty then some [] else digitRun? text

/-- A signed whole number. -/
def signed (negative : Bool) (magnitude : Nat) : Int :=
  if negative then -(magnitude : Int) else magnitude

/-- The power of ten after the mark of a numeral; without the mark it is zero. -/
def powerOfTen? : Option (List Char) → Option Int
  | none => some 0
  | some text => do
      let (negative, rest) := splitSign text
      let digits ← digitRun? rest
      return signed negative (ofDigits digits)

/-- A number as a natural number times a power of ten. -/
structure Scaled where
  digits : Nat
  exponent : Int
deriving DecidableEq, Repr

/-- Reads an unsigned numeral with an optional point and an optional power of ten.  Digits are
needed on one side of the point at least. -/
def scaled? (text : List Char) : Option Scaled := do
  let (mantissa, power) := cutAt (fun c => c == 'e' || c == 'E') text
  let (whole, fraction) := cutAt (· == '.') mantissa
  let wholeDigits ← optionalRun? whole
  let fractionDigits ← optionalRun? (fraction.getD [])
  let exponent ← powerOfTen? power
  if wholeDigits.isEmpty && fractionDigits.isEmpty then none
  else
    return ⟨ofDigits (wholeDigits ++ fractionDigits), exponent - fractionDigits.length⟩

/-- Reads an integer: blanks at the ends, an optional sign, and a run of at most `digitLimit`
digits. -/
def integer? (text : List Char) : Option Int := do
  let (negative, rest) := splitSign (trim text)
  let digits ← digitRun? rest
  if digits.length ≤ digitLimit then return signed negative (ofDigits digits) else none

/-- The number of decimal digits of a natural number; zero has one. -/
def digitCount (n : Nat) : Nat :=
  (Nat.toDigits 10 n).length

/-- The decimal digits of an integer, after a minus for a negative one. -/
def integerText (i : Int) : List Char :=
  (if i < 0 then ['-'] else []) ++ Nat.toDigits 10 i.natAbs

/-- The digits before and after the decimal point of `0.digits × 10 ^ point`.  There is always a
digit before the point; there may be none after it. -/
def splitAtPoint (digits : List Char) (point : Int) : List Char × List Char :=
  if point ≤ 0 then (['0'], List.replicate (-point).toNat '0' ++ digits)
  else
    (digits.take point.toNat ++ List.replicate (point.toNat - digits.length) '0',
      digits.drop point.toNat)

/-- The digits of a number with the point after the first of them; a single digit has no point. -/
def pointAfterFirst : List Char → List Char
  | first :: second :: rest => first :: '.' :: second :: rest
  | digits => digits

end SqlTemplate.Number
