import SqlTemplate.Number.Binary64

/-!
# Decimal numbers

Floating-point numbers in base ten, as the General Decimal Arithmetic specification has them: a sign,
a whole coefficient and a power of ten, none of which is ever normalised, together with the
infinities and the quiet and signaling NaNs with their diagnostic payload.

`Decimal.text` is the specification's *to-scientific-string*: positional when the power of ten is not
positive and the first digit stands no more than six places after the point, and otherwise with one
digit before the point and an explicit power.
-/

namespace SqlTemplate.Number

open SqlTemplate.Text

inductive Decimal where
  /-- The number `± coefficient × 10 ^ exponent`. -/
  | finite (negative : Bool) (coefficient : Nat) (exponent : Int)
  | infinite (negative : Bool)
  /-- Not a number; a payload of zero is not written. -/
  | nan (negative signaling : Bool) (payload : Nat)
deriving DecidableEq, Repr

namespace Decimal

/-- Whether the value is a number and not an infinity. -/
def isFinite : Decimal → Bool
  | finite .. => true
  | _ => false

/-- Whether the value is a zero of either sign. -/
def isZero : Decimal → Bool
  | finite _ coefficient _ => coefficient == 0
  | _ => false

/-! ## Writing -/

private def minus (negative : Bool) : List Char :=
  if negative then ['-'] else []

/-- The greatest number of places between the point and the first digit in positional notation. -/
def leastPositional : Int := -6

/-- The coefficient's digits with their power of ten. -/
def magnitudeText (coefficient : Nat) (exponent : Int) : List Char :=
  let digits := Nat.toDigits 10 coefficient
  let leading := exponent + digits.length - 1
  if exponent ≤ 0 ∧ leastPositional ≤ leading then
    let (whole, fraction) := splitAtPoint digits (digits.length + exponent)
    if fraction.isEmpty then whole else whole ++ '.' :: fraction
  else
    pointAfterFirst digits ++ 'E' :: (if leading < 0 then '-' else '+') ::
      Nat.toDigits 10 leading.natAbs

def text : Decimal → List Char
  | finite negative coefficient exponent => minus negative ++ magnitudeText coefficient exponent
  | infinite negative => minus negative ++ "Infinity".toList
  | nan negative signaling payload =>
      minus negative ++ (if signaling then "sNaN".toList else "NaN".toList) ++
        (if payload = 0 then [] else Nat.toDigits 10 payload)

/-- The number as it is named inside a message. -/
def shown (number : Decimal) : String :=
  "Decimal('" ++ String.ofList number.text ++ "')"

/-! ## Reading -/

/-- Reads the digits after the word for a NaN. -/
private def payload? (text : List Char) : Option Nat :=
  (optionalRun? text).map ofDigits

/-- Reads a numeric string: a numeral with an optional sign, or one of the words for an infinity or a
NaN in letters of either case.  Blanks at the ends and low lines anywhere do not count. -/
def ofText? (text : List Char) : Option Decimal :=
  let (negative, rest) := splitSign ((trim text).filter (· != '_'))
  let word := rest.map Char.toLower
  if word = "inf".toList ∨ word = "infinity".toList then some (infinite negative)
  else if word.take 3 = "nan".toList then
    (payload? (rest.drop 3)).map (nan negative false ·)
  else if word.take 4 = "snan".toList then
    (payload? (rest.drop 4)).map (nan negative true ·)
  else (scaled? rest).map fun number => finite negative number.digits number.exponent

/-! ## The integer part -/

/-- The integer part of `coefficient × 10 ^ exponent`.  A zero, and a coefficient with too few digits
to reach the point, leave nothing; these cases need no power of ten, which may be a very great one. -/
def integerPart (coefficient : Nat) (exponent : Int) : Nat :=
  if coefficient = 0 then 0
  else if 0 ≤ exponent then coefficient * Nat.pow 10 exponent.toNat
  else if digitCount coefficient ≤ (-exponent).toNat then 0
  else coefficient / Nat.pow 10 (-exponent).toNat

/-- How many digits `coefficient × 10 ^ exponent` has in front of the point; a zero has none.  They
are counted without the power of ten. -/
def integerDigits (coefficient : Nat) (exponent : Int) : Nat :=
  if coefficient = 0 then 0 else (digitCount coefficient + exponent).toNat

/-! ## Double precision -/

/-- The double nearest to a decimal number. -/
def toBinary64 : Decimal → Binary64
  | finite negative coefficient exponent => Binary64.ofScaled negative ⟨coefficient, exponent⟩
  | infinite negative => .infinite negative
  | nan .. => .nan

end Decimal

end SqlTemplate.Number
