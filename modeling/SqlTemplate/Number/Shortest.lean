import SqlTemplate.Number.Binary64
import SqlTemplate.Text.Padded

/-!
# The shortest text of a double

A double is written with the fewest digits that read back as the same double; among several such
numerals the one nearest to the double's value is taken, and of two equally near ones the one with
the even last digit.

## Strategy

The reals that round to `m × 2 ^ q` form an interval around it whose ends belong to it exactly when
`m` is even.  For one, two, … seventeen digits the two points of that decimal grid around the value
are tested against the interval, in whole numbers: if any point of the grid lies in the interval, one
of these two does.  Seventeen digits always suffice.

Numbers from `10 ^ -4` up to but not including `10 ^ 16` are written with a point and at least one
digit on either side of it; all others with one digit before the point and a power of ten whose sign
is explicit and which has two digits at least.
-/

namespace SqlTemplate.Number.Binary64

open SqlTemplate.Text

/-- The interval of reals that round to a double, in quarters of the unit of its last bit. -/
structure Interval where
  lower : Nat
  value : Nat
  upper : Nat
  /-- Whether the two ends round to the double as well. -/
  closed : Bool

/-- The reals that round to `significand × 2 ^ exponent`.  Below a power of two the next double is
only half as far away, unless the format has no smaller exponent. -/
def interval (significand : Nat) (exponent : Int) : Interval :=
  let value := 4 * significand
  let below :=
    if significand = Nat.pow 2 (precision - 1) ∧ leastExponent < exponent then value - 1
    else value - 2
  ⟨below, value, value + 2, significand % 2 == 0⟩

/-- Whether a number, in the unit of the interval's ends, lies in the interval. -/
def Interval.holds (i : Interval) (lower upper number : Nat) : Bool :=
  if i.closed then lower ≤ number && number ≤ upper else lower < number && number < upper

/-- The multiple of `10 ^ power` nearest to the double's value, if a multiple next to that value
rounds to the double. -/
def nearestOnGrid? (significand : Nat) (exponent power : Int) : Option Nat :=
  let i := interval significand exponent
  let unit := exponent - 2
  let gridScale := Nat.pow 10 power.toNat * Nat.pow 2 (-unit).toNat
  let scale := Nat.pow 10 (-power).toNat * Nat.pow 2 unit.toNat
  let value := i.value * scale
  let below := value / gridScale
  let above := below + 1
  let inside (point : Nat) := i.holds (i.lower * scale) (i.upper * scale) (point * gridScale)
  let downward := value - below * gridScale
  let upward := above * gridScale - value
  match inside below, inside above with
  | true, true =>
      if downward < upward then some below
      else if upward < downward then some above
      else if below % 2 = 0 then some below else some above
  | true, false => some below
  | false, true => some above
  | false, false => none

/-- The number of digits before the point of `significand × 2 ^ exponent`; it is not positive for a
number below one tenth. -/
def decimalPoint (significand : Nat) (exponent : Int) : Int :=
  let numerator := significand * Nat.pow 2 exponent.toNat
  let denominator := Nat.pow 2 (-exponent).toNat
  let guess := (digitCount numerator : Int) - digitCount denominator
  if denominator * Nat.pow 10 guess.toNat ≤ numerator * Nat.pow 10 (-guess).toNat then guess + 1
  else guess

/-- The most digits that a double ever needs. -/
def maxDigits : Nat := 17

/-- The shortest numeral of a positive double, as digits and a power of ten. -/
def shortest (significand : Nat) (exponent : Int) : Scaled :=
  let point := decimalPoint significand exponent
  ((List.range maxDigits).findSome? fun (digits : Nat) =>
    let power := point - ((digits : Int) + 1)
    (nearestOnGrid? significand exponent power).map (⟨·, power⟩)).getD ⟨0, 0⟩

/-! ## Writing -/

/-- The least power of ten whose first digit is written positionally. -/
def leastPositional : Int := -4

/-- The least power of ten that is written as such. -/
def leastScientific : Int := 16

private def dropTrailingZeros (digits : List Char) : List Char :=
  (digits.reverse.dropWhile (· == '0')).reverse

/-- The power of ten after the mark, with a sign and two digits at least. -/
def powerText (power : Int) : List Char :=
  (if power < 0 then '-' else '+') :: padded 10 2 power.natAbs

/-- Lays out a positive number given by its digits and a power of ten. -/
def layout (number : Scaled) : List Char :=
  let written := Nat.toDigits 10 number.digits
  let digits := dropTrailingZeros written
  let point := number.exponent + written.length
  if leastPositional ≤ point - 1 ∧ point - 1 < leastScientific then
    let (whole, fraction) := splitAtPoint digits point
    whole ++ '.' :: (if fraction.isEmpty then ['0'] else fraction)
  else pointAfterFirst digits ++ 'e' :: powerText (point - 1)

/-- The shortest text that reads back as the double; zeros keep their sign. -/
def text : Binary64 → List Char
  | finite negative significand exponent =>
      (if negative then ['-'] else []) ++
        (if significand = 0 then "0.0".toList else layout (shortest significand exponent))
  | infinite negative => if negative then "-inf".toList else "inf".toList
  | nan => "nan".toList

end SqlTemplate.Number.Binary64
