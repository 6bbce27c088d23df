import SqlTemplate.Number.Numeral

/-!
# Double-precision numbers

The numbers of the IEEE 754 format binary64 as a sign, a whole significand `m` and a power of two
`q`, standing for `± m × 2 ^ q`.  Every function below is exact arithmetic on `m` and `q`.

A number is kept in the one form in which `m` has 53 bits, or `q` is the least exponent of the format
and `m` has fewer; `ofRatio` builds that form.  It rounds a quotient to the nearest number of the
format, a quotient half way between two of them to the one with the even significand, and a quotient
beyond the greatest of them to an infinity.
-/

namespace SqlTemplate.Number

open SqlTemplate.Text

inductive Binary64 where
  /-- The number `± significand × 2 ^ exponent`. -/
  | finite (negative : Bool) (significand : Nat) (exponent : Int)
  | infinite (negative : Bool)
  | nan
deriving DecidableEq, Repr

namespace Binary64

/-- The number of bits of a full significand. -/
def precision : Nat := 53

/-- The power of two of the last bit of the smallest numbers. -/
def leastExponent : Int := -1074

/-- The power of two of the last bit of the greatest numbers. -/
def greatestExponent : Int := 971

/-- Whether the value is a number and not an infinity. -/
def isFinite : Binary64 → Bool
  | finite .. => true
  | _ => false

/-- Whether the value is a zero of either sign. -/
def isZero : Binary64 → Bool
  | finite _ significand _ => significand == 0
  | _ => false

/-! ## Rounding -/

/-- The whole number nearest to a quotient, the even one of two equally near. -/
def roundQuotient (numerator denominator : Nat) : Nat :=
  let quotient := numerator / denominator
  let remainder := numerator % denominator
  if 2 * remainder < denominator then quotient
  else if denominator < 2 * remainder then quotient + 1
  else quotient + quotient % 2

/-- The quotient divided by a power of two, as a numerator and a denominator. -/
def scaleDown (numerator denominator : Nat) (exponent : Int) : Nat × Nat :=
  (numerator * Nat.pow 2 (-exponent).toNat, denominator * Nat.pow 2 exponent.toNat)

/-- The greatest power of two that is at most a positive quotient. -/
def floorLog2 (numerator denominator : Nat) : Int :=
  let guess := (numerator.log2 : Int) - denominator.log2
  let (above, below) := scaleDown numerator denominator guess
  if below ≤ above then guess else guess - 1

/-- The double nearest to a quotient of the given sign. -/
def ofRatio (negative : Bool) (numerator denominator : Nat) : Binary64 :=
  if numerator = 0 then finite negative 0 leastExponent
  else
    let exponent := max (floorLog2 numerator denominator - (precision - 1)) leastExponent
    let (above, below) := scaleDown numerator denominator exponent
    let rounded := roundQuotient above below
    let (significand, exponent) :=
      if rounded = Nat.pow 2 precision then (Nat.pow 2 (precision - 1), exponent + 1)
      else (rounded, exponent)
    if greatestExponent < exponent then infinite negative
    else finite negative significand exponent

/-- Every number of at least this power of ten is beyond the format. -/
def overflowPower : Int := 310

/-- Every number below this power of ten rounds to zero. -/
def underflowPower : Int := -330

/-- The double nearest to `± digits × 10 ^ exponent`.  Far outside the range of the format the answer
does not need the power of ten. -/
def ofScaled (negative : Bool) (number : Scaled) : Binary64 :=
  let leading := digitCount number.digits + number.exponent
  if number.digits = 0 then finite negative 0 leastExponent
  else if overflowPower < leading then infinite negative
  else if leading < underflowPower then finite negative 0 leastExponent
  else
    ofRatio negative (number.digits * Nat.pow 10 number.exponent.toNat)
      (Nat.pow 10 (-number.exponent).toNat)

/-- The double nearest to an integer. -/
def ofInt (i : Int) : Binary64 :=
  ofRatio (i < 0) i.natAbs 1

/-- Reads a number as text: blanks at the ends, an optional sign, and a numeral or one of the words
for an infinity or a NaN in letters of either case. -/
def ofText? (text : List Char) : Option Binary64 :=
  let (negative, rest) := splitSign (trim text)
  let word := rest.map Char.toLower
  if word = "inf".toList ∨ word = "infinity".toList then some (infinite negative)
  else if word = "nan".toList then some nan
  else (scaled? rest).map (ofScaled negative)

/-! ## The integer part -/

/-- The number without its fraction, unless it is an infinity or a NaN. -/
def truncate? : Binary64 → Option Int
  | finite negative significand exponent =>
      some (signed negative (significand * Nat.pow 2 exponent.toNat / Nat.pow 2 (-exponent).toNat))
  | _ => none

def isWhole : Binary64 → Bool
  | finite _ significand exponent => significand % Nat.pow 2 (-exponent).toNat == 0
  | _ => false

/-- The integer that the number is, if it has no fraction. -/
def toInt? (x : Binary64) : Option Int :=
  if x.isWhole then x.truncate? else none

end Binary64

end SqlTemplate.Number
