import SqlTemplate.Number.Decimal

/-!
# Exact comparison of numbers

Integers, doubles and decimal numbers are compared by value and not by representation.  Each of them
is a whole number times a power of two times a power of five; with all twos and fives taken out of
the whole number that form is unique, so that two numbers are equal exactly when their forms are.
No power is ever computed, however great the exponents.
-/

namespace SqlTemplate.Number

/-- The number `± rest × 2 ^ twos × 5 ^ fives`, where `rest` is a multiple of neither two nor five;
zero has no twos and no fives and is not negative. -/
structure Exact where
  negative : Bool
  rest : Nat
  twos : Int
  fives : Int
deriving DecidableEq, Repr

/-- How often a factor divides a positive number, and what is left without it. -/
def stripFactor (factor n : Nat) : Nat × Nat :=
  if _divides : 2 ≤ factor ∧ 0 < n ∧ n % factor = 0 then
    let (count, rest) := stripFactor factor (n / factor)
    (count + 1, rest)
  else (0, n)
termination_by n
decreasing_by exact Nat.div_lt_self (by omega) (by omega)

namespace Exact

/-- The form of `± n × 2 ^ twos × 5 ^ fives`. -/
def ofFactors (negative : Bool) (n : Nat) (twos fives : Int) : Exact :=
  if n = 0 then ⟨false, 0, 0, 0⟩
  else
    let (more, odd) := stripFactor 2 n
    let (other, rest) := stripFactor 5 odd
    ⟨negative, rest, twos + more, fives + other⟩

def ofInt (i : Int) : Exact :=
  ofFactors (i < 0) i.natAbs 0 0

def ofBinary (negative : Bool) (significand : Nat) (exponent : Int) : Exact :=
  ofFactors negative significand exponent 0

def ofDecimal (negative : Bool) (coefficient : Nat) (exponent : Int) : Exact :=
  ofFactors negative coefficient exponent exponent

end Exact

end SqlTemplate.Number
