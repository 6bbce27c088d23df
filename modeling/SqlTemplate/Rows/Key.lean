import SqlTemplate.Number.Exact
import SqlTemplate.Value

/-!
# Keys

A value becomes the key of a mapping by what it stands for.  Numbers of all types with one value are
one key, and so are points in time on one instant; tuples are compared item by item.  A NaN, and a
value of which nothing is known, is a key that equals no other.

Values that may still change are no keys, nor is a tuple that holds one.
-/

namespace SqlTemplate

open SqlTemplate.Number

/-- Why a value is no key. -/
inductive Unhashable where
  /-- The value, or an item of a tuple, is of a kind that may change. -/
  | changeable (kind : Kind)
  | signalingNaN
deriving DecidableEq, Repr

/-- The text of the reason. -/
def Unhashable.message : Unhashable → String
  | changeable kind => "unhashable type: '" ++ kind.label ++ "'"
  | signalingNaN => "Cannot hash a signaling NaN value"

/-- What a value stands for as a key. -/
inductive Key where
  | null
  | number (value : Exact)
  | infinity (negative : Bool)
  | text (value : String)
  | bytes (octets : List UInt8)
  | date (value : Date)
  /-- A time of day without an offset. -/
  | time (value : TimeOfDay)
  /-- A time of day with an offset: seconds since midnight of universal time, and microseconds. -/
  | universalTime (seconds : Int) (microseconds : Nat)
  | dateTime (value : DateTime)
  /-- A point in time with an offset: seconds of universal time, and microseconds. -/
  | instant (seconds : Int) (microseconds : Nat)
  | uuid (value : Nat)
  | skip
  | tuple (items : List Key)
  /-- A key that equals nothing, itself included. -/
  | unique
deriving Repr

namespace Key

mutual

/-- Whether two values stand for the same key. -/
def same : Key → Key → Bool
  | null, null => true
  | number a, number b => a = b
  | infinity a, infinity b => a = b
  | text a, text b => a = b
  | bytes a, bytes b => a = b
  | date a, date b => a = b
  | time a, time b => a = b
  | universalTime a m, universalTime b n => a = b && m = n
  | dateTime a, dateTime b => a = b
  | instant a m, instant b n => a = b && m = n
  | uuid a, uuid b => a = b
  | skip, skip => true
  | tuple a, tuple b => sameAll a b
  | _, _ => false

/-- Whether two tuples are the same item by item. -/
def sameAll : List Key → List Key → Bool
  | [], [] => true
  | a :: as, b :: bs => same a b && sameAll as bs
  | _, _ => false

end

end Key

/-- The key of a scalar. -/
def Scalar.key : Scalar → Except Unhashable Key
  | bool b => .ok (.number (.ofInt (if b then 1 else 0)))
  | int i => .ok (.number (.ofInt i))
  | float (.finite negative significand exponent) =>
      .ok (.number (.ofBinary negative significand exponent))
  | float (.infinite negative) => .ok (.infinity negative)
  | float .nan => .ok .unique
  | decimal (.finite negative coefficient exponent) =>
      .ok (.number (.ofDecimal negative coefficient exponent))
  | decimal (.infinite negative) => .ok (.infinity negative)
  | decimal (.nan _ signaling _) => if signaling then .error .signalingNaN else .ok .unique
  | text s => .ok (.text s)
  | date d => .ok (.date d)
  | time t =>
      match t.offset with
      | none => .ok (.time t)
      | some _ => .ok (.universalTime t.sinceMidnight t.microsecond)
  | dateTime t =>
      match t.time.offset with
      | none => .ok (.dateTime t)
      | some _ => .ok (.instant t.instant t.time.microsecond)
  | uuid u => .ok (.uuid u)

mutual

/-- The key of a value.  The items of a tuple are looked at from left to right. -/
def Value.key : Value → Except Unhashable Key
  | .null => .ok .null
  | .scalar s => s.key
  | .sequence .tuple items => do return .tuple (← Value.keys items)
  | .sequence .list _ => .error (.changeable .list)
  | .mapping .map _ => .error (.changeable .map)
  | .mapping .view _ => .error (.changeable .view)
  | .set _ => .error (.changeable .set)
  | .bytes octets => .ok (.bytes octets)
  | .foreign => .ok .unique
  | .skip => .ok .skip

/-- The keys of several values. -/
def Value.keys : List Value → Except Unhashable (List Key)
  | [] => .ok []
  | value :: rest => do
      let key ← Value.key value
      let others ← Value.keys rest
      return key :: others

end

end SqlTemplate
