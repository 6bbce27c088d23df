import SqlTemplate.Calendar
import SqlTemplate.Number.Decimal
import SqlTemplate.Number.Shortest

/-!
# Values

What a parameter, a cell of a row or a column of a result may hold.  A *scalar* is a value that has a
literal of its own in a statement.  Sequences and mappings are the *containers*.  Everything else is
passed through but never rendered.

Mappings keep their entries in the order in which they were made.
-/

namespace SqlTemplate

open SqlTemplate.Number SqlTemplate.Text

/-- A value with a literal of its own. -/
inductive Scalar where
  | bool (value : Bool)
  | int (value : Int)
  | float (value : Binary64)
  | decimal (value : Decimal)
  | text (value : String)
  | date (value : Date)
  | time (value : TimeOfDay)
  | dateTime (value : DateTime)
  /-- A universally unique identifier, as a number of 128 bits. -/
  | uuid (value : Nat)
deriving DecidableEq, Repr

/-- How a sequence may be used by its owner; it renders the same either way. -/
inductive SequenceKind where
  | list
  | tuple
deriving DecidableEq, Repr

/-- Whether a mapping may be changed by its owner; it renders the same either way. -/
inductive MappingKind where
  | map
  | view
deriving DecidableEq, Repr

/-- A parameter, a cell or a column. -/
inductive Value where
  | null
  | scalar (value : Scalar)
  | sequence (kind : SequenceKind) (items : List Value)
  | mapping (kind : MappingKind) (entries : List (Value × Value))
  | bytes (octets : List UInt8)
  | set (members : List Value)
  /-- Some value of which nothing is known. -/
  | foreign
  /-- The mark that drops the block around its placeholder. -/
  | skip
deriving Repr

namespace Value

abbrev int (value : Int) : Value := scalar (.int value)

abbrev text (value : String) : Value := scalar (.text value)

/-- A sequence that may still grow. -/
abbrev list (items : List Value) : Value := sequence .list items

abbrev map (entries : List (Value × Value)) : Value := mapping .map entries

/-- The text that the value is, if it is one. -/
def text? : Value → Option String
  | scalar (.text s) => some s
  | _ => none

/-- Whether the value has a literal of its own. -/
def isScalar : Value → Bool
  | scalar _ => true
  | _ => false

/-- Whether the value is a sequence or a mapping. -/
def isContainer : Value → Bool
  | sequence .. | mapping .. => true
  | _ => false

end Value

/-! ## Kinds -/

/-- What kind of value something is, as error details report it. -/
inductive Kind where
  | null | bool | int | float | decimal | text | date | time | dateTime | uuid
  | list | tuple | map | view | bytes | set | foreign | skip
deriving DecidableEq, Repr

/-- The name under which error details report a kind. -/
def Kind.label : Kind → String
  | null => "NoneType"
  | bool => "bool"
  | int => "int"
  | float => "float"
  | decimal => "Decimal"
  | text => "str"
  | date => "date"
  | time => "time"
  | dateTime => "datetime"
  | uuid => "UUID"
  | list => "list"
  | tuple => "tuple"
  | map => "dict"
  | view => "mappingproxy"
  | bytes => "bytes"
  | set => "set"
  | foreign => "Opaque"
  | skip => "_SkipType"

def Scalar.kind : Scalar → Kind
  | bool _ => .bool
  | int _ => .int
  | float _ => .float
  | decimal _ => .decimal
  | text _ => .text
  | date _ => .date
  | time _ => .time
  | dateTime _ => .dateTime
  | uuid _ => .uuid

def Value.kind : Value → Kind
  | null => .null
  | scalar value => value.kind
  | sequence .list _ => .list
  | sequence .tuple _ => .tuple
  | mapping .map _ => .map
  | mapping .view _ => .view
  | bytes _ => .bytes
  | set _ => .set
  | foreign => .foreign
  | skip => .skip

/-! ## Unique identifiers -/

/-- The five groups of hexadecimal digits of a unique identifier, joined by hyphens. -/
def uuidText (value : Nat) : List Char :=
  let digits := padded 16 32 value
  let group (start length : Nat) := (digits.drop start).take length
  group 0 8 ++ '-' :: group 8 4 ++ '-' :: group 12 4 ++ '-' :: group 16 4 ++ '-' :: group 20 12

end SqlTemplate
