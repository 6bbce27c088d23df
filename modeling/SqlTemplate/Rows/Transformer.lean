import SqlTemplate.Rows.Grouping

/-!
# Transformers of fetched rows

A transformer turns a list of rows into a mapping: under the value of one column, or under the values
of several columns, one inside the other.  A row that has no such column, or has a value there that is
no key, makes the whole transformation fail; the first such row decides, and in it the first column.
-/

namespace SqlTemplate

/-- A row: its columns with their values. -/
abbrev Row := List (Value × Value)

/-- Why rows cannot be transformed. -/
inductive RowFailure where
  | missingColumn (name : String)
  | unhashable (reason : Unhashable)
deriving DecidableEq, Repr

/-- The text of the reason. -/
def RowFailure.message : RowFailure → String
  | missingColumn name => "Row has no column '" ++ name ++ "'."
  | unhashable reason => reason.message

namespace Row

/-- The value of a column. -/
def column? (row : Row) (name : String) : Option Value :=
  (row.find? fun entry => entry.1.text? == some name).map (·.2)

/-- The value of a column as a label. -/
def label (row : Row) (name : String) : Except RowFailure Label :=
  match row.column? name with
  | none => .error (.missingColumn name)
  | some value =>
      match value.key with
      | .ok key => .ok ⟨value, key⟩
      | .error reason => .error (.unhashable reason)

end Row

/-- The last row under each value of a column. -/
def indexRows (name : String) (rows : List Row) : Except RowFailure (Grouping Row 1) :=
  rows.foldlM (fun (index : List (Label × Row)) row => do
    let label ← row.label name
    return upsert label (fun _ => row) index) []

/-- Puts a row into the group under its values of the columns, making all groups on the way that are
missing; `change` says what the row does to its group.  A column is not looked at before its level is
reached. -/
def placeRow {α : Type} (change : Row → Option α → α) (row : Row) :
    (names : List String) → Option (Grouping α names.length) →
      Except RowFailure (Grouping α names.length)
  | [], group => return change row group
  | name :: names, groups => do
      let label ← row.label name
      let known : List (Label × Grouping α names.length) := groups.getD []
      let inner ← placeRow change row names (content? label known)
      return upsert label (fun _ => inner) known

/-- Puts rows into groups, one row after the other. -/
def groupRowsWith {α : Type} (change : Row → Option α → α) (first : String) (others : List String)
    (rows : List Row) : Except RowFailure (Grouping α (others.length + 1)) :=
  rows.foldlM (fun groups row => placeRow change row (first :: others) (some groups)) ([] : List _)

/-- All rows under the values of the columns, in the order in which they came. -/
def groupRows (first : String) (others : List String) (rows : List Row) :
    Except RowFailure (Grouping (List Row) (others.length + 1)) :=
  groupRowsWith (fun row group => group.getD [] ++ [row]) first others rows

/-- The last row under the values of the columns. -/
def groupLastRows (first : String) (others : List String) (rows : List Row) :
    Except RowFailure (Grouping Row (others.length + 1)) :=
  groupRowsWith (fun row _ => row) first others rows

/-- A way to turn rows into a mapping. -/
inductive Transformer where
  /-- The last row under each value of one column. -/
  | keyed (name : String)
  /-- All rows, or the last row only, under the values of one column or more. -/
  | grouped (first : String) (others : List String) (lastOnly : Bool)
deriving DecidableEq, Repr

namespace Transformer

/-- The text about a grouping without columns. -/
def noKeysMessage : String := "GroupedTransformer needs at least one key column"

/-- The transformer that groups by the given columns, if there are any. -/
def ofColumns? (names : List String) (lastOnly : Bool) : Option Transformer :=
  match names with
  | [] => none
  | first :: others => some (grouped first others lastOnly)

def transform (transformer : Transformer) (rows : List Row) : Except RowFailure Value :=
  let rowValue (row : Row) : Value := .map row
  match transformer with
  | keyed name => (Grouping.toValue rowValue) <$> indexRows name rows
  | grouped first others false =>
      (Grouping.toValue fun group => .list (group.map rowValue)) <$> groupRows first others rows
  | grouped first others true => (Grouping.toValue rowValue) <$> groupLastRows first others rows

end Transformer

end SqlTemplate
