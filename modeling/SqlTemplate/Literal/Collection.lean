import SqlTemplate.Literal.Refusal

/-!
# Arrays and identifier lists

Both tags look at a container as a sequence of *entries*, a value under a label.  The label is the
key of a mapping if that key is a text; the items of a sequence have none.

An array has one of three shapes.  A sequence whose items are all containers is a list of rows, each
of which gives its cells.  Any other container gives one cell for each entry, an assignment if the
entry has a label; an entry that is a container itself gives its own entries, and the outer label
becomes the table in front of theirs.
-/

namespace SqlTemplate

/-! ## Entries -/

/-- The label of an entry: the key of a mapping, if it is a text. -/
def Value.label? (key : Value) : Option (List Char) :=
  key.text?.map String.toList

/-- The entries of a container. -/
def Value.entries? : Value → Option (List (Option (List Char) × Value))
  | sequence _ items => some (items.map (none, ·))
  | mapping _ entries => some (entries.map fun entry => (entry.1.label?, entry.2))
  | _ => none

/-- The cells of a row: the items of a sequence, the values of a mapping. -/
def Value.cells? : Value → Option (List Value)
  | sequence _ items => some items
  | mapping _ entries => some (entries.map (·.2))
  | _ => none

/-- The rows of a sequence whose items are all containers. -/
def Value.rows? : Value → Option (List (List Value))
  | sequence _ items => items.mapM Value.cells?
  | _ => none

/-! ## Arrays -/

def renderCell (quoter : Quoter) : Value → Except Refusal (List Char)
  | .null => .ok nullLiteral
  | .scalar s => s.literalOrComplain quoter
  | value => .error (.unsuitable .cellNotScalar value.kind)

/-- A cell with the table and the column that it is assigned to. -/
structure Assignment where
  table : Option (List Char)
  column : Option (List Char)
  cell : Value

/-- A table in front of a name. -/
def tablePart (table : Option (List Char)) : List Char :=
  match table with
  | some name => quoteIdentifier name ++ ['.']
  | none => []

/-- Writes an assignment; without a column only the cell is written, whatever the table. -/
def Assignment.render (quoter : Quoter) (a : Assignment) : Except Refusal (List Char) := do
  let cell ← renderCell quoter a.cell
  match a.column with
  | some column => return tablePart a.table ++ quoteIdentifier column ++ '=' :: cell
  | none => return cell

/-- The assignments that one entry of an array stands for. -/
def assignmentsOf (entry : Option (List Char) × Value) : List Assignment :=
  match entry.2.entries? with
  | some inner => inner.map fun (column, cell) => ⟨entry.1, column, cell⟩
  | none => [⟨none, entry.1, entry.2⟩]

/-- The mark between the cells of a row, and between assignments. -/
def cellSeparator : List Char := ", ".toList

/-- The mark between two rows. -/
def rowSeparator : List Char := "), (".toList

/-- What the tag `a` makes of a value. -/
def renderArray (quoter : Quoter) (value : Value) : Except Refusal (List Char) :=
  match value.entries? with
  | none => .error (.unsuitable .notArray value.kind)
  | some [] => .ok nullLiteral
  | some entries =>
      match value.rows? with
      | some rows => do
          let lines ← rows.mapM fun row => do
            let cells ← row.mapM (renderCell quoter)
            return cellSeparator.intercalate cells
          return rowSeparator.intercalate lines
      | none => do
          let parts ← (entries.flatMap assignmentsOf).mapM (Assignment.render quoter)
          return cellSeparator.intercalate parts

/-! ## Identifiers -/

/-- The name that stands for all columns. -/
def wildcard : List Char := ['*']

/-- A name in a list of identifiers, in front of it its table. -/
def renderName (table : Option (List Char)) : Value → Except Refusal (List Char)
  | .scalar (.text name) =>
      let name := name.toList
      .ok (tablePart table ++ if name = wildcard then wildcard else quoteIdentifier name)
  | value => .error (.unsuitable .identifierNotText value.kind)

/-- The names of one entry: the items of a sequence, or the value itself. -/
def namesOf (entry : Option (List Char) × Value) : List (Option (List Char) × Value) :=
  match entry.2 with
  | .sequence _ items => items.map (entry.1, ·)
  | value => [(entry.1, value)]

/-- What the tag `#` makes of a value. -/
def renderIdentifiers : Value → Except Refusal (List Char)
  | .scalar (.text name) => .ok (quoteIdentifier name.toList)
  | value =>
      match value.entries? with
      | none => .error (.unsuitable .notIdentifier value.kind)
      | some entries => do
          let parts ← (entries.flatMap namesOf).mapM fun (table, name) => renderName table name
          return cellSeparator.intercalate parts

end SqlTemplate
