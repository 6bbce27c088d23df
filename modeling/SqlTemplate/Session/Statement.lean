import SqlTemplate.Session.Connection
import SqlTemplate.Text.Blank

/-!
# Statements of a session

A session expands a template first and executes the statement only then, so a failed expansion never
reaches the connection.  Each statement has a cursor of its own, which is closed before the step ends,
whether the step succeeds or fails.

The fetching steps differ in what they read from the cursor and in the shape that they give to it.
-/

namespace SqlTemplate

open SqlTemplate.Text

/-- A connection together with the expander of its statements. -/
structure Session where
  connection : Connection
  expander : Expander

/-! ## Insertions -/

/-- The letters that count as the given capital letter when case does not matter. -/
def spellings : Char → List Char
  | 'I' => ['I', 'i', 'ı', 'İ']
  | 'S' => ['S', 's', 'ſ']
  | c => [c, c.toLower]

/-- What follows a word at the start of a text, when case does not matter. -/
def afterWord? : List Char → List Char → Option (List Char)
  | [], text => some text
  | _, [] => none
  | letter :: word, c :: text => if c ∈ spellings letter then afterWord? word text else none

/-- Whether a template starts with the word `INSERT`, blanks before it aside, and a blank after
it. -/
def isInsertion (template : List Char) : Bool :=
  match afterWord? "INSERT".toList (template.dropWhile isBlank) with
  | some (c :: _) => isBlank c
  | _ => false

/-! ## Rows -/

/-- A row with one more column; a column of that name is overwritten in its place. -/
def Row.set (row : Row) (name : String) (value : Value) : Row :=
  if (row.column? name).isSome then
    row.map fun entry => if entry.1.text? == some name then (entry.1, value) else entry
  else row ++ [(.text name, value)]

/-- The row with the given columns and cells, as far as there are both. -/
def Row.ofCells (names : List String) (cells : List Value) : Row :=
  (names.zip cells).foldl (fun row (name, cell) => row.set name cell) []

/-- The cell at a place of a row. -/
def cellAt (place : Nat) (cells : List Value) : Exchange Value :=
  match cells[place]? with
  | some cell => return cell
  | none => throw .missingCell

/-- The mapping with the first two cells of one more row. -/
def addPair (pairs : List (Label × Value)) (cells : List Value) :
    Exchange (List (Label × Value)) := do
  let first ← cellAt 0 cells
  let second ← cellAt 1 cells
  match first.key with
  | .ok key => return upsert ⟨first, key⟩ (fun _ => second) pairs
  | .error reason => throw (.rows (.unhashable reason))

/-- The first two cells of each row as a mapping from the one to the other. -/
def pairCells (rows : List (List Value)) : Exchange Value := do
  let pairs ← rows.foldlM addPair []
  return .map (pairs.map fun (label, cell) => (label.value, cell))

namespace Session

/-! ## Transactions -/

/-- Starts a transaction, by the connection's own operation or by a statement. -/
def begin (session : Session) : Exchange Unit := do
  let connection := session.connection
  if connection.hasBegin then Exchange.call connection .begin
  else
    Exchange.call connection .cursor
    Exchange.followedBy (discard (Exchange.execute connection "BEGIN"))
      (Exchange.call connection .close)

/-- Makes the changes of a transaction last. -/
def commit (session : Session) : Exchange Unit :=
  Exchange.call session.connection .commit

/-- Undoes the changes of a transaction. -/
def rollback (session : Session) : Exchange Unit :=
  Exchange.call session.connection .rollback

/-- Runs a step inside a transaction: its changes last if it succeeds and are undone if it fails. -/
def transaction {α : Type} (session : Session) (body : Exchange α) : Exchange α := do
  session.begin
  let result ← Exchange.onFailure body session.rollback
  session.commit
  return result

/-! ## Statements -/

def expand (session : Session) (template : String) (parameters : List Value) :
    Exchange String := do
  let (outcome, records) := session.expander.expandLogged template parameters
  Exchange.log records
  match outcome with
  | .ok expanded => return expanded.sql
  | .error failure => throw (.expansion failure)

/-- Expands a template, executes the statement, and lets a step read the result before the cursor is
closed. -/
def withResult {α : Type} (session : Session) (template : String) (parameters : List Value)
    (read : Result → Exchange α) : Exchange α := do
  let connection := session.connection
  let sql ← session.expand template parameters
  Exchange.log [⟨.debug, "Executing statement (" ++ toString parameters.length ++ " params)"⟩]
  Exchange.call connection .cursor
  let close := Exchange.call connection .close
  let result ← Exchange.onFailure (Exchange.execute connection sql) close
  Exchange.followedBy (read result) close

def fetchAll (session : Session) (result : Result) : Exchange (List (List Value)) := do
  Exchange.call session.connection .fetchAll
  return result.rows

def fetchOne (session : Session) (result : Result) : Exchange (Option (List Value)) := do
  Exchange.call session.connection .fetchOne
  return result.rows.head?

/-- Executes a statement that changes data.  The answer is the identity of the last inserted row for
an insertion, and otherwise the number of changed rows, or zero for a statement with columns. -/
def query (session : Session) (template : String) (parameters : List Value) : Exchange Value :=
  session.withResult template parameters fun result => do
    if isInsertion template.toList then return result.lastRowId
    else if result.columns.isNone then return result.rowCount
    else return .int 0

/-- Fetches all rows with their columns. -/
def selectRows (session : Session) (template : String) (parameters : List Value) :
    Exchange (List Row) :=
  session.withResult template parameters fun result => do
    match result.columns with
    | none => return []
    | some names => return (← session.fetchAll result).map (Row.ofCells names)

/-- Fetches all rows and transforms them, if a transformer is given. -/
def select (session : Session) (template : String) (parameters : List Value)
    (transformer : Option Transformer) : Exchange Value := do
  let rows ← session.selectRows template parameters
  match transformer with
  | none => return .list (rows.map fun row => .map row)
  | some transformer =>
      match transformer.transform rows with
      | .ok value => return value
      | .error failure => throw (.rows failure)

/-- Fetches the first row; without a row the answer has no columns. -/
def selectRow (session : Session) (template : String) (parameters : List Value) : Exchange Value :=
  session.withResult template parameters fun result => do
    match ← session.fetchOne result with
    | none => return .map []
    | some cells =>
        match result.columns with
        | none => throw .rowWithoutColumns
        | some names => return .map (Row.ofCells names cells)

/-- Fetches the first cell of every row. -/
def selectCells (session : Session) (template : String) (parameters : List Value) :
    Exchange (List Value) :=
  session.withResult template parameters fun result => do
    (← session.fetchAll result).mapM (cellAt 0)

/-- Fetches the first two cells of every row, as a mapping. -/
def selectPairs (session : Session) (template : String) (parameters : List Value) :
    Exchange Value :=
  session.withResult template parameters fun result => do
    let rows ← session.fetchAll result
    if (result.columns.getD []).length < 2 then throw .tooFewColumns else pairCells rows

/-- Fetches the first cell of the first row. -/
def selectCell (session : Session) (template : String) (parameters : List Value) :
    Exchange Value := do
  let cells ← session.selectCells template parameters
  return cells.headD .null

end Session

end SqlTemplate
