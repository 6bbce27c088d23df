/-!
# Quoters

A quoter writes a text as a string literal of one SQL dialect, the surrounding quotation marks
included.  The quoters below all work character by character; a connection may bring one of its own.

Names of tables and columns are not strings: they stand between backticks in every dialect, and a
backtick inside a name is doubled.
-/

namespace SqlTemplate

/-- A dialect's way to write string literals. -/
structure Quoter where
  /-- The name under which results report the dialect. -/
  dialect : String
  /-- The literal of a text. -/
  quote : List Char → List Char

namespace Quoter

/-- How MySQL writes one character of a string literal. -/
def mysqlChar : Char → List Char
  | '\x00' => ['\\', '0']
  | '\n' => ['\\', 'n']
  | '\r' => ['\\', 'r']
  | '\\' => ['\\', '\\']
  | '\'' => ['\\', '\'']
  | '"' => ['\\', '"']
  | '\x1a' => ['\\', 'Z']
  | c => [c]

/-- Escapes with backslashes, which is what a MySQL or MariaDB server expects by default. -/
def mysql : Quoter where
  dialect := "mysql"
  quote text := '\'' :: text.flatMap mysqlChar ++ ['\'']

/-- Writes the given characters twice and leaves all others alone. -/
def doubling (dialect : String) (doubled : List Char) : Quoter where
  dialect := dialect
  quote text := '\'' :: text.flatMap (fun c => if c ∈ doubled then [c, c] else [c]) ++ ['\'']

/-- SQLite knows no backslash escapes; only the quotation mark itself has to be doubled. -/
def sqlite : Quoter :=
  doubling "sqlite" ['\'']

end Quoter

/-- The mark around the name of a table or a column. -/
def identifierMark : Char := '\x60'

/-- A name as an identifier of a statement. -/
def quoteIdentifier (name : List Char) : List Char :=
  identifierMark ::
    name.flatMap (fun c => if c = identifierMark then [c, c] else [c]) ++ [identifierMark]

end SqlTemplate
