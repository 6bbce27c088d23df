import SqlTemplate.Template.Region

/-!
# Faults of a template

A template that is not well formed has a first place where reading it gets stuck.  The offset of a
fault counts characters from the start of the text that was being read: the template itself, or the
alternative of a block that the fault lies in.
-/

namespace SqlTemplate

/-- What is wrong at a place of a template. -/
inductive Problem where
  /-- A literal region of the given kind is opened and never closed. -/
  | unclosedRegion (kind : RegionKind)
  | unclosedBlock
  | strayClosingBrace
deriving DecidableEq, Repr

/-- A problem and its place. -/
structure Fault where
  problem : Problem
  offset : Nat
deriving DecidableEq, Repr

/-- How a message names a kind of region. -/
def RegionKind.label : RegionKind → String
  | lineComment => "line comment"
  | blockComment => "block comment"
  | doubleQuoted => "double-quoted string"
  | singleQuoted => "string literal"
  | identifier => "backtick identifier"

def Fault.message (fault : Fault) : String :=
  let place := " at offset " ++ toString fault.offset
  match fault.problem with
  | .unclosedRegion kind => "Unterminated " ++ kind.label ++ place ++ "."
  | .unclosedBlock => "Optional block opened" ++ place ++ " is never closed."
  | .strayClosingBrace => "Closing brace without opening brace" ++ place ++ "."

end SqlTemplate
