/-!
# Tags of placeholders

A placeholder is a question mark with an optional tag of one character, which says how its parameter
is rendered.  A tag without a rule of its own quotes the parameter as text.
-/

namespace SqlTemplate

/-- How a placeholder renders its parameter. -/
inductive Tag where
  /-- No tag: the literal of a scalar. -/
  | plain
  /-- `d`: an integer. -/
  | integer
  /-- `f`: a number with a decimal point. -/
  | float
  /-- `n`: an integer, or `NULL` for an empty value. -/
  | integerOrNull
  /-- `s`: the parameter is a template of its own, expanded in place. -/
  | template
  /-- `a`: a list of values, of assignments or of rows. -/
  | array
  /-- `#`: one identifier or several, with or without tables. -/
  | identifiers
  /-- Any other tag: the parameter quoted as text. -/
  | other (name : String)
deriving DecidableEq, Repr

namespace Tag

def ofName : String → Tag
  | "" => plain
  | "d" => integer
  | "f" => float
  | "n" => integerOrNull
  | "s" => template
  | "a" => array
  | "#" => identifiers
  | name => other name

/-- The name of a tag; it is empty for a placeholder without one. -/
def name : Tag → String
  | plain => ""
  | integer => "d"
  | float => "f"
  | integerOrNull => "n"
  | template => "s"
  | array => "a"
  | identifiers => "#"
  | other name => name

/-- A name is recovered from its tag. -/
theorem name_ofName (text : String) : (ofName text).name = text := by
  unfold ofName
  split <;> rfl

/-- The characters that are taken for a tag after a question mark. -/
def characters : List Char :=
  ['_', 'd', 's', 'a', 'f', 'n', '&', '|', '#']

/-- The tag at the start of the text after a question mark, and the text after the tag. -/
def split : List Char → Tag × List Char
  | c :: rest => if c ∈ characters then (ofName (String.singleton c), rest) else (plain, c :: rest)
  | [] => (plain, [])

theorem length_split_le (text : List Char) : (split text).2.length ≤ text.length := by
  unfold split
  split
  · split <;> simp
  · simp

end Tag

end SqlTemplate
