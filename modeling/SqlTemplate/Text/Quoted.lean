import SqlTemplate.Text.Invisible
import SqlTemplate.Text.Padded

/-!
# Names shown inside a message

A name that a message complains about is shown between quotes, so that blanks at its ends and
characters without a glyph can be seen.  The quote is `'`, and `"` for a name that holds `'` and no
`"`.  The quote in use and the backslash are written after a backslash, the three usual line and tab
controls by their letter, and every other invisible character by the hexadecimal digits of its code
point.
-/

namespace SqlTemplate.Text

/-- How one character of a shown name is written between the given quotes. -/
def shownChar (quote c : Char) : List Char :=
  if c = quote ∨ c = '\\' then ['\\', c]
  else if c = '\t' then ['\\', 't']
  else if c = '\n' then ['\\', 'n']
  else if c = '\r' then ['\\', 'r']
  else if isInvisible c then
    if c.toNat < 0x100 then '\\' :: 'x' :: padded 16 2 c.toNat
    else if c.toNat < 0x10000 then '\\' :: 'u' :: padded 16 4 c.toNat
    else '\\' :: 'U' :: padded 16 8 c.toNat
  else [c]

/-- A name between quotes, with everything in it made visible. -/
def quoted (name : String) : String :=
  let quote := if name.toList.contains '\'' && !name.toList.contains '"' then '"' else '\''
  String.ofList (quote :: name.toList.flatMap (shownChar quote) ++ [quote])

end SqlTemplate.Text
