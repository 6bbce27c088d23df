/-!
# Blank characters

A character is blank when Unicode gives it the property `White_Space`, or when it is one of the four
information separators U+001C to U+001F.  These are the characters removed around a number that
arrives as text, and the ones allowed before the first word of a statement.
-/

namespace SqlTemplate.Text

/-- The stretches of code points that are blank, both ends included. -/
def blankStretches : List (Nat × Nat) :=
  [(0x09, 0x0D), (0x1C, 0x20), (0x85, 0x85), (0xA0, 0xA0), (0x1680, 0x1680), (0x2000, 0x200A),
   (0x2028, 0x2029), (0x202F, 0x202F), (0x205F, 0x205F), (0x3000, 0x3000)]

/-- Whether a character separates words. -/
def isBlank (c : Char) : Bool :=
  blankStretches.any fun stretch => stretch.1 ≤ c.toNat && c.toNat ≤ stretch.2

/-- The blanks of ASCII are among them. -/
theorem isBlank_of_isWhitespace {c : Char} (h : c.isWhitespace = true) : isBlank c = true := by
  simp only [Char.isWhitespace, Bool.or_eq_true, decide_eq_true_eq] at h
  rcases h with ((rfl | rfl) | rfl) | rfl <;> decide

/-- The text without the blanks at its two ends. -/
def trim (text : List Char) : List Char :=
  ((text.dropWhile isBlank).reverse.dropWhile isBlank).reverse

/-- A text that neither starts nor ends with a blank is left alone. -/
theorem trim_eq_self {text : List Char} (first : (text.dropWhile isBlank) = text)
    (last : (text.reverse.dropWhile isBlank) = text.reverse) : trim text = text := by
  rw [trim, first, last, List.reverse_reverse]

end SqlTemplate.Text
