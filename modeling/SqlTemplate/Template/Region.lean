/-!
# Literal regions

Comments, quoted strings and quoted identifiers are *literal regions* of a statement: whatever they
hold is neither a placeholder nor a brace nor a bar.  This file cuts a text into *lexemes*, each a
whole literal region or a single *structural* character outside of them.

* A line comment runs from `--` to the end of its line, a block comment from `/*` to the next `*/`.
* A string runs from `"` or `'` to the next such mark; a backslash protects the character after it.
* An identifier runs from a backtick to the next backtick that is not doubled.  Where there is none,
  the first half of the last doubled backtick closes it.

An opening mark without its closing mark starts no region and is a structural character like any
other.
-/

namespace SqlTemplate

/-- The ways to write a literal region. -/
inductive RegionKind where
  | lineComment
  | blockComment
  | doubleQuoted
  | singleQuoted
  | identifier
deriving DecidableEq, Repr

/-- A literal region, its opening and closing marks included. -/
structure Region where
  kind : RegionKind
  text : List Char
deriving DecidableEq, Repr

namespace RegionKind

/-- The kind of region that the text would open. -/
def ofOpening? : List Char → Option RegionKind
  | '-' :: '-' :: _ => some lineComment
  | '/' :: '*' :: _ => some blockComment
  | '"' :: _ => some doubleQuoted
  | '\'' :: _ => some singleQuoted
  | '\x60' :: _ => some identifier
  | _ => none

def openingLength : RegionKind → Nat
  | lineComment | blockComment => 2
  | doubleQuoted | singleQuoted | identifier => 1

end RegionKind

/-! ## Where a region ends -/

/-- Puts a character in front of the first part of a split text. -/
def prepend (c : Char) (split : List Char × List Char) : List Char × List Char :=
  (c :: split.1, split.2)

def endsLine (c : Char) : Bool :=
  c == '\r' || c == '\n'

/-- The rest of a block comment, up to and including the mark that closes it, and the text after
it. -/
def closeComment? : List Char → Option (List Char × List Char)
  | [] => none
  | '*' :: '/' :: rest => some (['*', '/'], rest)
  | c :: rest => (closeComment? rest).map (prepend c)

/-- The rest of a string and the text after it. -/
def closeString? (mark : Char) : List Char → Option (List Char × List Char)
  | [] => none
  | ['\\'] => none
  | '\\' :: c :: rest => (closeString? mark rest).map (prepend '\\' ∘ prepend c)
  | c :: rest =>
      if c = mark then some ([c], rest) else (closeString? mark rest).map (prepend c)

/-- The rest of an identifier and the text after it.  A doubled backtick is part of the identifier
if the identifier is closed later on; if it is not, the first of the two closes it. -/
def closeIdentifier? : List Char → Option (List Char × List Char)
  | [] => none
  | '\x60' :: '\x60' :: rest =>
      match closeIdentifier? rest with
      | some split => some (prepend '\x60' (prepend '\x60' split))
      | none => some (['\x60'], '\x60' :: rest)
  | '\x60' :: rest => some (['\x60'], rest)
  | c :: rest => (closeIdentifier? rest).map (prepend c)

/-- The rest of a region of the given kind, after its opening mark, and the text after it. -/
def RegionKind.close? : RegionKind → List Char → Option (List Char × List Char)
  | lineComment, text => some (text.takeWhile (!endsLine ·), text.dropWhile (!endsLine ·))
  | blockComment, text => closeComment? text
  | doubleQuoted, text => closeString? '"' text
  | singleQuoted, text => closeString? '\'' text
  | identifier, text => closeIdentifier? text

/-- The literal region at the start of a text, and the text after it. -/
def regionAt? (text : List Char) : Option (Region × List Char) := do
  let kind ← RegionKind.ofOpening? text
  let (body, rest) ← kind.close? (text.drop kind.openingLength)
  return (⟨kind, text.take kind.openingLength ++ body⟩, rest)

/-! ### Nothing is lost -/

theorem append_of_closeComment? {text body rest : List Char}
    (h : closeComment? text = some (body, rest)) : body ++ rest = text := by
  fun_induction closeComment? text generalizing body rest with
  | case1 => simp at h
  | case2 tail => simp only [Option.some.injEq, Prod.mk.injEq] at h; simp [← h.1, h.2]
  | case3 c tail _ ih =>
    obtain ⟨⟨inner, after⟩, found, same⟩ := Option.map_eq_some_iff.1 h
    simp only [prepend, Prod.mk.injEq] at same
    rw [← same.1, ← same.2, List.cons_append, ih found]

theorem append_of_closeString? {mark : Char} {text body rest : List Char}
    (h : closeString? mark text = some (body, rest)) : body ++ rest = text := by
  fun_induction closeString? mark text generalizing body rest with
  | case1 => simp at h
  | case2 => simp at h
  | case3 c tail ih =>
    obtain ⟨⟨inner, after⟩, found, same⟩ := Option.map_eq_some_iff.1 h
    simp only [Function.comp, prepend, Prod.mk.injEq] at same
    rw [← same.1, ← same.2, List.cons_append, List.cons_append, ih found]
  | case4 tail => simp only [Option.some.injEq, Prod.mk.injEq] at h; simp [← h.1, h.2]
  | case5 c tail _ _ _ ih =>
    obtain ⟨⟨inner, after⟩, found, same⟩ := Option.map_eq_some_iff.1 h
    simp only [prepend, Prod.mk.injEq] at same
    rw [← same.1, ← same.2, List.cons_append, ih found]

theorem append_of_closeIdentifier? {text body rest : List Char}
    (h : closeIdentifier? text = some (body, rest)) : body ++ rest = text := by
  fun_induction closeIdentifier? text generalizing body rest with
  | case1 => simp at h
  | case2 tail split found ih =>
    simp only [prepend, Option.some.injEq, Prod.mk.injEq] at h
    rw [← h.1, ← h.2, List.cons_append, List.cons_append, ih found]
  | case3 tail found ih => simp only [Option.some.injEq, Prod.mk.injEq] at h; simp [← h.1, ← h.2]
  | case4 tail => simp only [Option.some.injEq, Prod.mk.injEq] at h; simp [← h.1, h.2]
  | case5 c tail _ _ ih =>
    obtain ⟨⟨inner, after⟩, found, same⟩ := Option.map_eq_some_iff.1 h
    simp only [prepend, Prod.mk.injEq] at same
    rw [← same.1, ← same.2, List.cons_append, ih found]

theorem append_of_close? {kind : RegionKind} {text body rest : List Char}
    (h : kind.close? text = some (body, rest)) : body ++ rest = text := by
  cases kind with
  | lineComment =>
    simp only [RegionKind.close?, Option.some.injEq, Prod.mk.injEq] at h
    rw [← h.1, ← h.2, List.takeWhile_append_dropWhile]
  | blockComment => exact append_of_closeComment? h
  | doubleQuoted => exact append_of_closeString? h
  | singleQuoted => exact append_of_closeString? h
  | identifier => exact append_of_closeIdentifier? h

/-- A region and the text after it make up the text. -/
theorem append_of_regionAt? {text rest : List Char} {region : Region}
    (h : regionAt? text = some (region, rest)) : region.text ++ rest = text := by
  simp only [regionAt?, Option.bind_eq_bind, Option.pure_def, Option.bind_eq_some_iff] at h
  obtain ⟨kind, -, ⟨body, after⟩, closed, same⟩ := h
  simp only [Option.some.injEq, Prod.mk.injEq] at same
  rw [← same.1, ← same.2, List.append_assoc, append_of_close? closed, List.take_append_drop]

/-- A region is never empty. -/
theorem text_ne_nil_of_regionAt? {text rest : List Char} {region : Region}
    (h : regionAt? text = some (region, rest)) : region.text ≠ [] := by
  simp only [regionAt?, Option.bind_eq_bind, Option.pure_def, Option.bind_eq_some_iff] at h
  obtain ⟨kind, opened, ⟨body, after⟩, -, same⟩ := h
  simp only [Option.some.injEq, Prod.mk.injEq] at same
  rw [← same.1]
  cases text with
  | nil => simp [RegionKind.ofOpening?] at opened
  | cons c tail => cases kind <;> simp [RegionKind.openingLength]

/-! ## Lexemes -/

/-- A literal region, or a character outside of all literal regions. -/
inductive Lexeme where
  | region (region : Region)
  | char (c : Char)
deriving DecidableEq, Repr

def Lexeme.text : Lexeme → List Char
  | region r => r.text
  | char c => [c]

/-- The first lexeme of a text, and the text after it. -/
def nextLexeme? : List Char → Option (Lexeme × List Char)
  | [] => none
  | c :: rest =>
      match regionAt? (c :: rest) with
      | some (region, after) => some (.region region, after)
      | none => some (.char c, rest)

theorem append_of_nextLexeme? {text rest : List Char} {lexeme : Lexeme}
    (h : nextLexeme? text = some (lexeme, rest)) : lexeme.text ++ rest = text := by
  cases text with
  | nil => simp [nextLexeme?] at h
  | cons c tail =>
    simp only [nextLexeme?] at h
    split at h
    · next region after found =>
      simp only [Option.some.injEq, Prod.mk.injEq] at h
      rw [← h.1, ← h.2]
      exact append_of_regionAt? found
    · simp only [Option.some.injEq, Prod.mk.injEq] at h
      rw [← h.1, ← h.2]
      rfl

theorem text_ne_nil_of_nextLexeme? {text rest : List Char} {lexeme : Lexeme}
    (h : nextLexeme? text = some (lexeme, rest)) : lexeme.text ≠ [] := by
  cases text with
  | nil => simp [nextLexeme?] at h
  | cons c tail =>
    simp only [nextLexeme?] at h
    split at h
    · next region after found =>
      simp only [Option.some.injEq, Prod.mk.injEq] at h
      rw [← h.1]
      exact text_ne_nil_of_regionAt? found
    · simp only [Option.some.injEq, Prod.mk.injEq] at h
      rw [← h.1]
      simp [Lexeme.text]

/-- Reading a lexeme always makes the text shorter. -/
theorem length_lt_of_nextLexeme? {text rest : List Char} {lexeme : Lexeme}
    (h : nextLexeme? text = some (lexeme, rest)) : rest.length < text.length := by
  have whole := append_of_nextLexeme? h
  have filled := List.length_pos_iff.2 (text_ne_nil_of_nextLexeme? h)
  rw [← whole, List.length_append]
  omega

/-- The lexemes of a text, from left to right. -/
def lexemes (text : List Char) : List Lexeme :=
  match _found : nextLexeme? text with
  | none => []
  | some (lexeme, rest) => lexeme :: lexemes rest
termination_by text.length
decreasing_by exact length_lt_of_nextLexeme? _found

/-! ## Structural characters -/

/-- The characters of a sequence of lexemes that stand outside of all regions, each with its place,
when the first lexeme stands at the given place. -/
def structuralFrom (offset : Nat) : List Lexeme → List (Nat × Char)
  | [] => []
  | .region r :: rest => structuralFrom (offset + r.text.length) rest
  | .char c :: rest => (offset, c) :: structuralFrom (offset + 1) rest

/-- The characters outside of all literal regions, with their places, of the text from the given
place on. -/
def structural (text : List Char) (start : Nat) : List (Nat × Char) :=
  structuralFrom start (lexemes (text.drop start))

end SqlTemplate
