import SqlTemplate.Template.Fault

/-!
# Blocks and their alternatives

A block runs from an opening brace to the closing brace that balances it, and its content is divided
into alternatives by the bars outside of all inner blocks.  Braces and bars count only where they are
structural, that is outside of literal regions.
-/

namespace SqlTemplate

/-- How a lexeme changes the depth of nesting. -/
def Lexeme.nesting : Lexeme → Int
  | char '{' => 1
  | char '}' => -1
  | _ => 0

/-! ## The end of a block -/

/-- The number of characters before the closing brace that brings the depth to zero, when the depth
in front of the lexemes is the given one. -/
def closingBrace? (depth : Int) : List Lexeme → Option Nat
  | [] => none
  | lexeme :: rest =>
      let inner := depth + lexeme.nesting
      if lexeme = .char '}' ∧ inner = 0 then some 0
      else (closingBrace? inner rest).map (lexeme.text.length + ·)

/-- The place of the closing brace that balances the opening brace at the given place. -/
def blockEnd (text : List Char) (start : Nat) : Except Fault Nat :=
  match closingBrace? 0 (lexemes (text.drop start)) with
  | some distance => .ok (start + distance)
  | none => .error ⟨.unclosedBlock, start⟩

/-- The closing brace stands among the characters of the lexemes. -/
theorem closingBrace?_lt {depth : Int} {distance : Nat} {parts : List Lexeme}
    (h : closingBrace? depth parts = some distance) :
    distance < (parts.flatMap Lexeme.text).length := by
  induction parts generalizing depth distance with
  | nil => simp [closingBrace?] at h
  | cons lexeme rest ih =>
    simp only [closingBrace?] at h
    rw [List.flatMap_cons, List.length_append]
    split at h
    · next closing =>
      simp only [Option.some.injEq] at h
      rw [closing.1, ← h]
      simp only [Lexeme.text, List.length_singleton]
      omega
    · obtain ⟨further, found, rfl⟩ := Option.map_eq_some_iff.1 h
      have := ih found
      omega

/-- The lexemes of a text hold all of its characters. -/
theorem flatMap_text_lexemes (text : List Char) : (lexemes text).flatMap Lexeme.text = text := by
  fun_induction lexemes text with
  | case1 text none =>
    cases text with
    | nil => rfl
    | cons c rest => simp only [nextLexeme?] at none; split at none <;> simp at none
  | case2 text lexeme rest found ih =>
    rw [List.flatMap_cons, ih, append_of_nextLexeme? found]

/-! ## Alternatives -/

/-- Puts a text in front of the first of several pieces. -/
def prependText (text : List Char) : List (List Char) → List (List Char)
  | [] => [text]
  | first :: others => (text ++ first) :: others

/-- The pieces between the bars that stand at depth zero or less, when the depth in front of the
lexemes is the given one. -/
def piecesFrom (depth : Int) : List Lexeme → List (List Char)
  | [] => [[]]
  | lexeme :: rest =>
      if lexeme = .char '|' ∧ depth ≤ 0 then [] :: piecesFrom depth rest
      else prependText lexeme.text (piecesFrom (depth + lexeme.nesting) rest)

/-- The alternatives of a block with the given content; there is always one at least. -/
def alternatives (content : List Char) : List (List Char) :=
  piecesFrom 0 (lexemes content)

/-- No piece is longer than the whole. -/
theorem length_le_of_mem_piecesFrom {depth : Int} {parts : List Lexeme} {piece : List Char}
    (h : piece ∈ piecesFrom depth parts) : piece.length ≤ (parts.flatMap Lexeme.text).length := by
  induction parts generalizing depth piece with
  | nil => simp_all [piecesFrom]
  | cons lexeme rest ih =>
    simp only [piecesFrom] at h
    rw [List.flatMap_cons, List.length_append]
    split at h
    · rcases List.mem_cons.1 h with rfl | h
      · simp
      · have := ih h; omega
    · cases pieces : piecesFrom (depth + lexeme.nesting) rest with
      | nil => simp_all [prependText]
      | cons first others =>
        rw [pieces, prependText] at h
        rcases List.mem_cons.1 h with rfl | h
        · have := ih (pieces ▸ List.mem_cons_self (l := others)); simp only [List.length_append]; omega
        · have := ih (pieces ▸ List.mem_cons_of_mem first h); omega

/-- No alternative is longer than the content. -/
theorem length_le_of_mem_alternatives {content piece : List Char}
    (h : piece ∈ alternatives content) : piece.length ≤ content.length := by
  have := length_le_of_mem_piecesFrom h
  rwa [flatMap_text_lexemes] at this

end SqlTemplate
