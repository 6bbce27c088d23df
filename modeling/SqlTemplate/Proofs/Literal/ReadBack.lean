import SqlTemplate.Proofs.Literal.Quoting

/-!
# Quoted strings are read back

A server that reads a quoted string gets the string that was quoted, and stops right behind
the literal, whatever text follows: no string can end its literal early, or take in a part
of what follows (`readString_quote`).  All that the text behind must not do is to begin with
a quotation mark, which would make a pair with the last one of the literal.

The reader of the server and the quoter go through the string side by side: what the quoter
writes for one character is read as this character, whatever is behind it
(`closeLiteral_mysqlChar`, `closeLiteral_doubled`).
-/

namespace SqlTemplate

/-! ## Readers of string literals -/

/-- What a backslash and the character behind it stand for, as MySQL reads them. -/
def mysqlUnescape : Char → Char
  | '0' => '\x00'
  | 'n' => '\n'
  | 'r' => '\r'
  | 'Z' => '\x1a'
  | c => c

/-- Reads a string literal up to the quotation mark that ends it, and gives the string and
the text behind the mark.  Two quotation marks stand for one.  In a dialect with escapes a
backslash is read together with the character behind it; in others it is a character like
any other. -/
def closeLiteral (unescape? : Option (Char → Char)) :
    List Char → Option (List Char × List Char)
  | [] => none
  | '\'' :: '\'' :: rest => (closeLiteral unescape? rest).map (prepend '\'')
  | '\'' :: rest => some ([], rest)
  | '\\' :: c :: rest =>
      match unescape? with
      | some unescape => (closeLiteral unescape? rest).map (prepend (unescape c))
      | none => (closeLiteral unescape? (c :: rest)).map (prepend '\\')
  | c :: rest => (closeLiteral unescape? rest).map (prepend c)

/-- The string literal at the start of a text, as a server reads it, and the text behind it. -/
def readString (unescape? : Option (Char → Char)) : List Char → Option (List Char × List Char)
  | '\'' :: rest => closeLiteral unescape? rest
  | _ => none

/-- How MySQL reads a string literal. -/
def readMysqlString : List Char → Option (List Char × List Char) :=
  readString (some mysqlUnescape)

/-- How SQLite reads a string literal, which has no escapes. -/
def readSqliteString : List Char → Option (List Char × List Char) :=
  readString none

/-! ## Reading what a quoter has written -/

section

variable {unescape? : Option (Char → Char)}

/-- A quotation mark with another character behind it ends the literal. -/
theorem closeLiteral_mark {rest : List Char} (h : rest.head? ≠ some '\'') :
    closeLiteral unescape? ('\'' :: rest) = some ([], rest) := by
  rw [closeLiteral]
  rintro more rfl
  exact h rfl

theorem closeLiteral_cons {c : Char} (hmark : c ≠ '\'') (hescape : c ≠ '\\') (rest : List Char) :
    closeLiteral unescape? (c :: rest) = (closeLiteral unescape? rest).map (prepend c) := by
  rw [closeLiteral]
  · exact fun _ hc _ => hmark hc
  · exact hmark
  · exact fun _ _ hc _ => hescape hc

/-- A string is read back if each of its characters is. -/
theorem closeLiteral_flatMap {write : Char → List Char}
    (hwrite : ∀ c behind, closeLiteral unescape? (write c ++ behind) =
      (closeLiteral unescape? behind).map (prepend c))
    (text : List Char) {rest : List Char} (h : rest.head? ≠ some '\'') :
    closeLiteral unescape? (text.flatMap write ++ '\'' :: rest) = some (text, rest) := by
  induction text with
  | nil => exact closeLiteral_mark h
  | cons c more ih =>
      rw [List.flatMap_cons, List.append_assoc, hwrite, ih]
      rfl

end

theorem mysqlUnescape_of_escaped {c letter : Char} (h : Quoter.mysqlChar c = ['\\', letter]) :
    mysqlUnescape letter = c := by
  unfold Quoter.mysqlChar at h
  split at h <;> simp only [List.cons.injEq, reduceCtorEq, and_true, and_false, true_and] at h
  all_goals exact h ▸ rfl

theorem closeLiteral_mysqlChar (c : Char) (behind : List Char) :
    closeLiteral (some mysqlUnescape) (Quoter.mysqlChar c ++ behind) =
      (closeLiteral (some mysqlUnescape) behind).map (prepend c) := by
  rcases mysqlChar_cases c with ⟨letter, hchar⟩ | ⟨hchar, hescape, hmark⟩
  · rw [hchar, ← mysqlUnescape_of_escaped hchar]
    rfl
  · rw [hchar]
    exact closeLiteral_cons hmark hescape behind

/-- A backslash is a character like any other where there are no escapes. -/
theorem closeLiteral_backslash (behind : List Char) :
    closeLiteral none ('\\' :: behind) = (closeLiteral none behind).map (prepend '\\') := by
  cases behind <;> rfl

theorem closeLiteral_doubled (c : Char) (behind : List Char) :
    closeLiteral none ((if c ∈ ['\''] then [c, c] else [c]) ++ behind) =
      (closeLiteral none behind).map (prepend c) := by
  by_cases hmark : c = '\''
  · rw [hmark]
    rfl
  · rw [if_neg (by simpa using hmark)]
    by_cases hescape : c = '\\'
    · rw [hescape]
      exact closeLiteral_backslash behind
    · exact closeLiteral_cons hmark hescape behind

/-- **Quoting loses nothing and ends where it seems to end.**  A quoted string is read back
as the string that was quoted, up to the text behind it. -/
theorem readString_quote (text : List Char) {rest : List Char} (h : rest.head? ≠ some '\'') :
    readMysqlString (Quoter.mysql.quote text ++ rest) = some (text, rest) ∧
      readSqliteString (Quoter.sqlite.quote text ++ rest) = some (text, rest) := by
  have hquote (write : Char → List Char) :
      ('\'' :: text.flatMap write ++ ['\'']) ++ rest =
        '\'' :: (text.flatMap write ++ '\'' :: rest) := by
    simp
  refine ⟨?_, ?_⟩
  · rw [Quoter.mysql, hquote]
    exact closeLiteral_flatMap closeLiteral_mysqlChar text h
  · rw [Quoter.sqlite, Quoter.doubling, hquote]
    exact closeLiteral_flatMap closeLiteral_doubled text h

/-- A string that ends in a backslash and a quotation mark, with a text behind it that would
end a literal. -/
theorem readString_quote_marks :
    let text := "\x00it's\\n \x1a\\'".toList
    let rest := ", 'x') -- ".toList
    rest.head? ≠ some '\'' ∧
      readMysqlString (Quoter.mysql.quote text ++ rest) = some (text, rest) ∧
      readSqliteString (Quoter.sqlite.quote text ++ rest) = some (text, rest) := by
  intro text rest
  have hrest : rest.head? ≠ some '\'' := by decide
  exact ⟨hrest, readString_quote text hrest⟩

end SqlTemplate
