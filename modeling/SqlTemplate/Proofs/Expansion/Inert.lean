import SqlTemplate.Proofs.Expansion.Depth
import SqlTemplate.Proofs.Literal.Rendered

/-!
# Rendered values are no templates

A value that was written into a statement may be expanded once more, by mistake or
because the statement is part of another template.  Nothing happens to it then: its
text is copied, and neither a parameter nor the skip flag is touched
(`expandText_of_expandTag`).  This rests on the text being passive, so it holds for
every value with the quoter of MySQL, and for values without backslashes with that of
SQLite.
-/

namespace SqlTemplate

section

variable {quoter : Quoter} {expandNested : List Char → Expansion (List Char)}

/-- Lexemes that are all copied give their text. -/
theorem expand_map_verbatim (parts : List Lexeme) (supply : Supply) :
    Template.expand quoter expandNested (parts.map fun lexeme => .verbatim lexeme.text) supply =
      (.ok (parts.flatMap Lexeme.text), supply) := by
  induction parts with
  | nil => rfl
  | cons lexeme rest ih =>
      have hfirst : Node.expand quoter expandNested (.verbatim lexeme.text) supply =
          (.ok lexeme.text, supply) := rfl
      rw [List.map_cons, Template.expand, Expansion.bind_of_ok hfirst, Expansion.bind_of_ok ih,
        List.flatMap_cons]
      rfl

/-- A passive text stands for itself. -/
theorem Passive.expandText {text : List Char} (h : Passive text) (quoter : Quoter)
    (supply : Supply) : expandText quoter text supply = (.ok text, supply) := by
  have hrun : SqlTemplate.expandText quoter text supply =
      expandWithin quoter supply.pending.length text supply := rfl
  rw [hrun, expandWithin_eq, h.read, expand_map_verbatim, flatMap_text_lexemes]

end

/-- What a placeholder wrote was made of the value that was next. -/
theorem present_of_expandTag {quoter : Quoter} {tag : Tag} {value : Value} {text : List Char}
    {supply : Supply} {rest : List Value} (htag : tag ≠ .template) (hskip : value ≠ .skip)
    (hpending : supply.pending = value :: rest)
    (h : (expandTag quoter tag supply).1 = .ok text) :
    present quoter tag value = .ok (.literal text) := by
  have hrun : expandTag quoter tag supply =
      expandPlaceholder quoter (expandWithin quoter supply.pending.length) tag supply := rfl
  rw [hrun, expandPlaceholder_of_ne_skip tag hpending hskip] at h
  cases hpresent : present quoter tag value with
  | error refusal =>
      rw [hpresent] at h
      cases h
  | ok presentation =>
      rw [hpresent] at h
      cases presentation with
      | template inner => exact absurd hpresent (present_ne_template htag value inner)
      | literal written =>
          have hwritten : Except.ok written = Except.ok text := h
          rw [Except.ok.inj hwritten]

/-- **Rendered values are inert.**  What a placeholder writes for a value, expanded as a
template, gives the same text again, whatever parameters are left and whether or not
the skip flag is raised, and leaves both as they are.  The quoter is that of MySQL, or
it is that of SQLite and no string of the value holds a backslash. -/
theorem expandText_of_expandTag {quoter : Quoter} {tag : Tag} {value : Value} {text : List Char}
    {supply : Supply} {rest : List Value}
    (hquoter : quoter = .mysql ∨ (quoter = .sqlite ∧ ∀ s ∈ value.strings, '\\' ∉ s.toList))
    (htag : tag ≠ .template) (hskip : value ≠ .skip) (hpending : supply.pending = value :: rest)
    (hdispatch : (expandTag quoter tag supply).1 = .ok text) (other : Supply) :
    expandText quoter text other = (.ok text, other) := by
  have hcloses : quoter.Closes value.strings := by
    rcases hquoter with rfl | ⟨rfl, hbackslash⟩
    · exact Quoter.closes_mysql _
    · exact Quoter.closes_doubling "sqlite" (List.mem_cons_self ..) hbackslash
  have hpassive : Passive text :=
    present_passive hcloses (present_of_expandTag htag hskip hpending hdispatch)
  exact hpassive.expandText quoter other

/-- Rows with marks of all kinds in a string, for SQLite, while another parameter is
left and the skip flag is raised. -/
theorem expandText_of_expandTag_rows :
    (expandTag .sqlite .array ⟨[.list [.list [.text "it's \x7b?| /* \x60-", .int (-1)],
        .map [(.text "k", .null)]]], 0, false⟩).1 =
      .ok "'it''s \x7b?| /* \x60-', -1), (NULL".toList ∧
    expandText .sqlite "'it''s \x7b?| /* \x60-', -1), (NULL".toList ⟨[.int 7], 3, true⟩ =
      (.ok "'it''s \x7b?| /* \x60-', -1), (NULL".toList, ⟨[.int 7], 3, true⟩) := by
  have hdispatch : (expandTag .sqlite .array
        ⟨[.list [.list [.text "it's \x7b?| /* \x60-", .int (-1)], .map [(.text "k", .null)]]],
          0, false⟩).1 =
      .ok "'it''s \x7b?| /* \x60-', -1), (NULL".toList := by decide +kernel
  have hbackslash : ∀ s ∈ (Value.list [.list [.text "it's \x7b?| /* \x60-", .int (-1)],
      .map [(.text "k", .null)]]).strings, '\\' ∉ s.toList := by decide
  exact ⟨hdispatch,
    expandText_of_expandTag (.inr ⟨rfl, hbackslash⟩) (by decide) (by simp) rfl hdispatch _⟩

end SqlTemplate
