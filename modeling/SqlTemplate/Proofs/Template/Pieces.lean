import SqlTemplate.Proofs.Template.Turns

/-!
# Templates put together from pieces

A placeholder without a tag is read as such only if what comes next is no tag.  Apart from
that, placeholders and characters without a meaning are read one by one, and a template that
consists of nothing else is read piece by piece, wherever it stands (`ReadsAs`).
-/

namespace SqlTemplate

/-- A text that a placeholder without a tag may stand in front of. -/
def Untagged (text : List Char) : Prop :=
  ∀ c ∈ text.head?, c ∉ Tag.characters

theorem Untagged.append {front back : List Char} (hfront : Untagged front) (hback : Untagged back) :
    Untagged (front ++ back) := by
  cases front with
  | nil => exact hback
  | cons c rest => exact hfront

/-- A piece of a template that is read as the given nodes, in front of any text that does not
begin with a tag. -/
structure ReadsAs (piece : List Char) (nodes : Template) : Prop where
  untagged : Untagged piece
  readFrom_append : ∀ (offset : Nat) (rest : List Char), Untagged rest →
    Template.readFrom offset (piece ++ rest) =
      nodes ++ Template.readFrom (offset + piece.length) rest

namespace ReadsAs

theorem nil : ReadsAs [] [] := ⟨nofun, fun _ _ _ => rfl⟩

theorem append {front back : List Char} {nodes others : Template} (hfront : ReadsAs front nodes)
    (hback : ReadsAs back others) : ReadsAs (front ++ back) (nodes ++ others) where
  untagged := hfront.untagged.append hback.untagged
  readFrom_append offset rest hrest := by
    rw [List.append_assoc, hfront.readFrom_append offset _ (hback.untagged.append hrest),
      hback.readFrom_append _ rest hrest, List.append_assoc, List.length_append, Nat.add_assoc]

/-- A character that has no meaning and is no tag is copied. -/
theorem singleton {c : Char} (hc : startsNothing c) (htag : c ∉ Tag.characters) :
    ReadsAs [c] [.verbatim [c]] where
  untagged := by
    rintro _ ⟨⟩
    exact htag
  readFrom_append offset rest _ := by
    rw [List.singleton_append, readFrom_copied (nextToken?_of_startsNothing hc rest)]
    rfl

theorem placeholder : ReadsAs ['?'] [.placeholder .plain] where
  untagged := by
    rintro _ ⟨⟩
    decide
  readFrom_append offset rest hrest := by
    have hsplit : Tag.split rest = (.plain, rest) := by
      cases rest with
      | nil => rfl
      | cons c more => rw [Tag.split, if_neg (hrest c rfl)]
    have htoken : nextToken? ('?' :: rest) = some (.placeholder .plain, rest) := by
      rw [nextToken?, nextLexeme?_of_not_mem (by decide)]
      simp only [tokenAt, hsplit]
    rw [List.singleton_append, readFrom_placeholder htoken]
    rfl

theorem tagged {c : Char} (hc : c ∈ Tag.characters) :
    ReadsAs ['?', c] [.placeholder (.ofName (String.singleton c))] where
  untagged := by
    rintro _ ⟨⟩
    decide
  readFrom_append offset rest _ := by
    have htoken : nextToken? ('?' :: c :: rest) =
        some (.placeholder (.ofName (String.singleton c)), rest) := by
      rw [nextToken?, nextLexeme?_of_not_mem (by decide)]
      simp only [tokenAt, Tag.split, if_pos hc]
    rw [List.cons_append, List.singleton_append, readFrom_placeholder htoken, Tag.name_ofName,
      String.length_singleton]
    rfl

/-- Read alone, a piece is a template. -/
theorem read {piece : List Char} {nodes : Template} (h : ReadsAs piece nodes) :
    Template.read piece = nodes := by
  have hend := h.readFrom_append 0 [] nofun
  rwa [List.append_nil, readFrom_nil, List.append_nil] at hend

end ReadsAs

end SqlTemplate
