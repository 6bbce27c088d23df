import SqlTemplate.Proofs.Template.Passive

/-!
# The turns of a scan

A scan goes through its text in turns.  At each turn it stands at a position, looks at
what begins there, and goes on behind it: a run of characters that mean nothing is copied
at once, and otherwise there is a token (`turnAt?`).  A turn that meets no fault moves the
position forward and does not leave the text (`lt_of_turnAt?`).
-/

namespace SqlTemplate

/-- Whether a character can neither open a region nor start a token. -/
def startsNothing (c : Char) : Bool :=
  decide (c ∉ openingMarks ∧ c ∉ templateMarks)

/-- A character that starts nothing is copied. -/
theorem nextToken?_of_startsNothing {c : Char} (h : startsNothing c) (rest : List Char) :
    nextToken? (c :: rest) = some (.copied [c], rest) := by
  obtain ⟨hopening, hmark⟩ := of_decide_eq_true h
  rw [nextToken?, nextLexeme?_of_not_mem hopening]
  simp only [tokenAt_other rest hmark, ofOpening?_eq_none hopening rest]

/-- What a turn at the start of a text meets, and the text behind it. -/
def turn? (text : List Char) : Option (Token × List Char) :=
  match text.takeWhile startsNothing with
  | [] => nextToken? text
  | run => some (.copied run, text.dropWhile startsNothing)

/-- What a turn at a position of a text meets, and the position behind it. -/
def turnAt? (text : List Char) (position : Nat) : Option (Token × Nat) :=
  (turn? (text.drop position)).map fun (token, _) => (token, position + token.length)

/-! ## Tokens and the characters that they are made of -/

theorem exists_append_of_split (rest : List Char) :
    ∃ inner, inner ++ (Tag.split rest).2 = rest ∧
      inner.length = (Tag.split rest).1.name.length := by
  unfold Tag.split
  split
  · next c more =>
      by_cases htag : c ∈ Tag.characters
      · rw [if_pos htag]
        refine ⟨[c], rfl, ?_⟩
        rw [Tag.name_ofName, String.length_singleton]
        rfl
      · rw [if_neg htag]
        exact ⟨[], rfl, rfl⟩
  · exact ⟨[], rfl, rfl⟩

/-- A token begins with a structural character, and the rest of it is cut off behind. -/
theorem exists_append_of_tokenAt {c : Char} {rest after : List Char} {token : Token}
    (h : tokenAt c rest = (token, after)) (hfault : ∀ problem, token ≠ .fault problem) :
    ∃ inner, inner ++ after = rest ∧ inner.length + 1 = token.length := by
  unfold tokenAt at h
  split at h
  · split at h
    · obtain ⟨rfl, -⟩ := Prod.mk.inj h
      exact absurd rfl (hfault _)
    · next length hclosing =>
        obtain ⟨rfl, rfl⟩ := Prod.mk.inj h
        have hlt := closingBrace?_lt hclosing
        rw [flatMap_text_lexemes] at hlt
        refine ⟨rest.take (length + 1), List.take_append_drop _ _, ?_⟩
        have htake : (rest.take length).length = length :=
          List.length_take_of_le (Nat.le_of_lt hlt)
        rw [List.length_take_of_le hlt]
        split
        · next hempty =>
            rw [List.isEmpty_iff_length_eq_zero, htake] at hempty
            rw [hempty]
            rfl
        · rw [Token.length, htake]
  · obtain ⟨rfl, -⟩ := Prod.mk.inj h
    exact absurd rfl (hfault _)
  · obtain ⟨inner, hinner, hlength⟩ := exists_append_of_split rest
    have hsplit : (Token.placeholder (Tag.split rest).1, (Tag.split rest).2) = (token, after) := h
    obtain ⟨rfl, rfl⟩ := Prod.mk.inj hsplit
    refine ⟨inner, hinner, ?_⟩
    rw [hlength, Token.length, Nat.add_comm]
  · split at h
    · obtain ⟨rfl, -⟩ := Prod.mk.inj h
      exact absurd rfl (hfault _)
    · obtain ⟨rfl, rfl⟩ := Prod.mk.inj h
      exact ⟨[], rfl, rfl⟩

/-- A token is made of the first characters of its text, and there is one at least. -/
theorem exists_append_of_nextToken? {text rest : List Char} {token : Token}
    (h : nextToken? text = some (token, rest)) (hfault : ∀ problem, token ≠ .fault problem) :
    ∃ front, front ≠ [] ∧ front ++ rest = text ∧ front.length = token.length := by
  unfold nextToken? at h
  split at h
  · cases h
  · next region after hnext =>
      obtain ⟨rfl, rfl⟩ := Prod.mk.inj (Option.some.inj h)
      exact ⟨region.text, text_ne_nil_of_nextLexeme? hnext, append_of_nextLexeme? hnext, rfl⟩
  · next c after hnext =>
      have htext : c :: after = text := append_of_nextLexeme? hnext
      obtain ⟨inner, hinner, hlength⟩ := exists_append_of_tokenAt (Option.some.inj h) hfault
      refine ⟨c :: inner, List.cons_ne_nil c inner, ?_, hlength⟩
      rw [List.cons_append, hinner, htext]

theorem exists_append_of_turn? {text rest : List Char} {token : Token}
    (h : turn? text = some (token, rest)) (hfault : ∀ problem, token ≠ .fault problem) :
    ∃ front, front ≠ [] ∧ front ++ rest = text ∧ front.length = token.length := by
  unfold turn? at h
  split at h
  · exact exists_append_of_nextToken? h hfault
  · next run hrun =>
      obtain ⟨rfl, rfl⟩ := Prod.mk.inj (Option.some.inj h)
      exact ⟨_, hrun, List.takeWhile_append_dropWhile, rfl⟩

/-! ## Positions -/

theorem exists_turn?_of_turnAt? {text : List Char} {position next : Nat} {token : Token}
    (h : turnAt? text position = some (token, next)) :
    ∃ rest, turn? (text.drop position) = some (token, rest) ∧ next = position + token.length := by
  obtain ⟨⟨token, rest⟩, hturn, hnext⟩ := Option.map_eq_some_iff.1 h
  obtain ⟨rfl, rfl⟩ := Prod.mk.inj hnext
  exact ⟨rest, hturn, rfl⟩

/-- Behind a turn the scan goes on with the rest of the text. -/
theorem drop_of_turn? {text rest : List Char} {position : Nat} {token : Token}
    (h : turn? (text.drop position) = some (token, rest))
    (hfault : ∀ problem, token ≠ .fault problem) :
    text.drop (position + token.length) = rest := by
  obtain ⟨front, -, htext, hlength⟩ := exists_append_of_turn? h hfault
  calc text.drop (position + token.length)
      = (text.drop position).drop front.length := by rw [List.drop_drop, hlength]
    _ = rest := by rw [← htext, List.drop_left]

/-- **Every turn moves forward**, and none leaves the text. -/
theorem lt_of_turnAt? {text : List Char} {position next : Nat} {token : Token}
    (h : turnAt? text position = some (token, next)) (hfault : ∀ problem, token ≠ .fault problem) :
    position < next ∧ next ≤ text.length := by
  obtain ⟨rest, hturn, rfl⟩ := exists_turn?_of_turnAt? h
  obtain ⟨front, hfront, htext, hlength⟩ := exists_append_of_turn? hturn hfault
  have hpositive := List.length_pos_iff.2 hfront
  have hwhole := congrArg List.length htext
  rw [List.length_append, List.length_drop] at hwhole
  omega

/-- The content of a block stands between two braces. -/
theorem length_content_of_turnAt? {text content : List Char} {position next : Nat}
    (h : turnAt? text position = some (.block content, next)) :
    position + content.length + 2 ≤ text.length := by
  obtain ⟨-, hle⟩ := lt_of_turnAt? h fun _ hfault => nomatch hfault
  obtain ⟨rest, -, rfl⟩ := exists_turn?_of_turnAt? h
  exact hle

end SqlTemplate
