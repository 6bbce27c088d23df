import SqlTemplate.Proofs.Template.Reading
import SqlTemplate.Proofs.Template.Turns

/-!
# The blocks of a text

A block stands between an opening brace and the brace that `blockEnd` finds for it
(`IsBlock`).  Seen as lexemes it consists of its two braces and of lexemes in which all
braces are balanced (`IsBlock.exists_lexemes`).

The blocks with a content are those that a scan resolves, and the scan goes on right behind
the closing brace (`turnAt?_eq_block_iff`).
-/

namespace SqlTemplate

/-- What stands between a place and a later one. -/
def between (text : List Char) (opening close : Nat) : List Char :=
  (text.drop (opening + 1)).take (close - (opening + 1))

/-- A block, told by the places of its braces. -/
structure IsBlock (text : List Char) (opening close : Nat) : Prop where
  opened : text[opening]? = some '{'
  closed : blockEnd text opening = .ok close

/-- The brace that closes a block is the first one behind balanced lexemes, and it parts the
lexemes of the text. -/
theorem lexemes_of_closingBrace? {rest : List Char} {distance : Nat}
    (h : closingBrace? 1 (lexemes rest) = some distance) :
    lexemes rest =
        lexemes (rest.take distance) ++ .char '}' :: lexemes (rest.drop (distance + 1)) ∧
      balanced 0 (lexemes (rest.take distance)) ∧ (rest.take distance).length = distance := by
  obtain ⟨inside, after, hparts, hinside, rfl⟩ := exists_of_closingBrace? 0 h
  have hlexed : Lexed (inside ++ .char '}' :: after) := hparts ▸ lexed_lexemes rest
  have hrest : rest = inside.flatMap Lexeme.text ++ '}' :: after.flatMap Lexeme.text := by
    rw [← flatMap_text_lexemes rest, hparts, List.flatMap_append]
    rfl
  have htake : rest.take (inside.flatMap Lexeme.text).length = inside.flatMap Lexeme.text := by
    rw [hrest, List.take_left]
  have hdrop : rest.drop ((inside.flatMap Lexeme.text).length + 1) =
      after.flatMap Lexeme.text := by
    rw [← List.drop_drop, hrest, List.drop_left]
    rfl
  rw [htake, hdrop, hlexed.of_append, hlexed.of_suffix.tail]
  exact ⟨hparts, hinside, rfl⟩

section

variable {text : List Char} {opening close : Nat}

theorem blockEnd_of_some {rest : List Char} {distance : Nat} (hrest : text.drop opening = '{' :: rest)
    (h : closingBrace? 1 (lexemes rest) = some distance) :
    blockEnd text opening = .ok (opening + (1 + distance)) := by
  rw [blockEnd, hrest, lexemes_of_not_mem (by decide), closingBrace?_open, Int.zero_add, h]
  rfl

theorem blockEnd_of_none {rest : List Char} (hrest : text.drop opening = '{' :: rest)
    (h : closingBrace? 1 (lexemes rest) = none) :
    blockEnd text opening = .error ⟨.unclosedBlock, opening⟩ := by
  rw [blockEnd, hrest, lexemes_of_not_mem (by decide), closingBrace?_open, Int.zero_add, h]
  rfl

theorem isBlock_iff : IsBlock text opening close ↔
    ∃ rest distance, text.drop opening = '{' :: rest ∧
      closingBrace? 1 (lexemes rest) = some distance ∧ close = opening + (1 + distance) := by
  constructor
  · rintro ⟨hopened, hclosed⟩
    rw [← List.head?_drop, List.head?_eq_some_iff] at hopened
    obtain ⟨rest, hrest⟩ := hopened
    cases hdistance : closingBrace? 1 (lexemes rest) with
    | none =>
        rw [blockEnd_of_none hrest hdistance] at hclosed
        cases hclosed
    | some distance =>
        rw [blockEnd_of_some hrest hdistance] at hclosed
        exact ⟨rest, distance, hrest, hdistance, (Except.ok.inj hclosed).symm⟩
  · rintro ⟨rest, distance, hrest, hdistance, rfl⟩
    refine ⟨?_, blockEnd_of_some hrest hdistance⟩
    rw [← List.head?_drop, hrest, List.head?_cons]

theorem between_of_drop {rest : List Char} (distance : Nat)
    (h : text.drop opening = '{' :: rest) :
    between text opening (opening + (1 + distance)) = rest.take distance := by
  rw [between, ← List.drop_drop, h, ← Nat.add_assoc, Nat.add_sub_cancel_left]
  rfl

/-- **A block consists of its braces and of its content**, which is read by itself as it is
read in the text, and in which all braces are balanced. -/
theorem IsBlock.exists_lexemes (h : IsBlock text opening close) :
    ∃ after, lexemes (text.drop opening) =
        .char '{' :: (lexemes (between text opening close) ++ .char '}' :: after) ∧
      balanced 0 (lexemes (between text opening close)) ∧
      close = opening + 1 + (between text opening close).length := by
  obtain ⟨rest, distance, hrest, hdistance, rfl⟩ := isBlock_iff.1 h
  obtain ⟨hparts, hinside, hlength⟩ := lexemes_of_closingBrace? hdistance
  rw [between_of_drop distance hrest, hrest, lexemes_of_not_mem (by decide)]
  exact ⟨_, congrArg _ hparts, hinside, by rw [hlength, Nat.add_assoc]⟩

end

/-! ## The blocks that a scan resolves -/

theorem turn?_openingBrace (rest : List Char) :
    turn? ('{' :: rest) = some (tokenAt '{' rest) := by
  rw [turn?, List.takeWhile_cons_of_neg (by decide), nextToken?,
    nextLexeme?_of_not_mem (by decide)]

theorem tokenAt_openingBrace {rest : List Char} {distance : Nat}
    (h : closingBrace? 1 (lexemes rest) = some distance) :
    tokenAt '{' rest =
      (if rest.take distance = [] then .copied ['{', '}'] else .block (rest.take distance),
        rest.drop (distance + 1)) := by
  simp only [tokenAt, h, List.isEmpty_iff]

/-- Only an opening brace starts a block. -/
theorem exists_of_turn?_eq_block {text content after : List Char}
    (h : turn? text = some (.block content, after)) :
    ∃ rest distance, text = '{' :: rest ∧ closingBrace? 1 (lexemes rest) = some distance ∧
      content = rest.take distance ∧ content ≠ [] := by
  have htoken : nextToken? text = some (.block content, after) := by
    unfold turn? at h
    split at h
    · exact h
    · cases h
  unfold nextToken? at htoken
  split at htoken
  · cases htoken
  · cases htoken
  · next c rest hnext =>
      obtain rfl : c :: rest = text := append_of_nextLexeme? hnext
      have hchar : tokenAt c rest = (.block content, after) := Option.some.inj htoken
      by_cases hbrace : c = '{'
      · subst hbrace
        cases hdistance : closingBrace? 1 (lexemes rest) with
        | none => simp only [tokenAt, hdistance, Prod.mk.injEq, reduceCtorEq, false_and] at hchar
        | some distance =>
            rw [tokenAt_openingBrace hdistance] at hchar
            split at hchar
            · cases hchar
            · next hfull =>
                cases hchar
                exact ⟨rest, distance, rfl, hdistance, rfl, hfull⟩
      · unfold tokenAt at hchar
        split at hchar
        · exact absurd rfl hbrace
        · cases hchar
        · cases hchar
        · split at hchar <;> cases hchar

/-- **A scan resolves the blocks that have a content**, and goes on right behind them. -/
theorem turnAt?_eq_block_iff {text content : List Char} {opening next : Nat} :
    turnAt? text opening = some (.block content, next) ↔
      ∃ close, IsBlock text opening close ∧ content = between text opening close ∧
        content ≠ [] ∧ next = close + 1 := by
  constructor
  · intro hblock
    obtain ⟨after, hturn, rfl⟩ := exists_turn?_of_turnAt? hblock
    obtain ⟨rest, distance, hrest, hdistance, rfl, hfull⟩ := exists_of_turn?_eq_block hturn
    refine ⟨opening + (1 + distance), isBlock_iff.2 ⟨rest, distance, hrest, hdistance, rfl⟩,
      (between_of_drop distance hrest).symm, hfull, ?_⟩
    obtain ⟨-, -, hlength⟩ := lexemes_of_closingBrace? hdistance
    rw [Token.length, hlength]
    omega
  · rintro ⟨close, hblock, rfl, hfull, rfl⟩
    obtain ⟨rest, distance, hrest, hdistance, rfl⟩ := isBlock_iff.1 hblock
    rw [between_of_drop distance hrest] at hfull ⊢
    obtain ⟨-, -, hlength⟩ := lexemes_of_closingBrace? hdistance
    have hnext : opening + (distance + 2) = opening + (1 + distance) + 1 := by omega
    rw [turnAt?, hrest, turn?_openingBrace, tokenAt_openingBrace hdistance, if_neg hfull]
    simp only [Option.map_some, Token.length, hlength, hnext]

end SqlTemplate
