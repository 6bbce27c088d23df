import SqlTemplate.Proofs.Template.Slice

/-!
# Braces and bars among lexemes

The end of a block and the alternatives of its content are found by counting
braces.  Here both are described by the lexemes alone: `balanced` counts the
braces of a sequence of lexemes, `closingBrace?` finds the first place where the
count comes back (`exists_of_closingBrace?`), and `barPieces` cuts at the bars.

The pieces of a balanced content are balanced again, and none of them has a bar
outside of inner blocks (`isAlternative_of_mem_barPieces`).
-/

namespace SqlTemplate

/-- Whether the braces are balanced, when so many blocks are open in front of the
lexemes: the depth never falls below zero and is zero in the end. -/
def balanced : Nat → List Lexeme → Bool
  | depth, [] => depth == 0
  | depth, .char '{' :: rest => balanced (depth + 1) rest
  | 0, .char '}' :: _ => false
  | depth + 1, .char '}' :: rest => balanced depth rest
  | depth, _ :: rest => balanced depth rest

/-- Whether the braces are balanced and no bar stands outside of all blocks. -/
def isAlternative : Nat → List Lexeme → Bool
  | depth, [] => depth == 0
  | depth, .char '{' :: rest => isAlternative (depth + 1) rest
  | 0, .char '}' :: _ => false
  | depth + 1, .char '}' :: rest => isAlternative depth rest
  | 0, .char '|' :: _ => false
  | depth, _ :: rest => isAlternative depth rest

/-- The sequences of lexemes between the bars at depth zero or less. -/
def barPieces (depth : Int) : List Lexeme → List (List Lexeme)
  | [] => [[]]
  | lexeme :: rest =>
      if lexeme = .char '|' ∧ depth ≤ 0 then [] :: barPieces depth rest
      else (barPieces (depth + lexeme.nesting) rest).modifyHead (lexeme :: ·)

/-! ## Counting braces -/

/-- The last case of `balanced` is about every lexeme but the braces. -/
theorem ne_closing {depth : Nat} {lexeme : Lexeme}
    (hzero : depth = 0 → lexeme = .char '}' → False)
    (hsucc : ∀ outer, depth = outer + 1 → lexeme = .char '}' → False) :
    lexeme ≠ .char '}' := by
  cases depth with
  | zero => exact hzero rfl
  | succ outer => exact hsucc outer rfl

theorem balanced_cons {depth : Nat} {lexeme : Lexeme} {rest : List Lexeme}
    (hopen : lexeme ≠ .char '{') (hclose : lexeme ≠ .char '}') :
    balanced depth (lexeme :: rest) = balanced depth rest := by
  rw [balanced]
  · exact hopen
  · exact fun _ => hclose
  · exact fun _ _ => hclose

theorem isAlternative_cons {depth : Nat} {lexeme : Lexeme} {rest : List Lexeme}
    (hopen : lexeme ≠ .char '{') (hclose : lexeme ≠ .char '}') (hbar : lexeme ≠ .char '|') :
    isAlternative depth (lexeme :: rest) = isAlternative depth rest := by
  rw [isAlternative]
  · exact hopen
  · exact fun _ => hclose
  · exact fun _ _ => hclose
  · exact fun _ => hbar

/-- Inside a block a bar is a lexeme like any other. -/
theorem isAlternative_succ_cons {depth : Nat} {lexeme : Lexeme} {rest : List Lexeme}
    (hopen : lexeme ≠ .char '{') (hclose : lexeme ≠ .char '}') :
    isAlternative (depth + 1) (lexeme :: rest) = isAlternative (depth + 1) rest := by
  rw [isAlternative]
  · exact hopen
  · exact fun _ => hclose
  · exact fun _ _ => hclose
  · exact fun hzero => absurd hzero (Nat.succ_ne_zero depth)

theorem nesting_eq_zero {lexeme : Lexeme} (hopen : lexeme ≠ .char '{')
    (hclose : lexeme ≠ .char '}') : lexeme.nesting = 0 := by
  unfold Lexeme.nesting
  split
  · exact absurd rfl hopen
  · exact absurd rfl hclose
  · rfl

/-- Lexemes that close so many blocks leave the blocks outside of these open. -/
theorem balanced_append {depth : Nat} (outer : Nat) {front : List Lexeme} (back : List Lexeme)
    (h : balanced depth front) :
    balanced (depth + outer) (front ++ back) = balanced outer back := by
  fun_induction balanced depth front with
  | case1 depth =>
      obtain rfl : depth = 0 := by simpa using h
      rw [Nat.zero_add, List.nil_append]
  | case2 depth rest ih =>
      rw [List.cons_append, balanced, show depth + outer + 1 = depth + 1 + outer by omega]
      exact ih h
  | case3 => simp at h
  | case4 depth rest ih =>
      rw [List.cons_append, show depth + 1 + outer = depth + outer + 1 by omega, balanced]
      exact ih h
  | case5 depth lexeme rest hopen hzero hsucc ih =>
      rw [List.cons_append, balanced_cons hopen (ne_closing hzero hsucc)]
      exact ih h

/-- What balances `inside` is no business of the brace that closes it. -/
theorem balanced_append_closing {depth : Nat} (outer : Nat) {inside : List Lexeme}
    (after : List Lexeme) (h : balanced depth inside) :
    balanced (depth + outer + 1) (inside ++ .char '}' :: after) = balanced outer after := by
  rw [Nat.add_assoc, balanced_append (outer + 1) _ h, balanced]

theorem isAlternative_append_closing {depth : Nat} (outer : Nat) {inside : List Lexeme}
    (after : List Lexeme) (h : balanced depth inside) :
    isAlternative (depth + outer + 1) (inside ++ .char '}' :: after) =
      isAlternative outer after := by
  fun_induction balanced depth inside with
  | case1 depth =>
      obtain rfl : depth = 0 := by simpa using h
      simp [isAlternative]
  | case2 depth rest ih =>
      rw [List.cons_append, isAlternative,
        show depth + outer + 1 + 1 = depth + 1 + outer + 1 by omega]
      exact ih h
  | case3 => simp at h
  | case4 depth rest ih =>
      rw [List.cons_append, isAlternative, show depth + 1 + outer = depth + outer + 1 by omega]
      exact ih h
  | case5 depth lexeme rest hopen hzero hsucc ih =>
      rw [List.cons_append, isAlternative_succ_cons hopen (ne_closing hzero hsucc)]
      exact ih h

theorem balanced_of_isAlternative {depth : Nat} {parts : List Lexeme}
    (h : isAlternative depth parts) : balanced depth parts := by
  fun_induction isAlternative depth parts with
  | case1 => simpa [balanced] using h
  | case2 depth rest ih => rw [balanced]; exact ih h
  | case3 => simp at h
  | case4 depth rest ih => rw [balanced]; exact ih h
  | case5 => simp at h
  | case6 depth lexeme rest hopen hzero hsucc hbar ih =>
      rw [balanced_cons hopen (ne_closing hzero hsucc)]
      exact ih h

/-! ## The brace that closes a block -/

theorem closingBrace?_open (depth : Int) (rest : List Lexeme) :
    closingBrace? depth (.char '{' :: rest) =
      (closingBrace? (depth + 1) rest).map ((Lexeme.char '{').text.length + ·) := by
  simp [closingBrace?, Lexeme.nesting]

theorem closingBrace?_close (depth : Int) (rest : List Lexeme) :
    closingBrace? depth (.char '}' :: rest) =
      if depth = 1 then some 0
      else (closingBrace? (depth - 1) rest).map ((Lexeme.char '}').text.length + ·) := by
  simp [closingBrace?, Lexeme.nesting, ← Int.sub_eq_add_neg, Int.sub_eq_zero]

theorem closingBrace?_cons {depth : Int} {lexeme : Lexeme} {rest : List Lexeme}
    (hopen : lexeme ≠ .char '{') (hclose : lexeme ≠ .char '}') :
    closingBrace? depth (lexeme :: rest) =
      (closingBrace? depth rest).map (lexeme.text.length + ·) := by
  simp [closingBrace?, hclose, nesting_eq_zero hopen hclose]

/-- The closing brace of a block follows lexemes that are balanced by
themselves. -/
theorem exists_of_closingBrace? (depth : Nat) {parts : List Lexeme} {distance : Nat}
    (h : closingBrace? (depth + 1) parts = some distance) :
    ∃ inside after, parts = inside ++ .char '}' :: after ∧ balanced depth inside ∧
      distance = (inside.flatMap Lexeme.text).length := by
  fun_induction balanced depth parts generalizing distance with
  | case1 => simp [closingBrace?] at h
  | case2 depth rest ih =>
      rw [closingBrace?_open] at h
      obtain ⟨further, hfurther, rfl⟩ := Option.map_eq_some_iff.1 h
      obtain ⟨inside, after, rfl, hinside, rfl⟩ := ih (by exact_mod_cast hfurther)
      exact ⟨.char '{' :: inside, after, rfl, by rwa [balanced],
        by rw [List.flatMap_cons, List.length_append]⟩
  | case3 rest =>
      rw [closingBrace?_close] at h
      exact ⟨[], rest, rfl, rfl, by simpa using h.symm⟩
  | case4 depth rest ih =>
      rw [closingBrace?_close, if_neg (by omega)] at h
      obtain ⟨further, hfurther, rfl⟩ := Option.map_eq_some_iff.1 h
      obtain ⟨inside, after, rfl, hinside, rfl⟩ := ih (by rwa [Int.add_sub_cancel] at hfurther)
      exact ⟨.char '}' :: inside, after, rfl, by rwa [balanced],
        by rw [List.flatMap_cons, List.length_append]⟩
  | case5 depth lexeme rest hopen hzero hsucc ih =>
      have hclose := ne_closing hzero hsucc
      rw [closingBrace?_cons hopen hclose] at h
      obtain ⟨further, hfurther, rfl⟩ := Option.map_eq_some_iff.1 h
      obtain ⟨inside, after, rfl, hinside, rfl⟩ := ih hfurther
      refine ⟨lexeme :: inside, after, rfl, ?_, by simp⟩
      rwa [balanced_cons hopen hclose]

/-- Behind balanced lexemes, the next brace closes the block. -/
theorem closingBrace?_of_balanced {depth : Nat} {inside : List Lexeme} (after : List Lexeme)
    (h : balanced depth inside) :
    closingBrace? (depth + 1) (inside ++ .char '}' :: after) =
      some (inside.flatMap Lexeme.text).length := by
  fun_induction balanced depth inside with
  | case1 depth =>
      obtain rfl : depth = 0 := by simpa using h
      rfl
  | case2 depth rest ih =>
      have hrest := ih h
      push_cast at hrest
      rw [List.cons_append, closingBrace?_open, hrest, Option.map_some, List.flatMap_cons,
        List.length_append]
  | case3 => cases h
  | case4 depth rest ih =>
      rw [List.cons_append, closingBrace?_close, if_neg (by omega), Int.add_sub_cancel]
      push_cast
      rw [ih h, Option.map_some, List.flatMap_cons, List.length_append]
  | case5 depth lexeme rest hopen hzero hsucc ih =>
      rw [List.cons_append, closingBrace?_cons hopen (ne_closing hzero hsucc), ih h,
        Option.map_some, List.flatMap_cons, List.length_append]

/-- Where no brace closes the block, the braces do not balance. -/
theorem not_balanced_of_closingBrace? (depth outer : Nat) {parts : List Lexeme}
    (h : closingBrace? (depth + 1) parts = none) :
    balanced (depth + outer + 1) parts = false := by
  fun_induction balanced depth parts with
  | case1 => simp [balanced]
  | case2 depth rest ih =>
      rw [closingBrace?_open, Option.map_eq_none_iff] at h
      rw [balanced, show depth + outer + 1 + 1 = depth + 1 + outer + 1 by omega]
      exact ih (by exact_mod_cast h)
  | case3 rest => simp [closingBrace?_close] at h
  | case4 depth rest ih =>
      rw [closingBrace?_close, if_neg (by omega), Option.map_eq_none_iff] at h
      rw [balanced, show depth + 1 + outer = depth + outer + 1 by omega]
      exact ih (by rwa [Int.add_sub_cancel] at h)
  | case5 depth lexeme rest hopen hzero hsucc ih =>
      have hclose := ne_closing hzero hsucc
      rw [closingBrace?_cons hopen hclose, Option.map_eq_none_iff] at h
      rw [balanced_cons hopen hclose]
      exact ih h

/-! ## Pieces between bars -/

theorem barPieces_bar (rest : List Lexeme) :
    barPieces 0 (.char '|' :: rest) = [] :: barPieces 0 rest := by
  simp [barPieces]

theorem barPieces_cons {depth : Int} {lexeme : Lexeme} {rest : List Lexeme}
    (h : ¬ (lexeme = .char '|' ∧ depth ≤ 0)) :
    barPieces depth (lexeme :: rest) =
      (barPieces (depth + lexeme.nesting) rest).modifyHead (lexeme :: ·) := by
  rw [barPieces, if_neg h]

theorem barPieces_ne_nil (depth : Int) (parts : List Lexeme) : barPieces depth parts ≠ [] := by
  induction parts generalizing depth with
  | nil => simp [barPieces]
  | cons lexeme rest ih =>
      unfold barPieces
      split
      · simp
      · simp [ih]

/-- The alternatives of a block are the texts of the pieces. -/
theorem piecesFrom_eq_map (depth : Int) (parts : List Lexeme) :
    piecesFrom depth parts = (barPieces depth parts).map (·.flatMap Lexeme.text) := by
  induction parts generalizing depth with
  | nil => rfl
  | cons lexeme rest ih =>
      unfold piecesFrom barPieces
      split
      · simp [ih]
      · rw [ih]
        obtain ⟨first, others, hpieces⟩ :=
          List.exists_cons_of_ne_nil (barPieces_ne_nil (depth + lexeme.nesting) rest)
        simp [hpieces, prependText]

theorem piecesFrom_ne_nil (depth : Int) (parts : List Lexeme) : piecesFrom depth parts ≠ [] := by
  intro hnil
  rw [piecesFrom_eq_map, List.map_eq_nil_iff] at hnil
  exact barPieces_ne_nil depth parts hnil

/-- Joined by bars, the pieces are what they were cut from. -/
theorem intercalate_barPieces (depth : Int) (parts : List Lexeme) :
    [Lexeme.char '|'].intercalate (barPieces depth parts) = parts := by
  induction parts generalizing depth with
  | nil => simp [barPieces]
  | cons lexeme rest ih =>
      unfold barPieces
      split
      · next hbar =>
          rw [List.intercalate_cons_of_ne_nil (barPieces_ne_nil depth rest), ih, hbar.1]
          rfl
      · obtain ⟨first, others, hpieces⟩ :=
          List.exists_cons_of_ne_nil (barPieces_ne_nil (depth + lexeme.nesting) rest)
        have hjoin := ih (depth + lexeme.nesting)
        rw [hpieces] at hjoin ⊢
        rw [← hjoin, List.modifyHead_cons]
        cases others with
        | nil => rw [List.intercalate_singleton, List.intercalate_singleton]
        | cons second more =>
            rw [List.intercalate_cons_cons, List.intercalate_cons_cons]
            rfl

theorem isInfix_of_mem_intercalate (separator : List Lexeme) {piece : List Lexeme}
    {pieces : List (List Lexeme)} (h : piece ∈ pieces) : piece <:+: separator.intercalate pieces := by
  induction pieces with
  | nil => simp at h
  | cons first others ih =>
      cases others with
      | nil =>
          exact ⟨[], [], by simp [List.mem_singleton.1 h]⟩
      | cons second more =>
          rw [List.intercalate_cons_cons]
          rcases List.mem_cons.1 h with rfl | h
          · exact ⟨[], separator ++ separator.intercalate (second :: more), by simp⟩
          · exact (ih h).trans (List.suffix_append ..).isInfix

/-- A piece stands as a whole in what it was cut from. -/
theorem isInfix_of_mem_barPieces {depth : Int} {parts piece : List Lexeme}
    (h : piece ∈ barPieces depth parts) : piece <:+: parts := by
  have hwithin := isInfix_of_mem_intercalate [.char '|'] h
  rwa [intercalate_barPieces] at hwithin

/-- The first piece of a balanced text closes the blocks that are open in front
of the text; every later piece is balanced by itself. -/
theorem exists_barPieces_of_balanced {depth : Nat} {parts : List Lexeme}
    (h : balanced depth parts) :
    ∃ first others, barPieces depth parts = first :: others ∧ isAlternative depth first ∧
      ∀ piece ∈ others, isAlternative 0 piece := by
  fun_induction balanced depth parts with
  | case1 depth => exact ⟨[], [], rfl, by simpa [isAlternative] using h, by simp⟩
  | case2 depth rest ih =>
      obtain ⟨first, others, hpieces, hfirst, hothers⟩ := ih h
      refine ⟨.char '{' :: first, others, ?_, by rwa [isAlternative], hothers⟩
      rw [barPieces_cons (by simp), show ((depth : Int) + Lexeme.nesting (.char '{')) =
        ((depth + 1 : Nat) : Int) from rfl, hpieces, List.modifyHead_cons]
  | case3 => simp at h
  | case4 depth rest ih =>
      obtain ⟨first, others, hpieces, hfirst, hothers⟩ := ih h
      refine ⟨.char '}' :: first, others, ?_, by rwa [isAlternative], hothers⟩
      rw [barPieces_cons (by simp), show (((depth + 1 : Nat) : Int) + Lexeme.nesting (.char '}')) =
        (depth : Int) from Int.add_sub_cancel depth 1, hpieces, List.modifyHead_cons]
  | case5 depth lexeme rest hopen hzero hsucc ih =>
      have hclose := ne_closing hzero hsucc
      obtain ⟨first, others, hpieces, hfirst, hothers⟩ := ih h
      -- the depth does not fall below zero, so a bar that cuts stands at zero
      by_cases hbar : lexeme = .char '|' ∧ (depth : Int) ≤ 0
      · obtain ⟨rfl, hdepth⟩ := hbar
        obtain rfl : depth = 0 := by omega
        refine ⟨[], first :: others, ?_, rfl, ?_⟩
        · rw [← hpieces]
          exact barPieces_bar rest
        · rintro piece (_ | ⟨_, hpiece⟩)
          · exact hfirst
          · exact hothers piece hpiece
      · refine ⟨lexeme :: first, others, ?_, ?_, hothers⟩
        · rw [barPieces_cons hbar, nesting_eq_zero hopen hclose, Int.add_zero, hpieces,
            List.modifyHead_cons]
        · cases depth with
          | zero =>
              rw [isAlternative_cons hopen hclose fun hchar => hbar ⟨hchar, Int.le_refl 0⟩]
              exact hfirst
          | succ depth =>
              rw [isAlternative_succ_cons hopen hclose]
              exact hfirst

/-- The pieces of a balanced content are balanced and have no bars. -/
theorem isAlternative_of_mem_barPieces {parts piece : List Lexeme} (h : balanced 0 parts)
    (hpiece : piece ∈ barPieces 0 parts) : isAlternative 0 piece := by
  obtain ⟨first, others, hpieces, hfirst, hothers⟩ := exists_barPieces_of_balanced h
  rw [show (0 : Int) = ((0 : Nat) : Int) from rfl, hpieces] at hpiece
  rcases List.mem_cons.1 hpiece with rfl | hpiece
  · exact hfirst
  · exact hothers piece hpiece

/-- An alternative is read by itself as the lexemes of which it was cut. -/
theorem lexemes_mem_barPieces {content piece : List Char}
    (h : piece ∈ alternatives content) :
    lexemes piece ∈ barPieces 0 (lexemes content) := by
  rw [alternatives, piecesFrom_eq_map] at h
  obtain ⟨parts, hparts, rfl⟩ := List.mem_map.1 h
  have hlexed : Lexed parts :=
    (lexed_lexemes content).of_isInfix (isInfix_of_mem_barPieces hparts)
  rwa [show lexemes (parts.flatMap Lexeme.text) = parts from hlexed]

theorem balanced_of_mem_alternatives {content piece : List Char}
    (h : balanced 0 (lexemes content)) (hpiece : piece ∈ alternatives content) :
    balanced 0 (lexemes piece) :=
  balanced_of_isAlternative (isAlternative_of_mem_barPieces h (lexemes_mem_barPieces hpiece))

end SqlTemplate
