import SqlTemplate.Proofs.Template.Cuts

/-!
# Where alternatives are cut

The content of a block is cut into alternatives, and joined by bars they are the content
again.  An alternative has no bar left at which it could be cut once more, although it is
read from its own first character and its depth begins at zero.  If the braces of the content
balance, the cuts are at the bars outside of all inner blocks, and the braces of every
alternative balance too (`alternatives_divided`).

## Strategy

Every content is cut at the bars at depth zero or less (`cutPoints_alternatives`).  The depth
may be below zero, behind closing braces that close nothing, and then it is lower in the
whole than in an alternative.  A lower depth only means more cuts, so a piece that has no cut
where it stands has none at depth zero either (`barPieces_eq_self_of_le`).  The depth of a
balanced content does not fall below zero (`braceDepth_nonneg_of_balanced`).
-/

namespace SqlTemplate

/-- The places at which pieces were cut apart, when the first piece starts at the given place
and one character is gone at each cut. -/
def cutPoints (offset : Nat) : List (List Char) → List Nat
  | [] | [_] => []
  | piece :: second :: others =>
      (offset + piece.length) :: cutPoints (offset + piece.length + 1) (second :: others)

/-- The number of opening braces in front of a place, less that of the closing ones. -/
def braceDepth (entries : List (Nat × Char)) (place : Nat) : Int :=
  let front := (entries.filter (·.1 < place)).map Prod.snd
  front.count '{' - front.count '}'

/-- The places of the bars of a text that stand outside of literal regions and of blocks. -/
def topLevelBars (text : List Char) : List Nat :=
  ((structural text 0).filter fun entry =>
    entry.2 = '|' ∧ braceDepth (structural text 0) entry.1 = 0).map Prod.fst

/-! ## Cutting once more -/

/-- What has no cut at a depth has none at a greater one. -/
theorem barPieces_eq_self_of_le {depth greater : Int} {parts : List Lexeme}
    (h : barPieces depth parts = [parts]) (hle : depth ≤ greater) :
    barPieces greater parts = [parts] := by
  induction parts generalizing depth greater with
  | nil => rfl
  | cons lexeme rest ih =>
      by_cases hbar : lexeme = .char '|' ∧ depth ≤ 0
      · rw [barPieces, if_pos hbar] at h
        cases (List.cons.inj h).1
      · rw [barPieces_cons hbar] at h
        obtain ⟨first, others, hpieces⟩ :=
          List.exists_cons_of_ne_nil (barPieces_ne_nil (depth + lexeme.nesting) rest)
        rw [hpieces, List.modifyHead_cons] at h
        obtain ⟨hfirst, rfl⟩ := List.cons.inj h
        rw [(List.cons.inj hfirst).2] at hpieces
        rw [barPieces_cons fun hgreater => hbar ⟨hgreater.1, Int.le_trans hle hgreater.2⟩,
          ih hpieces (Int.add_le_add_right hle _), List.modifyHead_cons]

/-- The first piece has no cut at the depth at which it starts, and the others have none at
depth zero. -/
theorem barPieces_of_mem_barPieces {depth : Int} {parts first : List Lexeme}
    {others : List (List Lexeme)} (h : barPieces depth parts = first :: others) :
    barPieces depth first = [first] ∧ ∀ piece ∈ others, barPieces 0 piece = [piece] := by
  induction parts generalizing depth first others with
  | nil =>
      obtain ⟨rfl, rfl⟩ := List.cons.inj h
      exact ⟨rfl, nofun⟩
  | cons lexeme rest ih =>
      by_cases hbar : lexeme = .char '|' ∧ depth ≤ 0
      · rw [barPieces, if_pos hbar] at h
        obtain ⟨rfl, rfl⟩ := List.cons.inj h
        obtain ⟨second, more, hpieces⟩ :=
          List.exists_cons_of_ne_nil (barPieces_ne_nil depth rest)
        obtain ⟨hsecond, hmore⟩ := ih hpieces
        rw [hpieces]
        refine ⟨rfl, fun piece hmem => ?_⟩
        rcases List.mem_cons.1 hmem with rfl | hmem
        · exact barPieces_eq_self_of_le hsecond hbar.2
        · exact hmore piece hmem
      · obtain ⟨inner, more, hpieces⟩ :=
          List.exists_cons_of_ne_nil (barPieces_ne_nil (depth + lexeme.nesting) rest)
        rw [barPieces_cons hbar, hpieces, List.modifyHead_cons] at h
        obtain ⟨rfl, rfl⟩ := List.cons.inj h
        obtain ⟨hinner, hmore⟩ := ih hpieces
        exact ⟨by rw [barPieces_cons hbar, hinner, List.modifyHead_cons], hmore⟩

/-- An alternative is not cut again. -/
theorem alternatives_of_mem_alternatives {content piece : List Char}
    (h : piece ∈ alternatives content) : alternatives piece = [piece] := by
  have hmem := lexemes_mem_barPieces h
  obtain ⟨first, others, hpieces⟩ :=
    List.exists_cons_of_ne_nil (barPieces_ne_nil 0 (lexemes content))
  obtain ⟨hfirst, hothers⟩ := barPieces_of_mem_barPieces hpieces
  rw [hpieces] at hmem
  have hpiece : barPieces 0 (lexemes piece) = [lexemes piece] := by
    rcases List.mem_cons.1 hmem with heq | hother
    · rwa [heq]
    · exact hothers _ hother
  rw [alternatives, piecesFrom_eq_map, hpiece, List.map_singleton, flatMap_text_lexemes]

/-! ## The bars at which a content is cut -/

/-- The places of the bars at depth zero or less, which separate alternatives. -/
def separators (depth : Int) : List (Nat × Char) → List Nat
  | [] => []
  | (place, c) :: rest =>
      if c = '|' ∧ depth ≤ 0 then place :: separators depth rest
      else separators (depth + (Lexeme.char c).nesting) rest

theorem cutPoints_cons {offset : Nat} {piece : List Char} {others : List (List Char)}
    (h : others ≠ []) : cutPoints offset (piece :: others) =
      (offset + piece.length) :: cutPoints (offset + piece.length + 1) others := by
  obtain ⟨second, more, rfl⟩ := List.exists_cons_of_ne_nil h
  rfl

/-- A text in front of the first piece moves all cuts. -/
theorem cutPoints_prependText (offset : Nat) (text : List Char) {pieces : List (List Char)}
    (h : pieces ≠ []) :
    cutPoints offset (prependText text pieces) = cutPoints (offset + text.length) pieces := by
  obtain ⟨first, others, rfl⟩ := List.exists_cons_of_ne_nil h
  cases others with
  | nil => rfl
  | cons second more =>
      rw [prependText, cutPoints, cutPoints, List.length_append, Nat.add_assoc offset text.length]

theorem cutPoints_piecesFrom (offset : Nat) (depth : Int) (parts : List Lexeme) :
    cutPoints offset (piecesFrom depth parts) = separators depth (structuralFrom offset parts) := by
  induction parts generalizing offset depth with
  | nil => rfl
  | cons lexeme rest ih =>
      obtain region | c := lexeme
      · rw [piecesFrom, if_neg (by simp), cutPoints_prependText _ _ (piecesFrom_ne_nil _ _), ih,
          nesting_eq_zero (by simp) (by simp), Int.add_zero]
        rfl
      · rw [piecesFrom, structuralFrom, separators]
        by_cases hbar : c = '|' ∧ depth ≤ 0
        · rw [if_pos hbar, if_pos (by simpa using hbar), cutPoints_cons (piecesFrom_ne_nil _ _),
            List.length_nil, Nat.add_zero, ih]
        · rw [if_neg hbar, if_neg (by simpa using hbar),
            cutPoints_prependText _ _ (piecesFrom_ne_nil _ _), ih]
          rfl

/-! ### The depth at a place -/

theorem braceDepth_eq_zero {entries : List (Nat × Char)} {place : Nat}
    (h : ∀ entry ∈ entries, place ≤ entry.1) : braceDepth entries place = 0 := by
  have hnone : entries.filter (·.1 < place) = [] :=
    List.filter_eq_nil_iff.2 fun entry hmem => by simpa using h entry hmem
  rw [braceDepth, hnone]
  rfl

theorem braceDepth_cons {entry : Nat × Char} {place : Nat} (rest : List (Nat × Char))
    (h : entry.1 < place) :
    braceDepth (entry :: rest) place = (Lexeme.char entry.2).nesting + braceDepth rest place := by
  have hfront : (entry :: rest).filter (·.1 < place) = entry :: rest.filter (·.1 < place) :=
    List.filter_cons_of_pos (decide_eq_true h)
  simp only [braceDepth, hfront, List.map_cons, List.count_cons, beq_iff_eq]
  by_cases hopen : entry.2 = '{'
  · rw [hopen, if_pos rfl, if_neg (by decide), Lexeme.nesting]
    omega
  · by_cases hclose : entry.2 = '}'
    · rw [hclose, if_neg (by decide), if_pos rfl, Lexeme.nesting]
      omega
    · rw [if_neg hopen, if_neg hclose,
        nesting_eq_zero (by simpa using hopen) (by simpa using hclose)]
      omega

/-- A separator is a bar, and the depth at its place is zero or less. -/
theorem separators_eq_filter (depth : Int) {entries : List (Nat × Char)}
    (h : entries.Pairwise (·.1 < ·.1)) :
    separators depth entries = (entries.filter fun entry =>
      entry.2 = '|' ∧ depth + braceDepth entries entry.1 ≤ 0).map Prod.fst := by
  induction entries generalizing depth with
  | nil => rfl
  | cons entry rest ih =>
      obtain ⟨place, c⟩ := entry
      obtain ⟨hplace, hrest⟩ := List.pairwise_cons.1 h
      have hhere : braceDepth ((place, c) :: rest) place = 0 := by
        refine braceDepth_eq_zero fun entry hmem => ?_
        rcases List.mem_cons.1 hmem with rfl | hmem
        · exact Nat.le_refl _
        · exact Nat.le_of_lt (hplace entry hmem)
      have hbehind : (rest.filter fun entry =>
            entry.2 = '|' ∧ depth + braceDepth ((place, c) :: rest) entry.1 ≤ 0) =
          rest.filter fun entry => entry.2 = '|' ∧
            depth + (Lexeme.char c).nesting + braceDepth rest entry.1 ≤ 0 := by
        refine List.filter_congr fun entry hmem => ?_
        rw [braceDepth_cons rest (hplace entry hmem), Int.add_assoc]
      rw [separators, List.filter_cons, hbehind]
      by_cases hbar : c = '|' ∧ depth ≤ 0
      · rw [if_pos hbar, if_pos (by simpa [hhere] using hbar), List.map_cons, ← ih _ hrest,
          hbar.1, nesting_eq_zero (by simp) (by simp), Int.add_zero]
      · rw [if_neg hbar, if_neg (by simpa [hhere] using hbar), ← ih _ hrest]

/-- Every content is cut at the bars that stand at depth zero or less. -/
theorem cutPoints_alternatives (content : List Char) :
    cutPoints 0 (alternatives content) = ((structural content 0).filter fun entry =>
      entry.2 = '|' ∧ braceDepth (structural content 0) entry.1 ≤ 0).map Prod.fst := by
  rw [alternatives, cutPoints_piecesFrom, separators_eq_filter 0 (pairwise_structuralFrom _ _)]
  simp only [Int.zero_add]
  rfl

/-- The depth of balanced braces does not fall below zero. -/
theorem braceDepth_nonneg_of_balanced {depth : Nat} (offset place : Nat) {parts : List Lexeme}
    (h : balanced depth parts) : 0 ≤ depth + braceDepth (structuralFrom offset parts) place := by
  -- a lexeme at or behind the place is not counted, nor are those behind it
  have hstop {depth : Nat} {offset : Nat} (parts : List Lexeme) (hle : place ≤ offset) :
      0 ≤ depth + braceDepth (structuralFrom offset parts) place := by
    rw [braceDepth_eq_zero fun _ hmem => Nat.le_trans hle (le_of_mem_structuralFrom hmem)]
    omega
  fun_induction balanced depth parts generalizing offset with
  | case1 depth => exact Int.add_nonneg (Int.natCast_nonneg depth) (Int.le_refl 0)
  | case2 depth rest ih =>
      rcases Nat.lt_or_ge offset place with hlt | hge
      · have hrest := ih (offset + 1) h
        rw [structuralFrom, braceDepth_cons _ hlt, Lexeme.nesting]
        omega
      · exact hstop _ hge
  | case3 => cases h
  | case4 depth rest ih =>
      rcases Nat.lt_or_ge offset place with hlt | hge
      · have hrest := ih (offset + 1) h
        rw [structuralFrom, braceDepth_cons _ hlt, Lexeme.nesting]
        omega
      · exact hstop _ hge
  | case5 depth lexeme rest hopen hzero hsucc ih =>
      obtain region | c := lexeme
      · exact ih _ h
      · rcases Nat.lt_or_ge offset place with hlt | hge
        · have hrest := ih (offset + 1) h
          rw [structuralFrom, braceDepth_cons _ hlt,
            nesting_eq_zero hopen (ne_closing hzero hsucc), Int.zero_add]
          exact hrest
        · exact hstop _ hge

/-- A content with balanced braces is cut at the bars outside of all inner blocks. -/
theorem cutPoints_of_balanced {content : List Char} (h : balanced 0 (lexemes content)) :
    cutPoints 0 (alternatives content) = topLevelBars content := by
  have hdepth (place : Nat) : 0 ≤ braceDepth (structural content 0) place := by
    have hnonneg := braceDepth_nonneg_of_balanced 0 place h
    rwa [Int.ofNat_zero, Int.zero_add] at hnonneg
  rw [cutPoints_alternatives, topLevelBars]
  refine congrArg (List.map Prod.fst) (List.filter_congr fun entry _ => ?_)
  exact decide_eq_decide.2
    (and_congr_right fun _ => ⟨fun hle => Int.le_antisymm hle (hdepth _), Int.le_of_eq⟩)

/-- **Nothing is lost when a content is cut into alternatives**, and it is cut only at bars
outside of all inner blocks.  Joined by bars, the alternatives are the content, and no
alternative is cut again.  Where the braces balance, the cuts are exactly the bars at depth
zero, and the braces of every alternative balance. -/
theorem alternatives_divided (content : List Char) :
    ['|'].intercalate (alternatives content) = content ∧ alternatives content ≠ [] ∧
      (∀ piece ∈ alternatives content, alternatives piece = [piece]) ∧
      (balanced 0 (lexemes content) →
        cutPoints 0 (alternatives content) = topLevelBars content ∧
          ∀ piece ∈ alternatives content, balanced 0 (lexemes piece)) :=
  ⟨intercalate_alternatives content, piecesFrom_ne_nil 0 _,
    fun _ hpiece => alternatives_of_mem_alternatives hpiece,
    fun hbalanced => ⟨cutPoints_of_balanced hbalanced,
      fun _ hpiece => balanced_of_mem_alternatives hbalanced hpiece⟩⟩

/-- A content with bars at depth zero, in a block, in a string and behind a quote that opens
nothing. -/
theorem alternatives_divided_quotes :
    let content := "a|\x7bb|c\x7d '|' | it's|".toList
    balanced 0 (lexemes content) ∧
      cutPoints 0 (alternatives content) = topLevelBars content ∧
      topLevelBars content = [1, 12, 18] ∧
      ∀ piece ∈ alternatives content, balanced 0 (lexemes piece) := by
  intro content
  have hbalanced : balanced 0 (lexemes content) := by decide +kernel
  obtain ⟨hcuts, hpieces⟩ := (alternatives_divided content).2.2.2 hbalanced
  exact ⟨hbalanced, hcuts, by decide +kernel, hpieces⟩

end SqlTemplate
