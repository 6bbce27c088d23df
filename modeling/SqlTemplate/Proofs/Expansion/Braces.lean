import SqlTemplate.Proofs.Expansion.Reach
import SqlTemplate.Proofs.Template.Blocks

/-!
# Braces are matched in a block

Where the brace that closes a block has been found, the braces in between are balanced, and
so are those of each alternative.  Whatever is scanned in the block, at any depth of
nesting, therefore never meets a brace without its partner: that happens outside of all
blocks only (`IsBlock.blockMatched`).  A parameter that is a template of its own may be
malformed in any way, so nested templates are left out.

## Strategy

A turn that meets no fault goes over whole lexemes in which the braces are balanced, so what
is left is balanced if the whole was (`goesOver_turn?`).  The content of a block
and its alternatives are balanced again.  So the texts that are left to do are balanced in
everything that a block calls (`bracesMatched_of_calls`), and so they are in everything that
is reached from there (`Reaches.bracesMatched`).
-/

namespace SqlTemplate

/-! ## The lexemes of a turn -/

/-- Whether a problem is a brace without its partner. -/
def Problem.isBrace : Problem → Bool
  | unclosedBlock | strayClosingBrace => true
  | unclosedRegion _ => false

/-- What a token at the start of lexemes goes over, with the text behind it. -/
structure GoesOver (parts : List Lexeme) (token : Token) (rest : List Char) : Prop where
  /-- A token that is no fault goes over whole lexemes, in which the braces are balanced. -/
  front : (∀ problem, token ≠ .fault problem) →
    ∃ front, parts = front ++ lexemes rest ∧ balanced 0 front
  /-- Where the braces are balanced, none of them is a fault. -/
  fault : ∀ problem, token = .fault problem → balanced 0 parts → problem.isBrace = false

namespace GoesOver

variable {parts : List Lexeme} {token : Token} {rest : List Char}

theorem of_front (front : List Lexeme) (hparts : parts = front ++ lexemes rest)
    (hfront : balanced 0 front) (hfault : ∀ problem, token ≠ .fault problem) :
    GoesOver parts token rest where
  front _ := ⟨front, hparts, hfront⟩
  fault problem htoken := absurd htoken (hfault problem)

theorem of_fault {problem : Problem} (h : balanced 0 parts → problem.isBrace = false) :
    GoesOver parts (.fault problem) rest where
  front hfault := absurd rfl (hfault problem)
  fault _ hother := Token.fault.inj hother ▸ h

end GoesOver

/-- The tag of a placeholder is no brace, and opens no region. -/
theorem exists_lexemes_of_split (text : List Char) :
    ∃ front, lexemes text = front ++ lexemes (Tag.split text).2 ∧ balanced 0 front := by
  unfold Tag.split
  split
  · next c more =>
      split
      · next htag =>
          refine ⟨[.char c], lexemes_of_not_mem (not_mem_openingMarks_of_tag htag) more, ?_⟩
          rw [balanced_cons]
          · rfl
          · rintro ⟨⟩
            exact absurd htag (by decide)
          · rintro ⟨⟩
            exact absurd htag (by decide)
      · exact ⟨[], rfl, rfl⟩
  · exact ⟨[], rfl, rfl⟩

theorem goesOver_openingBrace (text : List Char) :
    GoesOver (.char '{' :: lexemes text) (tokenAt '{' text).1 (tokenAt '{' text).2 := by
  cases hdistance : closingBrace? 1 (lexemes text) with
  | none =>
      simp only [tokenAt, hdistance]
      refine .of_fault fun hbalanced => ?_
      rw [balanced, not_balanced_of_closingBrace? 0 0 hdistance] at hbalanced
      cases hbalanced
  | some distance =>
      obtain ⟨hparts, hinside, -⟩ := lexemes_of_closingBrace? hdistance
      rw [tokenAt_openingBrace hdistance]
      refine .of_front _ ?_ (balanced_block hinside) fun problem hfault => ?_
      · rw [hparts, List.cons_append, List.append_assoc]
        rfl
      · split at hfault <;> cases hfault

theorem goesOver_tokenAt (c : Char) (text : List Char) :
    GoesOver (.char c :: lexemes text) (tokenAt c text).1 (tokenAt c text).2 := by
  by_cases hopen : c = '{'
  · subst hopen
    exact goesOver_openingBrace text
  by_cases hclose : c = '}'
  · subst hclose
    refine .of_fault fun hbalanced => ?_
    rw [balanced] at hbalanced
    cases hbalanced
  have hbalanced : ∀ parts, balanced 0 (.char c :: parts) = balanced 0 parts :=
    fun parts => balanced_cons (by simpa using hopen) (by simpa using hclose)
  by_cases hquestion : c = '?'
  · subst hquestion
    obtain ⟨front, hparts, hfront⟩ := exists_lexemes_of_split text
    refine .of_front (.char '?' :: front) ?_ ?_ fun problem hfault => ?_
    · rw [hparts]
      rfl
    · rwa [hbalanced]
    · cases hfault
  · rw [tokenAt_other _ (by simp [hopen, hclose, hquestion])]
    split
    · exact .of_fault fun _ => rfl
    · refine .of_front [.char c] rfl (hbalanced []) fun problem hfault => ?_
      cases hfault

theorem goesOver_nextToken? {text rest : List Char} {token : Token}
    (h : nextToken? text = some (token, rest)) : GoesOver (lexemes text) token rest := by
  unfold nextToken? at h
  split at h
  · cases h
  · next region after hnext =>
      cases h
      exact .of_front [.region region] (lexemes_of_nextLexeme? hnext) rfl nofun
  · next c after hnext =>
      have htoken := goesOver_tokenAt c after
      rwa [Option.some.inj h, ← lexemes_of_nextLexeme? hnext] at htoken

/-- Characters that start nothing are copied one after the other. -/
theorem exists_lexemes_of_run {run : List Char} (h : ∀ c ∈ run, startsNothing c)
    (rest : List Char) :
    ∃ front, lexemes (run ++ rest) = front ++ lexemes rest ∧ balanced 0 front := by
  induction run with
  | nil => exact ⟨[], rfl, rfl⟩
  | cons c run ih =>
      have htoken := nextToken?_of_startsNothing (h c (List.mem_cons_self ..)) (run ++ rest)
      obtain ⟨first, hparts, hfirst⟩ := (goesOver_nextToken? htoken).front nofun
      obtain ⟨front, hrest, hfront⟩ := ih fun d hmem => h d (List.mem_cons_of_mem _ hmem)
      refine ⟨first ++ front, ?_, ?_⟩
      · rw [List.cons_append, hparts, hrest, List.append_assoc]
      · rwa [balanced_zero_append front hfirst]

/-- **A turn goes over whole lexemes**, and opens no block that it does not close. -/
theorem goesOver_turn? {text rest : List Char} {token : Token}
    (h : turn? text = some (token, rest)) : GoesOver (lexemes text) token rest := by
  rcases cases_of_turn? h with htoken | ⟨run, rfl, hrun, rfl⟩
  · exact goesOver_nextToken? htoken
  · obtain ⟨front, hparts, hfront⟩ := exists_lexemes_of_run hrun rest
    exact .of_front front hparts hfront nofun

section

variable {text : List Char} {position next : Nat}

/-- Behind a turn the braces are still balanced. -/
theorem balanced_of_turnAt? {token : Token} (h : turnAt? text position = some (token, next))
    (hfault : ∀ problem, token ≠ .fault problem)
    (hbalanced : balanced 0 (lexemes (text.drop position))) :
    balanced 0 (lexemes (text.drop next)) := by
  obtain ⟨rest, hturn, rfl⟩ := exists_turn?_of_turnAt? h
  obtain ⟨front, hparts, hfront⟩ := (goesOver_turn? hturn).front hfault
  rw [drop_of_turn? hturn hfault]
  rwa [hparts, balanced_zero_append _ hfront] at hbalanced

/-- A scan of a balanced text meets no brace without its partner. -/
theorem isBrace_of_turnAt? {problem : Problem}
    (h : turnAt? text position = some (.fault problem, next))
    (hbalanced : balanced 0 (lexemes (text.drop position))) : problem.isBrace = false := by
  obtain ⟨rest, hturn, -⟩ := exists_turn?_of_turnAt? h
  exact (goesOver_turn? hturn).fault problem rfl hbalanced

end

/-! ## What is left to do in a block -/

/-- Whether the braces of all texts are balanced that an activity has left to do.  A
placeholder has none. -/
def Activity.BracesMatched : Activity → Prop
  | scan text position => balanced 0 (lexemes (text.drop position))
  | dispatch _ => True
  | resolve content => balanced 0 (lexemes content)
  | alternatives _ pieces => ∀ piece ∈ pieces, balanced 0 (lexemes piece)

/-- Neither the mark of a gate nor the blank in its place is a brace. -/
theorem balanced_splitGate (content : List Char) :
    balanced 0 (lexemes (splitGate content).2) = balanced 0 (lexemes content) := by
  unfold splitGate
  split
  · next rest =>
      rw [lexemes_of_not_mem (by decide), lexemes_of_not_mem (by decide),
        balanced_cons (by simp) (by simp), balanced_cons (by simp) (by simp)]
  · rfl

/-- **Calls keep the braces balanced**, those of nested templates aside. -/
theorem bracesMatched_of_calls {quoter : Quoter} {caller callee : Activity × Supply}
    (hcaller : caller.1.isDispatch = false) (hcall : Calls quoter caller callee)
    (h : caller.1.BracesMatched) : callee.1.BracesMatched := by
  cases hcall with
  | copied hturn => exact balanced_of_turnAt? hturn nofun h
  | @token text position supply token next activity hturn hcallee =>
      cases token with
      | copied | fault => cases hcallee
      | placeholder tag =>
          obtain rfl := Option.some.inj hcallee
          trivial
      | block content =>
          obtain rfl := Option.some.inj hcallee
          obtain ⟨close, hblock, rfl, -, -⟩ := turnAt?_eq_block_iff.1 hturn
          obtain ⟨after, -, hcontent, -⟩ := hblock.exists_lexemes
          exact hcontent
  | behind hturn hcallee hrun => exact balanced_of_turnAt? hturn (ne_fault_of_callee? hcallee) h
  | template htake hskip hpresent => cases hcaller
  | @content content supply dropped mid hgate =>
      intro piece hpiece
      have hgated : balanced 0 (lexemes (splitGate content).2) := by
        rw [balanced_splitGate]
        exact h
      exact balanced_of_mem_alternatives hgated hpiece
  | piece => exact h _ (List.mem_cons_self ..)
  | others hrun => exact fun piece hpiece => h piece (List.mem_cons_of_mem _ hpiece)

theorem Reaches.bracesMatched {quoter : Quoter} {first last : Activity × Supply}
    (hreach : Reaches quoter Activity.isDispatch first last) (h : first.1.BracesMatched) :
    last.1.BracesMatched :=
  hreach.invariant h fun _ _ hcaller hcall => bracesMatched_of_calls hcaller hcall

/-- Where all braces are matched, a brace without its partner is in a nested template. -/
theorem foundInTemplate_of_isBrace {quoter : Quoter} {activity : Activity} {supply after : Supply}
    {fault : Fault} (h : activity.BracesMatched)
    (hrun : Runs quoter activity supply (.error (.malformed fault), after))
    (hbrace : fault.problem.isBrace) : FoundInTemplate quoter (activity, supply) fault := by
  rcases found_of_runs hrun with ⟨text, later, next, hreach, hturn⟩ | htemplate
  · have hnever := isBrace_of_turnAt? hturn (hreach.bracesMatched h)
    rw [hnever] at hbrace
    cases hbrace
  · exact htemplate

/-! ## Braces in a block -/

/-- How the braces in a block are matched, and what becomes of its alternatives. -/
structure BlockMatched (text : List Char) (opening close : Nat) : Prop where
  content : balanced 0 (lexemes (between text opening close))
  alternative : ∀ piece ∈ alternatives (between text opening close), balanced 0 (lexemes piece)
  /-- The same without the mark of a gate, as the alternatives are scanned. -/
  gated : ∀ piece ∈ alternatives (splitGate (between text opening close)).2,
    balanced 0 (lexemes piece)
  /-- A scan of the text resolves the block, if there is something in it. -/
  resolved : between text opening close ≠ [] →
    turnAt? text opening = some (.block (between text opening close), close + 1)
  /-- No scan in the block, nested templates aside, meets a brace without its partner. -/
  scanned : ∀ quoter supply piece position later problem next,
    Reaches quoter Activity.isDispatch (.resolve (between text opening close), supply)
      (.scan piece position, later) →
    turnAt? piece position = some (.fault problem, next) → problem.isBrace = false
  /-- If a scan in the block fails because of a brace without its partner, or the whole block
  does, then the brace is in a nested template. -/
  failed : ∀ quoter supply activity later fault after,
    Reaches quoter Activity.isDispatch (.resolve (between text opening close), supply)
      (activity, later) →
    Runs quoter activity later (.error (.malformed fault), after) → fault.problem.isBrace →
    FoundInTemplate quoter (activity, later) fault

/-- **Braces are matched in a block.**  If the brace that closes a block is found, the braces
of its content and of each alternative are balanced, and nothing that is scanned in the block
fails because of a brace, nested templates aside. -/
theorem IsBlock.blockMatched {text : List Char} {opening close : Nat}
    (h : IsBlock text opening close) : BlockMatched text opening close := by
  obtain ⟨after, -, hcontent, -⟩ := h.exists_lexemes
  have hgated : balanced 0 (lexemes (splitGate (between text opening close)).2) := by
    rw [balanced_splitGate]
    exact hcontent
  have hmatched : (Activity.resolve (between text opening close)).BracesMatched := hcontent
  exact {
    content := hcontent
    alternative := fun piece hpiece => balanced_of_mem_alternatives hcontent hpiece
    gated := fun piece hpiece => balanced_of_mem_alternatives hgated hpiece
    resolved := fun hfull => turnAt?_eq_block_iff.2 ⟨close, h, rfl, hfull, rfl⟩
    scanned := fun quoter supply piece position later problem next hreach hturn =>
      isBrace_of_turnAt? hturn (hreach.bracesMatched hmatched)
    failed := fun quoter supply activity later fault after hreach hrun hbrace =>
      foundInTemplate_of_isBrace (hreach.bracesMatched hmatched) hrun hbrace }

/-- A block with a block in it, and with braces and bars in strings.  Its template is no
better than a brace, and only that makes the block fail. -/
theorem blockMatched_template :
    let text := "a \x7b? b \x7b'\x7d' ?s|c\x7d|'|\x7b'\x7d".toList
    let supply := Supply.ofList [.null, .text "\x7d"]
    IsBlock text 2 22 ∧ BlockMatched text 2 22 ∧
      (expandContent .mysql (between text 2 22) supply).1 =
        .error (.malformed ⟨.strayClosingBrace, 0⟩) ∧
      FoundInTemplate .mysql (.resolve (between text 2 22), supply) ⟨.strayClosingBrace, 0⟩ := by
  intro text supply
  have hblock : IsBlock text 2 22 := ⟨by decide +kernel, by decide +kernel⟩
  have hmatched : BlockMatched text 2 22 := hblock.blockMatched
  have hfailed : (expandContent .mysql (between text 2 22) supply).1 =
      .error (.malformed ⟨.strayClosingBrace, 0⟩) := by decide +kernel
  refine ⟨hblock, hmatched, hfailed, ?_⟩
  exact hmatched.failed .mysql supply _ supply _ _ .refl
    (runs_resolve_iff.2 (Prod.ext hfailed rfl)) rfl

end SqlTemplate
