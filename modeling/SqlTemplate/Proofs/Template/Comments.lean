import SqlTemplate.Proofs.Template.Passive

/-!
# Counting comments

Comments are counted from right to left: a part of a text that is put in front of
another text adds to the comments found there (`AddsAtMost`).  A passive part and a
character that opens no region add none, and a comment adds one.

A line comment is the only region that ends with what follows it.  In a template that is
the end of its line or the end of the text (`lineEnd_of_lexed`), so it is never the last
lexeme in front of a bar or a brace (`not_endsInLineComment`).
-/

namespace SqlTemplate

/-! ## Counting comments -/

/-- The number of comments in a text. -/
def comments (text : List Char) : Nat :=
  (lexemes text).countP Lexeme.isComment

/-- The number of comments that the pass finds, if all regions are closed. -/
def commentCount? (text : List Char) : Option Nat :=
  (pass? text).map (List.countP Lexeme.isComment)

theorem comments_of_commentCount? {text : List Char} {count : Nat}
    (h : commentCount? text = some count) : comments text = count := by
  rw [commentCount?, pass?_eq] at h
  split at h
  · exact Option.some.inj h
  · cases h

/-- Comments are among what is found in a text. -/
theorem commentCount?_eq (text : List Char) :
    commentCount? text =
      (activesFrom? .outside text).map (List.countP Lexeme.isComment) := by
  have hactive : ∀ lexeme : Lexeme, (lexeme.isComment && lexeme.isActive) = lexeme.isComment := by
    intro lexeme
    cases lexeme with
    | region r => exact Bool.and_self _
    | char c => rfl
  unfold commentCount? activesFrom? pass?
  rw [Option.map_map]
  congr 1
  funext parts
  rw [Function.comp_apply, List.countP_filter]
  simp only [hactive]

/-- In front of the text behind it a part adds no more than so many comments. -/
def AddsAtMost (bound : Nat) (part behind : List Char) : Prop :=
  ∀ count, commentCount? behind = some count →
    ∃ total, commentCount? (part ++ behind) = some total ∧ total ≤ bound + count

section

variable {behind part : List Char} {bound : Nat}

theorem AddsAtMost.mono {larger : Nat} (h : AddsAtMost bound part behind)
    (hle : bound ≤ larger) : AddsAtMost larger part behind := by
  intro count hcount
  obtain ⟨total, htotal, hbound⟩ := h count hcount
  exact ⟨total, htotal, by omega⟩

theorem AddsAtMost.append {other : List Char} {more : Nat}
    (hpart : AddsAtMost bound part (other ++ behind)) (hother : AddsAtMost more other behind) :
    AddsAtMost (bound + more) (part ++ other) behind := by
  intro count hcount
  obtain ⟨middle, hmiddle, hmore⟩ := hother count hcount
  obtain ⟨total, htotal, hbound⟩ := hpart middle hmiddle
  rw [List.append_assoc]
  exact ⟨total, htotal, by omega⟩

theorem Passive.addsAtMost (h : Passive part) (behind : List Char) :
    AddsAtMost 0 part behind := by
  intro count hcount
  refine ⟨count, ?_, by omega⟩
  rw [commentCount?_eq, h behind, ← commentCount?_eq, hcount]

/-- A character that opens no region adds no comment. -/
theorem addsAtMost_char {c : Char} (h : RegionKind.ofOpening? (c :: behind) = none) :
    AddsAtMost 0 [c] behind := by
  intro count hcount
  refine ⟨count, ?_, by omega⟩
  rw [← hcount]
  unfold commentCount? pass?
  rw [List.singleton_append, passFrom?_outside_cons h, Option.map_map]
  congr 1

theorem addsAtMost_char_of_not_mem {c : Char} (h : c ∉ openingMarks) (behind : List Char) :
    AddsAtMost 0 [c] behind :=
  addsAtMost_char (ofOpening?_eq_none h behind)

/-- A comment that ends where it did adds one. -/
theorem addsAtMost_comment {kind : RegionKind} {body : List Char} (hkind : kind.isComment)
    (h : kind.close? (body ++ behind) = some (body, behind)) :
    AddsAtMost 1 (kind.opening ++ body) behind := by
  intro count hcount
  refine ⟨count + 1, ?_, by omega⟩
  obtain ⟨parts, hparts, hcomments⟩ := Option.map_eq_some_iff.1 hcount
  have hpass : passFrom? .outside behind = some parts := hparts
  unfold commentCount? pass?
  rw [List.append_assoc, passFrom?_opening, h, Option.bind_some, hpass, Option.map_some,
    Option.map_some, List.countP_cons_of_pos (by simpa [Lexeme.isComment] using hkind), hcomments]

end

/-! ## Regions of the template inside of the statement -/

/-- Behind a line comment there is the end of its line, or nothing. -/
theorem lineEnd_of_lexed {text : List Char} {parts : List Lexeme}
    (h : Lexed (.region ⟨.lineComment, text⟩ :: parts)) :
    parts = [] ∨ ∃ c rest, parts = .char c :: rest ∧ endsLine c := by
  cases parts with
  | nil => exact Or.inl rfl
  | cons lexeme rest =>
      obtain ⟨body, after, -, hclosed, -⟩ :=
        regionAt?_eq_some_iff.1 (regionAt?_of_nextLexeme? (Lexed.cons_iff.1 h).1)
      obtain ⟨-, hrest⟩ := Prod.mk.inj (Option.some.inj hclosed)
      have hlineEnd : ∀ {c : Char} {more : List Char},
          (lexeme :: rest).flatMap Lexeme.text = c :: more → endsLine c := by
        intro c more htext
        have hend := List.head_dropWhile_not (!endsLine ·) (l := after) (by simp [hrest, htext])
        simpa [hrest, htext] using hend
      cases lexeme with
      | char c => exact Or.inr ⟨c, rest, rfl, hlineEnd rfl⟩
      | region region =>
          obtain ⟨c, more, htext, hmark⟩ := h.tail.exists_mark
          have hend : endsLine c := hlineEnd (by
            rw [List.flatMap_cons, Lexeme.text, htext, List.cons_append])
          simp only [endsLine, Bool.or_eq_true, beq_iff_eq] at hend
          rcases hend with rfl | rfl <;> simp [openingMarks] at hmark

/-- A region of the template adds one comment if it is one, as long as a line comment
still ends at the end of its line. -/
theorem addsAtMost_region {region : Region} {parts : List Lexeme} {behind : List Char}
    (h : Lexed (.region region :: parts))
    (hbehind : region.kind = .lineComment → behind.takeWhile (!endsLine ·) = []) :
    AddsAtMost ([Lexeme.region region].countP Lexeme.isComment) region.text behind := by
  obtain ⟨kind, text⟩ := region
  obtain ⟨body, after, -, hclosed, htext⟩ :=
    regionAt?_eq_some_iff.1 (regionAt?_of_nextLexeme? (Lexed.cons_iff.1 h).1)
  dsimp only at hclosed htext hbehind ⊢
  rw [htext]
  by_cases hkind : kind.isComment
  · have hone : [Lexeme.region ⟨kind, kind.opening ++ body⟩].countP Lexeme.isComment = 1 := by
      rw [List.countP_cons_of_pos (by simpa [Lexeme.isComment] using hkind)]
      rfl
    rw [hone]
    refine addsAtMost_comment hkind ?_
    cases kind with
    | lineComment =>
        obtain ⟨hbody, -⟩ := Prod.mk.inj (Option.some.inj hclosed)
        have hline : ∀ c ∈ body, (!endsLine c) = true := by
          intro c hmem
          rw [← hbody] at hmem
          exact List.mem_takeWhile_imp (p := (!endsLine ·)) hmem
        have hnone := hbehind rfl
        have hall := List.takeWhile_append_dropWhile (p := (!endsLine ·)) (l := behind)
        rw [hnone, List.nil_append] at hall
        rw [RegionKind.close?, List.takeWhile_append_of_pos hline,
          List.dropWhile_append_of_pos hline, hnone, hall, List.append_nil]
    | blockComment => exact closeComment?_append hclosed behind
    | _ => cases hkind
  · rw [Bool.not_eq_true] at hkind
    have hnone : [Lexeme.region ⟨kind, kind.opening ++ body⟩].countP Lexeme.isComment = 0 := by
      rw [List.countP_cons_of_neg (by simp [Lexeme.isComment, hkind])]
      rfl
    rw [hnone]
    exact (passive_of_close? kind hkind hclosed).addsAtMost behind

/-- Whether the last lexeme is a line comment. -/
def EndsInLineComment (parts : List Lexeme) : Prop :=
  ∃ front text, parts = front ++ [.region ⟨.lineComment, text⟩]

theorem EndsInLineComment.append_left {parts : List Lexeme} (h : EndsInLineComment parts)
    (other : List Lexeme) : EndsInLineComment (other ++ parts) := by
  obtain ⟨front, text, rfl⟩ := h
  exact ⟨other ++ front, text, (List.append_assoc ..).symm⟩

/-- A line comment goes on over a character that ends no line. -/
theorem not_endsInLineComment {parts rest : List Lexeme} {d : Char}
    (h : Lexed (parts ++ .char d :: rest)) (hd : ¬ endsLine d) : ¬ EndsInLineComment parts := by
  rintro ⟨front, text, rfl⟩
  rw [List.append_assoc] at h
  rcases lineEnd_of_lexed h.of_suffix with hnil | ⟨c, more, hcons, hend⟩
  · cases hnil
  · obtain ⟨hc, -⟩ := List.cons.inj hcons
    obtain rfl := Lexeme.char.inj hc
    exact hd hend

end SqlTemplate
