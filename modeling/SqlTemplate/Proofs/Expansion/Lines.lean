import SqlTemplate.Proofs.Expansion.Inlining
import SqlTemplate.Proofs.Expansion.Termination
import SqlTemplate.Proofs.Template.Joining

/-!
# Expanding line by line

A template that expands may be followed by further lines without being read again: the lines
behind it are expanded as a template of their own, with the parameters and the skip flag that
the first template has left (`expandText_append_newline`).  Whatever the lines hold, nothing
in them reaches back over the end of the line, be it a quote, a brace or a tag.

If the lines behind fail, the whole fails in the same way.  Only the offset of a fault may be
another one, as it is counted from the start of the whole (`Failure.Moved`); a fault in an
alternative or in a nested template keeps its offset.
-/

namespace SqlTemplate

/-- What becomes of a failure when it is told from so far in front. -/
inductive Failure.Moved (distance : Nat) : Failure → Failure → Prop
  /-- A fault outside of all blocks is found further back. -/
  | fault (problem : Problem) (offset : Nat) :
      Moved distance (.malformed ⟨problem, offset⟩) (.malformed ⟨problem, distance + offset⟩)
  | same (failure : Failure) : Moved distance failure failure

/-- Two runs that come to the same, but for what is told from so far in front. -/
inductive MovedRun (distance : Nat) :
    Except Failure (List Char) × Supply → Except Failure (List Char) × Supply → Prop
  | ok (text : List Char) (after : Supply) : MovedRun distance (.ok text, after) (.ok text, after)
  | error {failure moved : Failure} (after : Supply) (h : failure.Moved distance moved) :
      MovedRun distance (.error failure, after) (.error moved, after)

section

variable {quoter : Quoter} {expandNested : List Char → Expansion (List Char)} {distance : Nat}

theorem MovedRun.refl (result : Except Failure (List Char) × Supply) :
    MovedRun distance result result := by
  obtain ⟨failure | text, after⟩ := result
  · exact .error after (.same failure)
  · exact .ok text after

theorem MovedRun.emit {result moved : Except Failure (List Char) × Supply} (front : List Char)
    (h : MovedRun distance result moved) :
    MovedRun distance (emit front result) (emit front moved) := by
  cases h with
  | ok text after => exact .ok (front ++ text) after
  | error after hmoved => exact .error after hmoved

/-- Moved nodes are expanded like those that they are moved from. -/
theorem movedRun_expand (distance : Nat) (nodes : List Node) (supply : Supply) :
    MovedRun distance (Template.expand quoter expandNested nodes supply)
      (Template.expand quoter expandNested (nodes.map (Node.moved distance)) supply) := by
  induction nodes generalizing supply with
  | nil => exact .refl _
  | cons node rest ih =>
      -- behind a node that is no fault, both runs go on with the rest
      have hsame : node.moved distance = node →
          MovedRun distance (Template.expand quoter expandNested (node :: rest) supply)
            (Template.expand quoter expandNested
              ((node :: rest).map (Node.moved distance)) supply) := by
        intro hnode
        rw [List.map_cons, hnode]
        rcases hrun : node.expand quoter expandNested supply with ⟨failure | text, after⟩
        · rw [expand_cons_of_error hrun, expand_cons_of_error hrun]
          exact .refl _
        · rw [expand_cons_of_ok hrun, expand_cons_of_ok hrun]
          exact (ih after).emit text
      cases node with
      | verbatim text => exact hsame rfl
      | placeholder tag => exact hsame rfl
      | block gated alternatives => exact hsame rfl
      | fault found => exact .error supply (.fault found.problem found.offset)

theorem expand_append_of_ok {front : List Node} (back : List Node) {supply mid : Supply}
    {text : List Char}
    (h : Template.expand quoter (expandText quoter) front supply = (.ok text, mid)) :
    Template.expand quoter (expandText quoter) (front ++ back) supply =
      emit text (Template.expand quoter (expandText quoter) back mid) := by
  rw [expand_append, Expansion.bind_of_ok h, Expansion.bind_apply]
  rcases Template.expand quoter (expandText quoter) back mid with ⟨failure | more, after⟩ <;> rfl

/-- Behind a template that expands, the next lines are expanded like a template of their
own. -/
theorem movedRun_append_newline {front : List Char} (back : List Char) {supply mid : Supply}
    {text : List Char} (h : expandText quoter front supply = (.ok text, mid)) :
    MovedRun (front.length + 1) (emit (text ++ ['\n']) (expandText quoter back mid))
      (expandText quoter (front ++ '\n' :: back) supply) := by
  rw [expandText_eq] at h
  have hformed : wellFormed front := by
    rw [← faultFree_read]
    exact faultFree_of_expand h
  have hread : Template.read (front ++ '\n' :: back) = Template.read front ++
      .verbatim ['\n'] :: (Template.read back).map (Node.moved (front.length + 1)) := by
    rw [Template.read, readFrom_append_newline hformed, Nat.zero_add]
    exact congrArg (Template.read front ++ .verbatim ['\n'] :: ·)
      (readFrom_add (front.length + 1) 0 back)
  have hline : (Node.verbatim ['\n']).expand quoter (expandText quoter) mid = (.ok ['\n'], mid) :=
    rfl
  rw [expandText_eq quoter (front ++ '\n' :: back), expandText_eq quoter back, hread,
    expand_append_of_ok _ h, expand_cons_of_ok hline, emit_append]
  exact ((movedRun_expand _ _ mid).emit ['\n']).emit text

/-- **Expansion goes line by line.**  If a template expands to a text, then it expands with
further lines behind it if and only if these expand with what the first template has left,
and then their text stands behind the first one's.  If they fail, so does the whole, in the
same way and with the same parameters taken. -/
theorem expandText_append_newline {front back text : List Char} {supply mid : Supply}
    (h : expandText quoter front supply = (.ok text, mid)) :
    (∀ whole after, expandText quoter (front ++ '\n' :: back) supply = (.ok whole, after) ↔
      ∃ rest, expandText quoter back mid = (.ok rest, after) ∧ whole = text ++ '\n' :: rest) ∧
    (∀ failure after, expandText quoter (front ++ '\n' :: back) supply = (.error failure, after) →
      ∃ inner, expandText quoter back mid = (.error inner, after) ∧
        inner.Moved (front.length + 1) failure) := by
  have hmoved := movedRun_append_newline back h
  generalize expandText quoter (front ++ '\n' :: back) supply = joined at hmoved
  generalize expandText quoter back mid = behind at hmoved
  obtain ⟨inner | rest, last⟩ := behind
  · -- the lines behind fail
    cases hmoved with
    | error _ hinner =>
        refine ⟨fun whole after => ⟨?_, ?_⟩, ?_⟩
        · rintro ⟨⟩
        · rintro ⟨_, ⟨⟩, _⟩
        · rintro failure after ⟨⟩
          exact ⟨inner, rfl, hinner⟩
  · -- the lines behind expand
    cases hmoved
    refine ⟨fun whole after => ⟨?_, ?_⟩, ?_⟩
    · rintro ⟨⟩
      exact ⟨rest, rfl, by simp⟩
    · rintro ⟨_, ⟨⟩, rfl⟩
      simp
    · rintro failure after ⟨⟩

/-- A block that is dropped and a quote in a comment, with lines behind them that expand and
lines that fail behind a parameter of their own. -/
theorem expandText_append_newline_comment :
    let front := "a ? 'it''s' \x7bb ?\x7d -- don't ?".toList
    let text := "a 1 'it''s'  -- don't ?".toList
    let supply := Supply.ofList [.int 1, .skip, .text "q ?", .int 3]
    let mid := (expandText .mysql front supply).2
    expandText .mysql front supply = (.ok text, mid) ∧
      (∃ after, expandText .mysql (front ++ '\n' :: "b ?s".toList) supply =
        (.ok (text ++ '\n' :: "b q 3".toList), after)) ∧
      ∃ inner after, expandText .mysql "b ?s \x7d".toList mid = (.error inner, after) ∧
        inner.Moved (front.length + 1) (.malformed ⟨.strayClosingBrace, 34⟩) := by
  intro front text supply mid
  have hfront : expandText .mysql front supply = (.ok text, mid) :=
    Prod.ext (by decide +kernel) rfl
  have hexpands : (expandText .mysql "b ?s".toList mid).1 = .ok "b q 3".toList := by
    decide +kernel
  have hfails : (expandText .mysql (front ++ '\n' :: "b ?s \x7d".toList) supply).1 =
      .error (.malformed ⟨.strayClosingBrace, 34⟩) := by
    decide +kernel
  have hwhole := ((expandText_append_newline hfront).1 (text ++ '\n' :: "b q 3".toList)
    (expandText .mysql "b ?s".toList mid).2).2 ⟨"b q 3".toList, Prod.ext hexpands rfl, rfl⟩
  obtain ⟨inner, hinner⟩ := (expandText_append_newline hfront).2 _ _ (Prod.ext hfails rfl)
  exact ⟨hfront, ⟨_, hwhole⟩, inner, _, hinner⟩

end

end SqlTemplate
