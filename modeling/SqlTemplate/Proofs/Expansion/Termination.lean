import Mathlib.Algebra.GroupWithZero.Nat
import SqlTemplate.Proofs.Expansion.Recursion
import SqlTemplate.Proofs.Template.Turns

/-!
# Every expansion ends

Scans, placeholders and blocks call each other: a block is scanned alternative by
alternative, and a placeholder may take a template that is scanned in its place.  `Runs`
writes down what each of these activities does, turn by turn and call by call.  A run has
a derivation only if it ends, since nothing bounds how deep the calls may go.  And every
activity has a run, on every supply: it is what the expansion gives (`runs_iff`).

## Strategy

`Calls` lists what an activity may have to wait for: the scan's own next turn, a
placeholder or a block that it meets, an alternative, a nested template.  A nested template
may be longer than the text that it stands in, but then a parameter has been taken; in all
other cases no parameter is given back and the text that is left is shorter.  So calls go
down in the lexicographic order of the pending parameters and the text that is left
(`lex_of_calls`), and induction along the calls builds the runs (`exists_run`).
-/

namespace SqlTemplate

/-! ## Activities and their runs -/

/-- What an expansion may be busy with. -/
inductive Activity where
  /-- The scan of a text, from a position on. -/
  | scan (text : List Char) (position : Nat)
  | dispatch (tag : Tag)
  /-- The block with a content. -/
  | resolve (content : List Char)
  /-- The alternatives of a block that have not been scanned yet, and the text that is kept
  of those before them. -/
  | alternatives (kept : Option (List Char)) (pieces : List (List Char))

/-- What has to be done about a token before the scan can go on. -/
def Token.callee? : Token → Option Activity
  | .placeholder tag => some (.dispatch tag)
  | .block content => some (.resolve content)
  | .copied _ | .fault _ => none

/-- Puts a text in front of what a run comes to. -/
def emit (text : List Char) (result : Except Failure (List Char) × Supply) :
    Except Failure (List Char) × Supply :=
  (result.1.map (text ++ ·), result.2)

/-- The runs of an activity on a supply, with what they come to and the supply that they
leave. -/
inductive Runs (quoter : Quoter) :
    Activity → Supply → Except Failure (List Char) × Supply → Prop
  | finished {text position supply} (hend : turnAt? text position = none) :
      Runs quoter (.scan text position) supply (.ok [], supply)
  | fault {text position supply problem next}
      (hturn : turnAt? text position = some (.fault problem, next)) :
      Runs quoter (.scan text position) supply (.error (.malformed ⟨problem, position⟩), supply)
  | copied {text position supply run next result}
      (hturn : turnAt? text position = some (.copied run, next)) :
      Runs quoter (.scan text next) supply result →
      Runs quoter (.scan text position) supply (emit run result)
  | failed {text position supply token next activity failure after}
      (hturn : turnAt? text position = some (token, next))
      (hcallee : token.callee? = some activity) :
      Runs quoter activity supply (.error failure, after) →
      Runs quoter (.scan text position) supply (.error failure, after)
  | emitted {text position supply token next activity inside mid result}
      (hturn : turnAt? text position = some (token, next))
      (hcallee : token.callee? = some activity) :
      Runs quoter activity supply (.ok inside, mid) →
      Runs quoter (.scan text next) mid result →
      Runs quoter (.scan text position) supply (emit inside result)
  | missing {tag supply failure after} (htake : Expansion.take supply = (.error failure, after)) :
      Runs quoter (.dispatch tag) supply (.error failure, after)
  | skipped {tag supply after} (htake : Expansion.take supply = (.ok .skip, after)) :
      Runs quoter (.dispatch tag) supply (.ok [], { after with skipRaised := true })
  | refused {tag supply value after refusal} (htake : Expansion.take supply = (.ok value, after))
      (hskip : value ≠ .skip) (hpresent : present quoter tag value = .error refusal) :
      Runs quoter (.dispatch tag) supply (.error (refusal.toFailure tag after.taken), after)
  | literal {tag supply value after text} (htake : Expansion.take supply = (.ok value, after))
      (hskip : value ≠ .skip) (hpresent : present quoter tag value = .ok (.literal text)) :
      Runs quoter (.dispatch tag) supply (.ok text, after)
  | template {tag supply value after text result}
      (htake : Expansion.take supply = (.ok value, after))
      (hskip : value ≠ .skip) (hpresent : present quoter tag value = .ok (.template text)) :
      Runs quoter (.scan text 0) after result →
      Runs quoter (.dispatch tag) supply result
  | locked {content supply failure after}
      (hgate : passGate (splitGate content).1 supply = (.error failure, after)) :
      Runs quoter (.resolve content) supply (.error failure, after)
  | broken {content supply dropped mid failure after}
      (hgate : passGate (splitGate content).1 supply = (.ok dropped, mid)) :
      Runs quoter (.alternatives none (alternatives (splitGate content).2))
        { mid with skipRaised := false } (.error failure, after) →
      Runs quoter (.resolve content) supply
        (.error failure, { after with skipRaised := mid.skipRaised })
  | resolved {content supply dropped mid text after}
      (hgate : passGate (splitGate content).1 supply = (.ok dropped, mid)) :
      Runs quoter (.alternatives none (alternatives (splitGate content).2))
        { mid with skipRaised := false } (.ok text, after) →
      Runs quoter (.resolve content) supply
        (.ok (if dropped || after.skipRaised then [] else text),
          { after with skipRaised := mid.skipRaised })
  | exhausted {kept supply} :
      Runs quoter (.alternatives kept []) supply (.ok (kept.getD []), supply)
  | spoiled {kept piece others supply failure after} :
      Runs quoter (.scan piece 0) supply (.error failure, after) →
      Runs quoter (.alternatives kept (piece :: others)) supply (.error failure, after)
  | expanded {kept piece others supply text mid result} :
      Runs quoter (.scan piece 0) supply (.ok text, mid) →
      Runs quoter (.alternatives (some (kept.getD (' ' :: text ++ [' ']))) others) mid result →
      Runs quoter (.alternatives kept (piece :: others)) supply result

/-- The expansion that an activity carries out. -/
def Activity.expansion (quoter : Quoter) : Activity → Expansion (List Char)
  | scan text position =>
      Template.expand quoter (expandText quoter)
        (Template.readFrom position (text.drop position))
  | dispatch tag => expandPlaceholder quoter (expandText quoter) tag
  | resolve content => (Node.ofContent content).expand quoter (expandText quoter)
  | alternatives kept pieces => do
      let texts ← Template.expandAll quoter (expandText quoter) (pieces.map Template.read)
      return kept.getD (blockText texts)

/-! ## Runs are expansions -/

section

variable {quoter : Quoter} {expandNested : List Char → Expansion (List Char)} {node : Node}
  {rest : List Node} {supply after : Supply}

theorem emit_nil (result : Except Failure (List Char) × Supply) : emit [] result = result := by
  rcases result with ⟨failure | text, after⟩ <;> rfl

theorem emit_append (front back : List Char) (result : Except Failure (List Char) × Supply) :
    emit (front ++ back) result = emit front (emit back result) := by
  rcases result with ⟨failure | text, after⟩
  · rfl
  · simp [emit, Except.map]

/-- Behind a node that succeeds, the rest of the template is expanded. -/
theorem expand_cons_of_ok {text : List Char}
    (h : node.expand quoter expandNested supply = (.ok text, after)) :
    Template.expand quoter expandNested (node :: rest) supply =
      emit text (Template.expand quoter expandNested rest after) := by
  rw [Template.expand, Expansion.bind_of_ok h, Expansion.bind_apply]
  rcases Template.expand quoter expandNested rest after with ⟨failure | others, last⟩ <;> rfl

theorem expand_cons_of_error {failure : Failure}
    (h : node.expand quoter expandNested supply = (.error failure, after)) :
    Template.expand quoter expandNested (node :: rest) supply = (.error failure, after) := by
  rw [Template.expand, Expansion.bind_of_error h]

/-- Copying a run of characters at once is copying one after the other. -/
theorem expand_readFrom_run {run : List Char} (h : ∀ c ∈ run, startsNothing c) (position : Nat)
    (rest : List Char) (supply : Supply) :
    Template.expand quoter expandNested (Template.readFrom position (run ++ rest)) supply =
      emit run (Template.expand quoter expandNested
        (Template.readFrom (position + run.length) rest) supply) := by
  induction run generalizing position with
  | nil => exact (emit_nil _).symm
  | cons c run ih =>
      have hrun := ih (fun d hmem => h d (List.mem_cons_of_mem _ hmem)) (position + 1)
      have htoken := nextToken?_of_startsNothing (h c (List.mem_cons_self ..)) (run ++ rest)
      have hcopy : (Node.verbatim [c]).expand quoter expandNested supply = (.ok [c], supply) := rfl
      rw [List.cons_append, readFrom_copied htoken, expand_cons_of_ok hcopy,
        List.length_singleton, hrun, ← emit_append, List.length_cons, Nat.add_assoc,
        Nat.add_comm 1]
      rfl

end

/-! ### The turns of a scan -/

section

variable {quoter : Quoter} {text : List Char} {position next : Nat} {token : Token}
  {supply after : Supply}

/-- A turn either meets a token or goes over a run of characters that start nothing. -/
theorem cases_of_turn? {rest : List Char} (h : turn? text = some (token, rest)) :
    nextToken? text = some (token, rest) ∨
      ∃ run, token = .copied run ∧ (∀ c ∈ run, startsNothing c) ∧ run ++ rest = text := by
  unfold turn? at h
  split at h
  · exact Or.inl h
  · obtain ⟨rfl, rfl⟩ := Prod.mk.inj (Option.some.inj h)
    refine Or.inr ⟨_, rfl, ?_, List.takeWhile_append_dropWhile⟩
    intro c hmem
    exact List.mem_takeWhile_imp hmem

theorem eq_nil_of_turn? (h : turn? text = none) : text = [] := by
  unfold turn? at h
  split at h
  · cases text with
    | nil => rfl
    | cons c rest =>
        rw [nextToken?] at h
        rcases hregion : regionAt? (c :: rest) with _ | ⟨region, after⟩
        · rw [nextLexeme?_of_regionAt?_eq_none hregion] at h
          cases h
        · rw [nextLexeme?_of_regionAt? hregion] at h
          cases h
  · cases h

theorem expansion_finished (h : turnAt? text position = none) :
    (Activity.scan text position).expansion quoter supply = (.ok [], supply) := by
  have hnil := eq_nil_of_turn? (Option.map_eq_none_iff.1 h)
  rw [Activity.expansion, hnil, readFrom_nil]
  rfl

theorem expansion_fault {problem : Problem}
    (h : turnAt? text position = some (.fault problem, next)) :
    (Activity.scan text position).expansion quoter supply =
      (.error (.malformed ⟨problem, position⟩), supply) := by
  obtain ⟨rest, hturn, -⟩ := exists_turn?_of_turnAt? h
  rcases cases_of_turn? hturn with htoken | ⟨run, hcopied, -⟩
  · rw [Activity.expansion, readFrom_fault htoken]
    exact expand_cons_of_error rfl
  · cases hcopied

theorem expansion_copied {run : List Char}
    (h : turnAt? text position = some (.copied run, next)) :
    (Activity.scan text position).expansion quoter supply =
      emit run ((Activity.scan text next).expansion quoter supply) := by
  obtain ⟨rest, hturn, rfl⟩ := exists_turn?_of_turnAt? h
  have hdrop := drop_of_turn? hturn fun _ hfault => nomatch hfault
  simp only [Activity.expansion]
  rw [hdrop]
  rcases cases_of_turn? hturn with htoken | ⟨characters, hcopied, hnothing, htext⟩
  · rw [readFrom_copied htoken]
    exact expand_cons_of_ok rfl
  · obtain rfl := Token.copied.inj hcopied
    rw [← htext, expand_readFrom_run hnothing]
    rfl

theorem ne_fault_of_callee? {activity : Activity} (h : token.callee? = some activity)
    (problem : Problem) : token ≠ .fault problem := by
  rintro rfl
  cases h

/-- A token that has to be taken care of becomes a node, and the node is expanded by the
activity that takes care of it. -/
theorem exists_node_of_callee? (quoter : Quoter) {activity : Activity}
    (h : token.callee? = some activity) :
    ∃ node : Node, node.expand quoter (expandText quoter) = activity.expansion quoter ∧
      ∀ offset inner rest, nextToken? inner = some (token, rest) →
        Template.readFrom offset inner =
          node :: Template.readFrom (offset + token.length) rest := by
  cases token with
  | copied copied => cases h
  | placeholder tag =>
      obtain rfl := Option.some.inj h
      exact ⟨.placeholder tag, rfl, fun _ _ _ htoken => readFrom_placeholder htoken⟩
  | block content =>
      obtain rfl := Option.some.inj h
      exact ⟨Node.ofContent content, rfl, fun _ _ _ htoken => readFrom_block htoken⟩
  | fault problem => cases h

theorem exists_node_of_turnAt? {activity : Activity}
    (h : turnAt? text position = some (token, next)) (hcallee : token.callee? = some activity) :
    ∃ node : Node, node.expand quoter (expandText quoter) = activity.expansion quoter ∧
      Template.readFrom position (text.drop position) =
        node :: Template.readFrom next (text.drop next) := by
  obtain ⟨rest, hturn, rfl⟩ := exists_turn?_of_turnAt? h
  obtain ⟨node, hnode, hread⟩ := exists_node_of_callee? quoter hcallee
  refine ⟨node, hnode, ?_⟩
  rcases cases_of_turn? hturn with htoken | ⟨run, rfl, -⟩
  · rw [hread _ _ _ htoken, drop_of_turn? hturn (ne_fault_of_callee? hcallee)]
  · cases hcallee

theorem expansion_emitted {activity : Activity} {inside : List Char}
    (h : turnAt? text position = some (token, next)) (hcallee : token.callee? = some activity)
    (hrun : activity.expansion quoter supply = (.ok inside, after)) :
    (Activity.scan text position).expansion quoter supply =
      emit inside ((Activity.scan text next).expansion quoter after) := by
  obtain ⟨node, hnode, hread⟩ := exists_node_of_turnAt? h hcallee
  rw [← hnode] at hrun
  simp only [Activity.expansion]
  rw [hread]
  exact expand_cons_of_ok hrun

theorem expansion_failed {activity : Activity} {failure : Failure}
    (h : turnAt? text position = some (token, next)) (hcallee : token.callee? = some activity)
    (hrun : activity.expansion quoter supply = (.error failure, after)) :
    (Activity.scan text position).expansion quoter supply = (.error failure, after) := by
  obtain ⟨node, hnode, hread⟩ := exists_node_of_turnAt? h hcallee
  rw [← hnode] at hrun
  rw [Activity.expansion, hread]
  exact expand_cons_of_error hrun

/-! ### Placeholders and blocks -/

theorem exists_pending_of_take {value : Value} (h : Expansion.take supply = (.ok value, after)) :
    ∃ rest, supply.pending = value :: rest ∧
      after = { supply with pending := rest, taken := supply.taken + 1 } := by
  cases hpending : supply.pending with
  | nil =>
      rw [Expansion.take_of_pending_nil hpending] at h
      cases h
  | cons first rest =>
      rw [Expansion.take_of_pending_cons hpending] at h
      cases h
      exact ⟨rest, rfl, rfl⟩

/-- What a placeholder does with a parameter other than the skip mark. -/
theorem expansion_dispatch {tag : Tag} {value : Value}
    (htake : Expansion.take supply = (.ok value, after)) (hskip : value ≠ .skip) :
    (Activity.dispatch tag).expansion quoter supply =
      (Expansion.ofRule tag (present quoter tag value) >>=
        Presentation.expand (expandText quoter)) after := by
  obtain ⟨rest, hpending, rfl⟩ := exists_pending_of_take htake
  exact expandPlaceholder_of_ne_skip tag hpending hskip

/-- What a block does behind its gate. -/
theorem expansion_resolve {content : List Char} {dropped : Bool} {mid : Supply}
    (hgate : passGate (splitGate content).1 supply = (.ok dropped, mid)) :
    (Activity.resolve content).expansion quoter supply =
      match (Activity.alternatives none (alternatives (splitGate content).2)).expansion quoter
        { mid with skipRaised := false } with
      | (.error failure, after) => (.error failure, { after with skipRaised := mid.skipRaised })
      | (.ok text, after) =>
          (.ok (if dropped || after.skipRaised then [] else text),
            { after with skipRaised := mid.skipRaised }) := by
  have hblock : (Activity.resolve content).expansion quoter =
      expandBlock (splitGate content).1 (Template.expandAll quoter (expandText quoter)
        ((alternatives (splitGate content).2).map Template.read)) := rfl
  rw [hblock, expandBlock, Expansion.bind_of_ok hgate, Expansion.bind_apply,
    Expansion.isolateSkip, Activity.expansion, Expansion.bind_apply]
  rcases Template.expandAll quoter (expandText quoter)
    ((alternatives (splitGate content).2).map Template.read)
    { mid with skipRaised := false } with ⟨failure | texts, after⟩
  · rfl
  · rfl

end

/-! ### Soundness -/

/-- What a run comes to is what the expansion gives. -/
theorem Runs.expansion_eq {quoter : Quoter} {activity : Activity} {supply : Supply}
    {result : Except Failure (List Char) × Supply} (h : Runs quoter activity supply result) :
    activity.expansion quoter supply = result := by
  induction h with
  | finished hend => exact expansion_finished hend
  | fault hturn => exact expansion_fault hturn
  | copied hturn _ ih => rw [expansion_copied hturn, ih]
  | failed hturn hcallee _ ih => exact expansion_failed hturn hcallee ih
  | emitted hturn hcallee _ _ ihcallee ih => rw [expansion_emitted hturn hcallee ihcallee, ih]
  | missing htake => exact Expansion.bind_of_error htake
  | @skipped tag supply after htake =>
      obtain ⟨rest, hpending, rfl⟩ := exists_pending_of_take htake
      exact expandPlaceholder_of_skip tag hpending
  | refused htake hskip hpresent =>
      rw [expansion_dispatch htake hskip, hpresent]
      rfl
  | literal htake hskip hpresent =>
      rw [expansion_dispatch htake hskip, hpresent]
      rfl
  | @template tag supply value after text result htake hskip hpresent _ ih =>
      rw [expansion_dispatch htake hskip, hpresent, ← ih, Activity.expansion, List.drop_zero]
      exact congrFun (expandText_eq quoter text) after
  | locked hgate => exact Expansion.bind_of_error hgate
  | broken hgate _ ih => rw [expansion_resolve hgate, ih]
  | resolved hgate _ ih => rw [expansion_resolve hgate, ih]
  | exhausted => rfl
  | @spoiled kept piece others supply failure after _ ih =>
      rw [Activity.expansion, List.map_cons, Template.expandAll]
      refine Expansion.bind_of_error (Expansion.bind_of_error ?_)
      exact ih
  | @expanded kept piece others supply text mid result _ _ ihpiece ih =>
      have hpiece : Template.expand quoter (expandText quoter) (Template.read piece) supply =
          (.ok text, mid) := ihpiece
      rw [← ih]
      simp only [Activity.expansion, List.map_cons, Template.expandAll, Expansion.bind_apply,
        hpiece]
      rcases Template.expandAll quoter (expandText quoter) (others.map Template.read) mid with
        ⟨failure | texts, after⟩ <;> rfl

/-! ## Calls -/

/-- What an activity on a supply may have to wait for, on the supply that it hands on. -/
inductive Calls (quoter : Quoter) : Activity × Supply → Activity × Supply → Prop
  | copied {text position supply run next}
      (hturn : turnAt? text position = some (.copied run, next)) :
      Calls quoter (.scan text position, supply) (.scan text next, supply)
  | token {text position supply token next activity}
      (hturn : turnAt? text position = some (token, next))
      (hcallee : token.callee? = some activity) :
      Calls quoter (.scan text position, supply) (activity, supply)
  | behind {text position supply token next activity inside mid}
      (hturn : turnAt? text position = some (token, next))
      (hcallee : token.callee? = some activity)
      (hrun : Runs quoter activity supply (.ok inside, mid)) :
      Calls quoter (.scan text position, supply) (.scan text next, mid)
  | template {tag supply value after text} (htake : Expansion.take supply = (.ok value, after))
      (hskip : value ≠ .skip) (hpresent : present quoter tag value = .ok (.template text)) :
      Calls quoter (.dispatch tag, supply) (.scan text 0, after)
  | content {content supply dropped mid}
      (hgate : passGate (splitGate content).1 supply = (.ok dropped, mid)) :
      Calls quoter (.resolve content, supply)
        (.alternatives none (alternatives (splitGate content).2), { mid with skipRaised := false })
  | piece {kept piece others supply} :
      Calls quoter (.alternatives kept (piece :: others), supply) (.scan piece 0, supply)
  | others {kept piece others supply text mid}
      (hrun : Runs quoter (.scan piece 0) supply (.ok text, mid)) :
      Calls quoter (.alternatives kept (piece :: others), supply)
        (.alternatives (some (kept.getD (' ' :: text ++ [' ']))) others, mid)

/-! ### The measure -/

/-- How much text is left for all of the pieces; each of them also has to be begun. -/
def piecesSize (pieces : List (List Char)) : Nat :=
  (pieces.map fun piece => 2 * piece.length + 2).sum

/-- How much text is left for an activity.  A character counts twice, so that there is
room for the bookkeeping between two texts. -/
def Activity.size : Activity → Nat
  | scan text position => 2 * (text.length - position)
  | dispatch _ => 0
  | resolve content => 2 * content.length + 3
  | alternatives _ pieces => piecesSize pieces

theorem piecesSize_prependText {text : List Char} {pieces : List (List Char)} (h : pieces ≠ []) :
    piecesSize (prependText text pieces) = 2 * text.length + piecesSize pieces := by
  cases pieces with
  | nil => exact absurd rfl h
  | cons first others =>
      simp only [prependText, piecesSize, List.map_cons, List.sum_cons, List.length_append]
      omega

/-- The pieces and the bars between them make up the text. -/
theorem piecesSize_piecesFrom (depth : Int) (parts : List Lexeme) :
    piecesSize (piecesFrom depth parts) = 2 * (parts.flatMap Lexeme.text).length + 2 := by
  induction parts generalizing depth with
  | nil => rfl
  | cons lexeme rest ih =>
      rw [List.flatMap_cons, List.length_append, piecesFrom]
      by_cases hbar : lexeme = .char '|' ∧ depth ≤ 0
      · rw [if_pos hbar, hbar.1]
        have hrest := ih depth
        simp only [piecesSize, List.map_cons, List.sum_cons, List.length_nil, Lexeme.text,
          List.length_singleton] at hrest ⊢
        omega
      · rw [if_neg hbar, piecesSize_prependText (piecesFrom_ne_nil _ _), ih]
        omega

theorem piecesSize_alternatives (content : List Char) :
    piecesSize (alternatives content) = 2 * content.length + 2 := by
  rw [alternatives, piecesSize_piecesFrom, flatMap_text_lexemes]

/-! ### Calls go down -/

/-- What every single step and every nested template does, every activity does. -/
theorem Compositional.expansion {Good : ∀ α : Type, Expansion α → Prop}
    (hgood : Compositional Good) {quoter : Quoter}
    (hnested : ∀ text, Good _ (expandText quoter text)) (activity : Activity) :
    Good _ (activity.expansion quoter) := by
  cases activity with
  | scan text position => exact hgood.expand hnested _
  | dispatch tag => exact hgood.expandPlaceholder hnested tag
  | resolve content => exact hgood.expandNode hnested _
  | alternatives kept pieces =>
      apply hgood.bind
      · apply hgood.expandAll
        intro alternative _
        exact hgood.expand hnested alternative
      · intro texts
        exact hgood.pure _

theorem neverLengthens_expansion (quoter : Quoter) (activity : Activity) :
    NeverLengthens _ (activity.expansion quoter) :=
  compositional_neverLengthens.expansion (neverLengthens_expandText quoter) activity

/-- A run gives no parameter back. -/
theorem Runs.length_pending_le {quoter : Quoter} {activity : Activity} {supply : Supply}
    {result : Except Failure (List Char) × Supply} (h : Runs quoter activity supply result) :
    result.2.pending.length ≤ supply.pending.length := by
  have hlength := neverLengthens_expansion quoter activity supply
  rwa [h.expansion_eq] at hlength

/-- Whatever a token has to wait for has less text left than the scan that meets it. -/
theorem size_lt_of_callee? {text : List Char} {position next : Nat} {token : Token}
    {activity : Activity} (hturn : turnAt? text position = some (token, next))
    (hcallee : token.callee? = some activity) :
    activity.size < (Activity.scan text position).size ∧
      (Activity.scan text next).size < (Activity.scan text position).size := by
  obtain ⟨hlt, hle⟩ := lt_of_turnAt? hturn (ne_fault_of_callee? hcallee)
  refine ⟨?_, by simp only [Activity.size]; omega⟩
  cases token with
  | copied copied => cases hcallee
  | placeholder tag =>
      obtain rfl := Option.some.inj hcallee
      simp only [Activity.size]
      omega
  | block content =>
      obtain rfl := Option.some.inj hcallee
      have hcontent := length_content_of_turnAt? hturn
      simp only [Activity.size]
      omega
  | fault problem => cases hcallee

/-- The parameters that are left, and behind them the text that is left. -/
def callRank (call : Activity × Supply) : Nat × Nat :=
  (call.2.pending.length, call.1.size)

/-- **A call leaves fewer parameters, or no more of them and less text.** -/
theorem lex_of_calls {quoter : Quoter} {caller callee : Activity × Supply}
    (h : Calls quoter caller callee) :
    Prod.Lex (· < ·) (· < ·) (callRank callee) (callRank caller) := by
  -- only a nested template is not shorter, and there a parameter has been taken
  have hshorter : ∀ {activity other : Activity} {supply after : Supply},
      after.pending.length ≤ supply.pending.length → other.size < activity.size →
      Prod.Lex (· < ·) (· < ·) (callRank (other, after)) (callRank (activity, supply)) := by
    intro activity other supply after hpending hsize
    rcases Nat.lt_or_eq_of_le hpending with hlt | heq
    · exact Prod.Lex.left _ _ hlt
    · simp only [callRank, heq]
      exact Prod.Lex.right _ hsize
  cases h with
  | @copied text position supply run next hturn =>
      obtain ⟨hlt, hle⟩ := lt_of_turnAt? hturn fun _ hfault => nomatch hfault
      apply hshorter (Nat.le_refl _)
      simp only [Activity.size]
      omega
  | token hturn hcallee => exact hshorter (Nat.le_refl _) (size_lt_of_callee? hturn hcallee).1
  | behind hturn hcallee hrun =>
      exact hshorter hrun.length_pending_le (size_lt_of_callee? hturn hcallee).2
  | template htake hskip hpresent =>
      obtain ⟨rest, hpending, rfl⟩ := exists_pending_of_take htake
      apply Prod.Lex.left
      rw [hpending]
      exact Nat.lt_succ_self _
  | @content content supply dropped mid hgate =>
      have hpending := compositional_neverLengthens.passGate (splitGate content).1 supply
      rw [hgate] at hpending
      apply hshorter hpending
      simp only [Activity.size]
      rw [piecesSize_alternatives, length_splitGate]
      omega
  | piece =>
      apply hshorter (Nat.le_refl _)
      simp only [Activity.size, piecesSize, List.map_cons, List.sum_cons]
      omega
  | others hrun =>
      apply hshorter hrun.length_pending_le
      simp only [Activity.size, piecesSize, List.map_cons, List.sum_cons]
      omega

theorem wellFounded_calls (quoter : Quoter) :
    WellFounded fun callee caller => Calls quoter caller callee := by
  have hlex : WellFounded (Prod.Lex (· < ·) (· < ·) : Nat × Nat → Nat × Nat → Prop) :=
    (Prod.lex Nat.lt_wfRel Nat.lt_wfRel).wf
  exact Subrelation.wf lex_of_calls (InvImage.wf callRank hlex)

/-! ## Every activity has a run -/

section

variable {quoter : Quoter} {supply : Supply}

/-- A scan that can wait for what it meets has a run. -/
theorem exists_run_scan {text : List Char} {position : Nat}
    (ih : ∀ activity after, Calls quoter (.scan text position, supply) (activity, after) →
      ∃ result, Runs quoter activity after result) :
    ∃ result, Runs quoter (.scan text position) supply result := by
  rcases hturn : turnAt? text position with _ | ⟨token, next⟩
  · exact ⟨_, .finished hturn⟩
  cases hcallee : token.callee? with
  | none =>
      cases token with
      | copied run =>
          obtain ⟨result, hrest⟩ := ih _ _ (.copied hturn)
          exact ⟨_, .copied hturn hrest⟩
      | fault problem => exact ⟨_, .fault hturn⟩
      | placeholder | block => cases hcallee
  | some activity =>
      obtain ⟨⟨failure | inside, mid⟩, hrun⟩ := ih _ _ (.token hturn hcallee)
      · exact ⟨_, .failed hturn hcallee hrun⟩
      · obtain ⟨result, hrest⟩ := ih _ _ (.behind hturn hcallee hrun)
        exact ⟨_, .emitted hturn hcallee hrun hrest⟩

theorem exists_run_dispatch {tag : Tag}
    (ih : ∀ activity after, Calls quoter (.dispatch tag, supply) (activity, after) →
      ∃ result, Runs quoter activity after result) :
    ∃ result, Runs quoter (.dispatch tag) supply result := by
  rcases htake : Expansion.take supply with ⟨failure | value, after⟩
  · exact ⟨_, .missing htake⟩
  by_cases hskip : value = .skip
  · subst hskip
    exact ⟨_, .skipped htake⟩
  rcases hpresent : present quoter tag value with refusal | literal | template
  · exact ⟨_, .refused htake hskip hpresent⟩
  · exact ⟨_, .literal htake hskip hpresent⟩
  · obtain ⟨result, hrun⟩ := ih _ _ (.template htake hskip hpresent)
    exact ⟨_, .template htake hskip hpresent hrun⟩

theorem exists_run_resolve {content : List Char}
    (ih : ∀ activity after, Calls quoter (.resolve content, supply) (activity, after) →
      ∃ result, Runs quoter activity after result) :
    ∃ result, Runs quoter (.resolve content) supply result := by
  rcases hgate : passGate (splitGate content).1 supply with ⟨failure | dropped, mid⟩
  · exact ⟨_, .locked hgate⟩
  obtain ⟨⟨failure | text, after⟩, hrun⟩ := ih _ _ (.content hgate)
  · exact ⟨_, .broken hgate hrun⟩
  · exact ⟨_, .resolved hgate hrun⟩

theorem exists_run_alternatives {kept : Option (List Char)} {pieces : List (List Char)}
    (ih : ∀ activity after, Calls quoter (.alternatives kept pieces, supply) (activity, after) →
      ∃ result, Runs quoter activity after result) :
    ∃ result, Runs quoter (.alternatives kept pieces) supply result := by
  cases pieces with
  | nil => exact ⟨_, .exhausted⟩
  | cons piece others =>
      obtain ⟨⟨failure | text, mid⟩, hrun⟩ := ih _ _ .piece
      · exact ⟨_, .spoiled hrun⟩
      · obtain ⟨result, hrest⟩ := ih _ _ (.others hrun)
        exact ⟨_, .expanded hrun hrest⟩

end

theorem exists_run (quoter : Quoter) (activity : Activity) (supply : Supply) :
    ∃ result, Runs quoter activity supply result := by
  -- induction along the calls: what an activity waits for has a run already
  suffices h : ∀ call : Activity × Supply, ∃ result, Runs quoter call.1 call.2 result from
    h (activity, supply)
  intro call
  induction call using (wellFounded_calls quoter).induction with
  | _ call ih =>
      obtain ⟨activity, supply⟩ := call
      have hcalls : ∀ other after, Calls quoter (activity, supply) (other, after) →
          ∃ result, Runs quoter other after result := fun other after h => ih (other, after) h
      cases activity with
      | scan text position => exact exists_run_scan hcalls
      | dispatch tag => exact exists_run_dispatch hcalls
      | resolve content => exact exists_run_resolve hcalls
      | alternatives kept pieces => exact exists_run_alternatives hcalls

/-- **A run ends, and with the outcome of the expansion.** -/
theorem runs_iff {quoter : Quoter} {activity : Activity} {supply : Supply}
    {result : Except Failure (List Char) × Supply} :
    Runs quoter activity supply result ↔ activity.expansion quoter supply = result := by
  refine ⟨Runs.expansion_eq, ?_⟩
  rintro rfl
  obtain ⟨result, hrun⟩ := exists_run quoter activity supply
  rw [hrun.expansion_eq]
  exact hrun

theorem runs_scan_iff {quoter : Quoter} {text : List Char} {supply : Supply}
    {result : Except Failure (List Char) × Supply} :
    Runs quoter (.scan text 0) supply result ↔ expandText quoter text supply = result := by
  rw [expandText_eq]
  exact runs_iff

theorem runs_dispatch_iff {quoter : Quoter} {tag : Tag} {supply : Supply}
    {result : Except Failure (List Char) × Supply} :
    Runs quoter (.dispatch tag) supply result ↔ expandTag quoter tag supply = result := by
  rw [expandTag_eq]
  exact runs_iff

theorem runs_resolve_iff {quoter : Quoter} {content : List Char} {supply : Supply}
    {result : Except Failure (List Char) × Supply} :
    Runs quoter (.resolve content) supply result ↔ expandContent quoter content supply = result := by
  rw [expandContent_eq]
  exact runs_iff

/-- **Every expansion ends.**  The calls of scans, placeholders and blocks go down in a
well-founded order, that of the parameters left and behind them of the text left.  On every
supply each of them has a run, and the run comes to what the expansion gives.  Within one
scan the position grows at every turn, up to the end of the text. -/
theorem expansion_terminates (quoter : Quoter) :
    WellFounded (fun callee caller => Calls quoter caller callee) ∧
      (∀ caller callee, Calls quoter caller callee →
        Prod.Lex (· < ·) (· < ·) (callRank callee) (callRank caller)) ∧
      (∀ text supply result,
        Runs quoter (.scan text 0) supply result ↔ expandText quoter text supply = result) ∧
      (∀ tag supply result,
        Runs quoter (.dispatch tag) supply result ↔ expandTag quoter tag supply = result) ∧
      (∀ content supply result,
        Runs quoter (.resolve content) supply result ↔
          expandContent quoter content supply = result) ∧
      ∀ text position token next, turnAt? text position = some (token, next) →
        (∃ problem, token = .fault problem) ∨ (position < next ∧ next ≤ text.length) := by
  refine ⟨wellFounded_calls quoter, fun _ _ h => lex_of_calls h, fun _ _ _ => runs_scan_iff,
    fun _ _ _ => runs_dispatch_iff, fun _ _ _ => runs_resolve_iff, ?_⟩
  intro text position token next hturn
  by_cases hfault : ∃ problem, token = .fault problem
  · exact Or.inl hfault
  · exact Or.inr (lt_of_turnAt? hturn fun problem h => hfault ⟨problem, h⟩)

/-- Two templates, the second a copy of the first, are nested in a block, and a third one
stands behind it. -/
theorem expansion_terminates_nested :
    (∃ after, Runs .mysql (.scan "{a ?s|x}?s".toList 0)
      (Supply.ofList [.text "{b ?s}", .text "{b ?s}", .text "c", .text "{ ?d}", .int 1])
      (.ok " a  b  b c     1 ".toList, after)) ∧
    turnAt? "{a ?s|x}?s".toList 0 = some (.block "a ?s|x".toList, 8) ∧ 0 < 8 ∧ 8 ≤ 10 := by
  obtain ⟨-, -, hscan, -, -, hturns⟩ := expansion_terminates .mysql
  have hturn : turnAt? "{a ?s|x}?s".toList 0 = some (.block "a ?s|x".toList, 8) := by
    decide +kernel
  refine ⟨⟨(expandText .mysql "{a ?s|x}?s".toList (Supply.ofList
      [.text "{b ?s}", .text "{b ?s}", .text "c", .text "{ ?d}", .int 1])).2, ?_⟩, hturn, ?_⟩
  · rw [hscan]
    exact Prod.ext (by decide +kernel) rfl
  · rcases hturns _ _ _ _ hturn with ⟨problem, hfault⟩ | hposition
    · cases hfault
    · exact hposition

end SqlTemplate
