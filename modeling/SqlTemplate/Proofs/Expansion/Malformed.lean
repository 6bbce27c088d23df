import SqlTemplate.Proofs.Expansion.Depth
import SqlTemplate.Proofs.Template.FaultPlace
import SqlTemplate.Proofs.Template.Slots

/-!
# Where an expansion finds its template malformed

An expansion without nested templates can report no other faults than those in the
tree of its template (`ReportsOnly`).  So the offset that comes with the failure has a
meaning in the template: it is the place of the problem, counted from the start of the
template or, for a region inside of a block, from the start of the innermost
alternative around the region (`Expander.malformed_place`).

An offset of the second kind does not point at the problem when it is taken for a place
in the template (`Expander.malformed_offset_in_block`).
-/

namespace SqlTemplate

/-! ## Places of a text -/

/-- Whether a problem starts at a place of a text: an opening mark that nothing closes,
an opening brace whose block has no end, or a closing brace in front of which all braces
are balanced. -/
def Problem.StartsAt (problem : Problem) (text : List Char) (place : Nat) : Prop :=
  match problem with
  | .unclosedRegion kind => kind.opening <+: text.drop place ∧ regionAt? (text.drop place) = none
  | .unclosedBlock =>
      text[place]? = some '{' ∧ blockEnd text place = .error ⟨.unclosedBlock, place⟩
  | .strayClosingBrace => text[place]? = some '}' ∧ balanced 0 (lexemes (text.take place))

/-- Whether an alternative may start at a place: right behind an opening brace or a bar
outside of all literal regions. -/
def StartsAlternative (text : List Char) (start : Nat) : Prop :=
  ∃ before mark, start = before + 1 ∧ (mark = '{' ∨ mark = '|') ∧
    (before, mark) ∈ structural text 0

section

variable {text : List Char} {front back : List Lexeme} {c : Char}

theorem mem_structuralFrom_append (offset : Nat) (front back : List Lexeme) :
    (offset + (front.flatMap Lexeme.text).length, c) ∈
      structuralFrom offset (front ++ .char c :: back) := by
  induction front generalizing offset with
  | nil => exact List.mem_cons_self ..
  | cons lexeme rest ih =>
      rw [List.flatMap_cons, List.length_append, ← Nat.add_assoc]
      have hrest := ih (offset + lexeme.text.length)
      cases lexeme with
      | region region => exact hrest
      | char other => exact List.mem_cons_of_mem _ hrest

/-- A character that is a lexeme of its own stands outside of all regions. -/
theorem mem_structural (h : lexemes text = front ++ .char c :: back) :
    ((front.flatMap Lexeme.text).length, c) ∈ structural text 0 := by
  rw [structural, List.drop_zero, h]
  have hmem := mem_structuralFrom_append (c := c) 0 front back
  rwa [Nat.zero_add] at hmem

theorem eq_append_of_lexemes (h : lexemes text = front ++ back) :
    text = front.flatMap Lexeme.text ++ back.flatMap Lexeme.text := by
  rw [← List.flatMap_append, ← h, flatMap_text_lexemes]

theorem take_length_front (h : lexemes text = front ++ back) :
    text.take (front.flatMap Lexeme.text).length = front.flatMap Lexeme.text := by
  rw [eq_append_of_lexemes h, List.take_left]

theorem drop_length_front (h : lexemes text = front ++ back) :
    text.drop (front.flatMap Lexeme.text).length = back.flatMap Lexeme.text := by
  rw [eq_append_of_lexemes h, List.drop_left]

theorem lexed_of_lexemes {parts : List Lexeme} (h : lexemes text = parts) : Lexed parts :=
  h ▸ lexed_lexemes text

/-- A problem that starts with a character starts at the place of the character. -/
theorem Problem.StartsWith.startsAt {problem : Problem}
    (h : lexemes text = front ++ .char c :: back) (hstarts : problem.StartsWith c back)
    (hbraces : problem = .strayClosingBrace → balanced 0 front) :
    problem.StartsAt text (front.flatMap Lexeme.text).length := by
  have hlexed : Lexed (front ++ .char c :: back) := lexed_of_lexemes h
  have hdrop : text.drop (front.flatMap Lexeme.text).length = c :: back.flatMap Lexeme.text :=
    drop_length_front h
  have hchar : text[(front.flatMap Lexeme.text).length]? = some c := by
    rw [← List.head?_drop, hdrop, List.head?_cons]
  cases problem with
  | unclosedRegion kind =>
      have hopening : kind.opening <+: c :: back.flatMap Lexeme.text :=
        ofOpening?_eq_some_iff.1 hstarts
      refine ⟨?_, ?_⟩
      · rw [hdrop]
        exact hopening
      · rw [hdrop]
        exact hlexed.of_suffix.regionAt?_eq_none
  | unclosedBlock =>
      obtain ⟨rfl, hopen⟩ := hstarts
      refine ⟨hchar, ?_⟩
      have hparts : lexemes ('{' :: back.flatMap Lexeme.text) = .char '{' :: back :=
        hlexed.of_suffix
      have hnone : closingBrace? 0 (.char '{' :: back) = none := by
        rw [closingBrace?_open, Int.zero_add, hopen, Option.map_none]
      rw [blockEnd, hdrop, hparts, hnone]
  | strayClosingBrace =>
      obtain rfl : c = '}' := hstarts
      have hfront : lexemes (front.flatMap Lexeme.text) = front := hlexed.of_append
      refine ⟨hchar, ?_⟩
      rw [take_length_front h, hfront]
      exact hbraces rfl

end

/-! ## Only faults of the tree are reported -/

/-- A step that reports no other faults than the given ones. -/
def ReportsOnly {α : Type} (faults : List Fault) (step : Expansion α) : Prop :=
  ∀ supply fault, (step supply).1 = .error (.malformed fault) → fault ∈ faults

namespace ReportsOnly

variable {α β : Type} {faults others : List Fault} {step : Expansion α}

theorem pure (value : α) : ReportsOnly [] (Pure.pure value : Expansion α) :=
  fun _ _ hfailure => nomatch hfailure

theorem malformed (fault : Fault) :
    ReportsOnly [fault] (throw (.malformed fault) : Expansion α) := by
  intro supply reported hfailure
  obtain rfl : fault = reported := Failure.malformed.inj (Except.error.inj hfailure)
  exact List.mem_singleton_self fault

theorem bind {next : α → Expansion β} (hstep : ReportsOnly faults step)
    (hnext : ∀ value, ReportsOnly others (next value)) :
    ReportsOnly (faults ++ others) (step >>= next) := by
  intro supply fault hfailure
  have hfirst := hstep supply
  rcases hrun : step supply with ⟨failure | value, after⟩
  · rw [hrun] at hfirst
    rw [Expansion.bind_of_error hrun] at hfailure
    exact List.mem_append_left _ (hfirst fault (by rw [Except.error.inj hfailure]))
  · rw [Expansion.bind_of_ok hrun] at hfailure
    exact List.mem_append_right _ (hnext value after fault hfailure)

theorem map (hstep : ReportsOnly faults step) (f : α → β) :
    ReportsOnly faults (step >>= fun value => Pure.pure (f value)) := by
  have hboth := hstep.bind fun value => pure (f value)
  rwa [List.append_nil] at hboth

theorem isolateSkip (hstep : ReportsOnly faults step) :
    ReportsOnly faults (Expansion.isolateSkip step) := by
  intro supply fault hfailure
  have hinside := hstep { supply with skipRaised := false } fault
  rcases hrun : step { supply with skipRaised := false } with ⟨failure | value, after⟩
  · rw [Expansion.isolateSkip, hrun] at hfailure
    rw [hrun] at hinside
    exact hinside (by rw [Except.error.inj hfailure])
  · rw [Expansion.isolateSkip, hrun] at hfailure
    cases hfailure

end ReportsOnly

section

variable {quoter : Quoter} {expandNested : List Char → Expansion (List Char)}

theorem reportsOnly_passGate (gated : Bool) : ReportsOnly [] (passGate gated) := by
  intro supply fault hfailure
  cases gated with
  | false => cases hfailure
  | true =>
      cases hpending : supply.pending with
      | nil =>
          rw [passGate_of_pending_nil hpending] at hfailure
          cases hfailure
      | cons value rest =>
          rw [passGate_of_pending_cons hpending] at hfailure
          cases hfailure

theorem toFailure_ne_malformed (refusal : Refusal) (tag : Tag) (position : Nat) (fault : Fault) :
    refusal.toFailure tag position ≠ .malformed fault := by
  cases refusal <;> nofun

theorem reportsOnly_expandPlaceholder {tag : Tag} (htag : tag ≠ .template) :
    ReportsOnly [] (expandPlaceholder quoter expandNested tag) := by
  intro supply fault hfailure
  have hcases := placeholderRun quoter expandNested tag supply
  generalize expandPlaceholder quoter expandNested tag supply = run at hcases hfailure
  cases hcases with
  | missing hpending => cases hfailure
  | skipped hpending => cases hfailure
  | refused hpending hskip hpresent =>
      exact absurd (Except.error.inj hfailure) (toFailure_ne_malformed _ _ _ _)
  | literal hpending hskip hpresent => cases hfailure
  | template hpending hskip hpresent => exact absurd hpresent (present_ne_template htag _ _)

theorem reportsOnly_expandAll {alternatives : List (List Node)}
    (h : ∀ alternative ∈ alternatives, ReportsOnly (Template.faults alternative)
      (Template.expand quoter expandNested alternative)) :
    ReportsOnly (Template.allFaults alternatives)
      (Template.expandAll quoter expandNested alternatives) := by
  induction alternatives with
  | nil => exact .pure []
  | cons alternative rest ih =>
      have hrest := ih fun other hmem => h other (List.mem_cons_of_mem _ hmem)
      exact (h alternative (List.mem_cons_self ..)).bind fun _ => hrest.map _

/-- An expansion without nested templates reports faults of its own tree only. -/
theorem reportsOnly_expand {nodes : List Node} (hself : Template.selfContained nodes) :
    ReportsOnly (Template.faults nodes) (Template.expand quoter expandNested nodes) := by
  have hcons : ∀ {node : Node} {rest : List Node},
      ReportsOnly node.faults (node.expand quoter expandNested) →
      ReportsOnly (Template.faults rest) (Template.expand quoter expandNested rest) →
      ReportsOnly (Template.faults (node :: rest))
        (Template.expand quoter expandNested (node :: rest)) :=
    fun hnode hrest => hnode.bind fun _ => hrest.map _
  induction nodes using Template.induction with
  | nil => exact .pure []
  | verbatim text rest ih => exact hcons (.pure text) (ih hself)
  | placeholder tag rest ih =>
      rw [Template.selfContained, Node.selfContained, Bool.and_eq_true, decide_eq_true_iff] at hself
      exact hcons (reportsOnly_expandPlaceholder hself.1) (ih hself.2)
  | block gated alternatives rest ihalternatives ih =>
      rw [Template.selfContained, Node.selfContained, Bool.and_eq_true] at hself
      have hinside := reportsOnly_expandAll fun alternative hmem =>
        ihalternatives alternative hmem (selfContained_of_mem hself.1 hmem)
      exact hcons ((reportsOnly_passGate gated).bind fun _ => hinside.isolateSkip.map _)
        (ih hself.2)
  | fault fault rest ih => exact hcons (.malformed fault) (ih hself)

end

/-! ## Whole expansions -/

namespace Expander

variable {expander : Expander} {template : String} {parameters : List Value} {fault : Fault}

theorem mem_faults_of_malformed (hself : Template.selfContained (Template.read template.toList))
    (h : expander.expand template parameters = .error (.malformed fault)) :
    fault ∈ Template.faults (Template.read template.toList) := by
  have hfailure := (expand_eq_error_iff (Nat.le_refl _)).1 h
  rw [expandWithin_eq] at hfailure
  exact reportsOnly_expand hself _ fault hfailure

/-- **Where a malformed template is malformed.**  The problem that a failure reports
starts in the template, outside of all closed literal regions, at the reported offset
from some start.  The start is that of the template if the problem lies outside of all
blocks, as every problem with a brace does.  A region inside of a block is counted from
the start of the innermost alternative around it: between that start and the region
there is no bar and no brace without its partner. -/
theorem malformed_place (hself : Template.selfContained (Template.read template.toList))
    (h : expander.expand template parameters = .error (.malformed fault)) :
    ∃ start, fault.problem.StartsAt template.toList (start + fault.offset) ∧
      (∃ c, (start + fault.offset, c) ∈ structural template.toList 0) ∧
      ((start = 0 ∧ balanced 0 (lexemes (template.toList.take fault.offset))) ∨
        (StartsAlternative template.toList start ∧
          isAlternative 0 (lexemes ((template.toList.drop start).take fault.offset)) ∧
          ∃ kind, fault.problem = .unclosedRegion kind)) := by
  rcases site_of_mem_faults (mem_faults_of_malformed hself h) with
    ⟨inside, c, after, hparts, hinside, hstarts, hoffset⟩ |
    ⟨front, mark, rest, hparts, hmark, inside, c, after, kind, rfl, hinside, hopening, rfl⟩
  · rw [Nat.zero_add] at hoffset
    have hfront : lexemes (inside.flatMap Lexeme.text) = inside :=
      (lexed_of_lexemes hparts).of_append
    refine ⟨0, ?_, ⟨c, ?_⟩, Or.inl ⟨rfl, ?_⟩⟩
    · rw [Nat.zero_add, hoffset]
      exact hstarts.startsAt hparts fun _ => hinside
    · rw [Nat.zero_add, hoffset]
      exact mem_structural hparts
    · rw [hoffset, take_length_front hparts, hfront]
      exact hinside
  · -- the characters up to the start, and those from the start to the region
    have hstart : lexemes template.toList =
        (front ++ [Lexeme.char mark]) ++ (inside ++ .char c :: after) := by
      rw [hparts, List.append_assoc]
      rfl
    have hplace : lexemes template.toList =
        (front ++ [Lexeme.char mark] ++ inside) ++ .char c :: after := by
      rw [hstart, List.append_assoc (front ++ _)]
    have hcount : (((front ++ [Lexeme.char mark] ++ inside).flatMap Lexeme.text)).length =
        ((front ++ [Lexeme.char mark]).flatMap Lexeme.text).length +
          (inside.flatMap Lexeme.text).length := by
      rw [List.flatMap_append, List.length_append]
    have hinner : lexemes (inside.flatMap Lexeme.text) = inside :=
      (lexed_of_lexemes hstart).of_suffix.of_append
    refine ⟨((front ++ [Lexeme.char mark]).flatMap Lexeme.text).length, ?_, ⟨c, ?_⟩,
      Or.inr ⟨⟨(front.flatMap Lexeme.text).length, mark, ?_, hmark, mem_structural hparts⟩, ?_,
        kind, rfl⟩⟩
    · rw [← hcount]
      exact Problem.StartsWith.startsAt hplace hopening nofun
    · rw [← hcount]
      exact mem_structural hplace
    · rw [List.flatMap_append, List.length_append]
      rfl
    · rw [drop_length_front hstart, List.flatMap_append, List.take_left, hinner]
      exact hinside

/-- A string in the second alternative of a block inside of a block.  The offset is
counted from the bar in front of it. -/
theorem malformed_place_nested :
    (Expander.ofProfile {}).expand "a \x7bb \x7b? c | 'd' \x22e\x7d\x7d" [.null] =
      .error (.malformed ⟨.unclosedRegion .doubleQuoted, 5⟩) ∧
    ∃ start, Problem.StartsAt (.unclosedRegion .doubleQuoted)
        "a \x7bb \x7b? c | 'd' \x22e\x7d\x7d".toList (start + 5) ∧
      (∃ c, (start + 5, c) ∈ structural "a \x7bb \x7b? c | 'd' \x22e\x7d\x7d".toList 0) ∧
      ((start = 0 ∧ balanced 0 (lexemes ("a \x7bb \x7b? c | 'd' \x22e\x7d\x7d".toList.take 5))) ∨
        (StartsAlternative "a \x7bb \x7b? c | 'd' \x22e\x7d\x7d".toList start ∧
          isAlternative 0
            (lexemes (("a \x7bb \x7b? c | 'd' \x22e\x7d\x7d".toList.drop start).take 5)) ∧
          ∃ kind, Problem.unclosedRegion .doubleQuoted = .unclosedRegion kind)) := by
  have hmalformed : (Expander.ofProfile {}).expand "a \x7bb \x7b? c | 'd' \x22e\x7d\x7d" [.null] =
      .error (.malformed ⟨.unclosedRegion .doubleQuoted, 5⟩) := by decide +kernel
  exact ⟨hmalformed, malformed_place (by decide +kernel) hmalformed⟩

/-- **An offset inside of a block is no place in the template.**  A string in a block is
never closed; what stands at the reported offset of the template is a letter. -/
theorem malformed_offset_in_block :
    Template.selfContained (Template.read "SELECT 1 \x7bWHERE x = 'a\x7d".toList) ∧
    (Expander.ofProfile {}).expand "SELECT 1 \x7bWHERE x = 'a\x7d" [] =
      .error (.malformed ⟨.unclosedRegion .singleQuoted, 10⟩) ∧
    "SELECT 1 \x7bWHERE x = 'a\x7d".toList[10]? = some 'W' ∧
    ¬ Problem.StartsAt (.unclosedRegion .singleQuoted)
      "SELECT 1 \x7bWHERE x = 'a\x7d".toList 10 := by
  refine ⟨by decide +kernel, by decide +kernel, by decide +kernel, ?_⟩
  rintro ⟨hopening, -⟩
  revert hopening
  decide +kernel

end Expander

end SqlTemplate
