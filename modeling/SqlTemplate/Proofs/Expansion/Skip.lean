import SqlTemplate.Proofs.Expansion.Layout
import SqlTemplate.Proofs.Expansion.Prefix

/-!
# A skip mark acts on the nearest block

If one of the parameters that an expansion consumed is replaced by the skip mark,
the expansion still succeeds and consumes as many parameters, and the statement
changes in one place: a placeholder outside of all blocks loses its text, and any
other slot takes the text of the innermost block around it with it
(`expand_set_skip`).

## Strategy

The expansion of a template without nested ones succeeds exactly if every slot
accepts the parameter at its index, and then its text is the text of the layout
(`expand_eq_ok_iff_layout`).  The skip mark is accepted everywhere, so it is left to
compare two layouts, and no second run has to be followed step by step.
-/

namespace SqlTemplate

/-! ## Parameters that are accepted -/

section

variable (quoter : Quoter) (parameters : List Value)

mutual

/-- Whether the slots of a node accept their parameters, the first of which has the
given index. -/
def Node.suits : Node → Nat → Bool
  | .verbatim _, _ => true
  | .placeholder tag, start => (slotText? quoter parameters tag start).isSome
  | .block gated alternatives, start =>
      (!gated || start < parameters.length) &&
        Template.allSuit alternatives (start + gated.toNat)
  | .fault _, _ => false

/-- Whether the slots of a template accept their parameters. -/
def Template.suits : List Node → Nat → Bool
  | [], _ => true
  | node :: rest, start => node.suits start && Template.suits rest (start + node.slotCount)

/-- Whether the slots of several templates accept their parameters. -/
def Template.allSuit : List (List Node) → Nat → Bool
  | [], _ => true
  | template :: rest, start =>
      Template.suits template start &&
        Template.allSuit rest (start + Template.slotCount template)

end

end

section

variable {quoter : Quoter} {parameters : List Value} {index : Nat}

theorem allSuit_set_skip {alternatives : List (List Node)}
    (hsuits : ∀ alternative ∈ alternatives, ∀ start,
      Template.suits quoter parameters alternative start →
        Template.suits quoter (parameters.set index .skip) alternative start)
    (start : Nat) (hall : Template.allSuit quoter parameters alternatives start) :
    Template.allSuit quoter (parameters.set index .skip) alternatives start := by
  induction alternatives generalizing start with
  | nil => rfl
  | cons alternative rest ih =>
      rw [Template.allSuit, Bool.and_eq_true] at hall ⊢
      exact ⟨hsuits alternative (List.mem_cons_self ..) _ hall.1,
        ih (fun other hmem => hsuits other (List.mem_cons_of_mem _ hmem)) _ hall.2⟩

/-- The skip mark is accepted in place of every parameter. -/
theorem suits_set_skip (h : index < parameters.length) (nodes : List Node) (start : Nat)
    (hsuits : Template.suits quoter parameters nodes start) :
    Template.suits quoter (parameters.set index .skip) nodes start := by
  have hcons : ∀ {node : Node} {rest : List Node},
      (∀ start, node.suits quoter parameters start →
        node.suits quoter (parameters.set index .skip) start) →
      (∀ start, Template.suits quoter parameters rest start →
        Template.suits quoter (parameters.set index .skip) rest start) →
      ∀ start, Template.suits quoter parameters (node :: rest) start →
        Template.suits quoter (parameters.set index .skip) (node :: rest) start := by
    intro node rest hnode hrest start hboth
    rw [Template.suits, Bool.and_eq_true] at hboth ⊢
    exact ⟨hnode start hboth.1, hrest _ hboth.2⟩
  induction nodes using Template.induction generalizing start with
  | nil => rfl
  | verbatim text rest ih => exact hcons (fun _ => id) ih start hsuits
  | placeholder tag rest ih =>
      refine hcons (fun start haccepted => ?_) ih start hsuits
      rw [Node.suits, slotText?_set_skip h]
      split
      · rfl
      · exact haccepted
  | block gated alternatives rest ihalternatives ih =>
      refine hcons (fun start haccepted => ?_) ih start hsuits
      rw [Node.suits, Bool.and_eq_true] at haccepted ⊢
      rw [List.length_set]
      exact ⟨haccepted.1, allSuit_set_skip ihalternatives _ haccepted.2⟩
  | fault fault rest ih => exact hcons (fun _ => id) ih start hsuits

end

/-! ## Runs and layouts -/

/-- What a step does that begins at the parameter with the index `start`: if its
slots accept their parameters it gives a value, takes a parameter for each slot and
may raise the skip flag, and otherwise it fails. -/
def Yields {α : Type} (parameters : List Value) (start : Nat) (suits : Bool) (value : α)
    (slots : Nat) (raised : Bool) (step : Expansion α) : Prop :=
  ∀ supply, AtCursor parameters supply → supply.taken = start →
    if suits then
      ∃ after, step supply = (.ok value, after) ∧ AtCursor parameters after ∧
        after.taken = start + slots ∧ after.skipRaised = (supply.skipRaised || raised)
    else ∃ failure, (step supply).1 = .error failure

namespace Yields

variable {α β : Type} {parameters : List Value} {start slots : Nat} {suits raised : Bool}
  {value : α} {step : Expansion α}

theorem pure (value : α) : Yields parameters start true value 0 false (Pure.pure value) := by
  intro supply hcursor hstart
  exact ⟨supply, rfl, hcursor, hstart, (Bool.or_false _).symm⟩

theorem bind {next : α → Expansion β} {result : β} {accepts flag : Bool} {more : Nat}
    (hstep : Yields parameters start suits value slots raised step)
    (hnext : Yields parameters (start + slots) accepts result more flag (next value)) :
    Yields parameters start (suits && accepts) result (slots + more) (raised || flag)
      (step >>= next) := by
  intro supply hcursor hstart
  have hfirst := hstep supply hcursor hstart
  cases suits with
  | false =>
      obtain ⟨failure, hfailure⟩ := hfirst
      exact ⟨failure, Expansion.fst_bind_of_error hfailure⟩
  | true =>
      obtain ⟨after, hrun, hafter, htaken, hraised⟩ := hfirst
      rw [Expansion.bind_of_ok hrun, Bool.true_and, ← Nat.add_assoc, ← Bool.or_assoc, ← hraised]
      exact hnext after hafter htaken

theorem map (hstep : Yields parameters start suits value slots raised step) (f : α → β) :
    Yields parameters start suits (f value) slots raised
      (step >>= fun value => Pure.pure (f value)) := by
  have hboth : Yields parameters start (suits && true) (f value) (slots + 0) (raised || false)
      (step >>= fun value => Pure.pure (f value)) := hstep.bind (pure (f value))
  rwa [Bool.and_true, Nat.add_zero, Bool.or_false] at hboth

theorem isolateSkip (hstep : Yields parameters start suits value slots raised step) :
    Yields parameters start suits (value, raised) slots false (Expansion.isolateSkip step) := by
  intro supply hcursor hstart
  have hinside := hstep { supply with skipRaised := false } ⟨hcursor.le, hcursor.pending⟩ hstart
  cases suits with
  | false =>
      obtain ⟨failure, hfailure⟩ := hinside
      exact ⟨failure, congrArg (Except.map fun value => (value, _)) hfailure⟩
  | true =>
      obtain ⟨after, hrun, hafter, htaken, hraised⟩ := hinside
      rw [Bool.false_or] at hraised
      refine ⟨{ after with skipRaised := supply.skipRaised }, ?_, ⟨hafter.le, hafter.pending⟩,
        htaken, (Bool.or_false _).symm⟩
      rw [Expansion.isolateSkip, hrun, ← hraised]
      rfl

end Yields

section

variable {quoter : Quoter} {expandNested : List Char → Expansion (List Char)}
  {parameters : List Value}

theorem yields_passGate (gated : Bool) (start : Nat) :
    Yields parameters start (!gated || start < parameters.length)
      (gated && skippedAt parameters start) gated.toNat false (passGate gated) := by
  cases gated with
  | false => exact .pure false
  | true =>
      intro supply hcursor hstart
      subst hstart
      cases hpending : supply.pending with
      | nil =>
          rw [hcursor.taken_eq_length hpending]
          simp [passGate_of_pending_nil hpending]
      | cons value rest =>
          have hvalue := hcursor.getElem?_of_pending_cons hpending
          have hlt : supply.taken < parameters.length := (List.getElem?_eq_some_iff.1 hvalue).1
          rw [passGate_of_pending_cons hpending, skippedAt_of_getElem? hvalue, decide_eq_true hlt,
            Bool.or_true, Bool.true_and]
          exact ⟨_, rfl, hcursor.of_pending_cons hpending, rfl, (Bool.or_false _).symm⟩

theorem yields_expandPlaceholder {tag : Tag} (htag : tag ≠ .template) (start : Nat) :
    Yields parameters start (slotText? quoter parameters tag start).isSome
      ((slotText? quoter parameters tag start).getD []) 1 (skippedAt parameters start)
      (expandPlaceholder quoter expandNested tag) := by
  intro supply hcursor hstart
  subst hstart
  have hcases := placeholderRun quoter expandNested tag supply
  generalize expandPlaceholder quoter expandNested tag supply = run at hcases ⊢
  cases hcases with
  | missing hpending =>
      have hvalue := hcursor.getElem?_taken
      rw [hpending, List.head?_nil] at hvalue
      simp [slotText?, hvalue]
  | skipped hpending =>
      have hvalue := hcursor.getElem?_of_pending_cons hpending
      have hafter := hcursor.of_pending_cons hpending
      have htext : slotText? quoter parameters tag supply.taken = some [] := by
        rw [slotText?, hvalue]
      rw [htext, skippedAt_of_getElem? hvalue]
      exact ⟨_, rfl, ⟨hafter.le, hafter.pending⟩, rfl, (Bool.or_true _).symm⟩
  | refused hpending hskip hpresent =>
      rw [slotText?_of_ne_skip (hcursor.getElem?_of_pending_cons hpending) hskip, hpresent]
      exact ⟨_, rfl⟩
  | literal hpending hskip hpresent =>
      have hvalue := hcursor.getElem?_of_pending_cons hpending
      rw [slotText?_of_ne_skip hvalue hskip, hpresent, skippedAt_of_getElem? hvalue,
        Value.isSkip_eq_false hskip]
      exact ⟨_, rfl, hcursor.of_pending_cons hpending, rfl, (Bool.or_false _).symm⟩
  | template hpending hskip hpresent => exact absurd hpresent (present_ne_template htag _ _)

theorem slots_cons (piece : Piece) (rest : Layout) :
    Layout.slots (piece :: rest) = piece.slotIndex?.toList ++ Layout.slots rest := by
  unfold Layout.slots
  cases piece <;> rfl

theorem blockText_map_text (layouts : List Layout) :
    blockText (layouts.map Layout.text) = Layout.firstText layouts := by
  cases layouts <;> rfl

/-- A block is dropped if a slot that it owns takes the skip mark. -/
theorem text_block_layout (gated : Bool) (alternatives : List (List Node)) (start : Nat) :
    ((Node.block gated alternatives).layout quoter parameters start).text =
      if (gated && skippedAt parameters start) ||
          ((Template.allLayouts quoter parameters alternatives (start + gated.toNat)).flatMap
            Layout.slots).any (skippedAt parameters) then []
      else blockText ((Template.allLayouts quoter parameters alternatives
        (start + gated.toNat)).map Layout.text) := by
  have howned : (Layout.owned (if gated then some start else none)
        (Template.allLayouts quoter parameters alternatives (start + gated.toNat))).any
          (skippedAt parameters) =
      ((gated && skippedAt parameters start) ||
        ((Template.allLayouts quoter parameters alternatives (start + gated.toNat)).flatMap
          Layout.slots).any (skippedAt parameters)) := by
    rw [Layout.owned, List.any_append]
    cases gated <;> simp
  rw [blockText_map_text, ← howned, Node.layout, Piece.text]
  cases (Layout.owned _ _).any _ <;> rfl

variable (quoter parameters expandNested) in
/-- A template is expanded to the text of its layout, if its parameters suit it. -/
def FollowsLayout (nodes : List Node) : Prop :=
  ∀ start, Yields parameters start (Template.suits quoter parameters nodes start)
    (Layout.text (Template.layout quoter parameters nodes start)) (Template.slotCount nodes)
    ((Layout.slots (Template.layout quoter parameters nodes start)).any (skippedAt parameters))
    (Template.expand quoter expandNested nodes)

theorem yields_expandAll {alternatives : List (List Node)}
    (h : ∀ alternative ∈ alternatives, FollowsLayout quoter expandNested parameters alternative)
    (start : Nat) :
    Yields parameters start (Template.allSuit quoter parameters alternatives start)
      ((Template.allLayouts quoter parameters alternatives start).map Layout.text)
      (Template.slotCountAll alternatives)
      (((Template.allLayouts quoter parameters alternatives start).flatMap Layout.slots).any
        (skippedAt parameters))
      (Template.expandAll quoter expandNested alternatives) := by
  induction alternatives generalizing start with
  | nil => exact .pure []
  | cons alternative rest ih =>
      have hrest := ih fun other hmem => h other (List.mem_cons_of_mem _ hmem)
      rw [Template.allLayouts, List.flatMap_cons, List.any_append]
      exact (h alternative (List.mem_cons_self ..) start).bind ((hrest _).map _)

theorem followsLayout_cons {node : Node} {rest : List Node}
    (hnode : ∀ start, Yields parameters start (node.suits quoter parameters start)
      (node.layout quoter parameters start).text node.slotCount
      ((node.layout quoter parameters start).slotIndex?.toList.any (skippedAt parameters))
      (node.expand quoter expandNested))
    (hrest : FollowsLayout quoter expandNested parameters rest) :
    FollowsLayout quoter expandNested parameters (node :: rest) := by
  intro start
  rw [Template.layout, slots_cons, List.any_append]
  exact (hnode start).bind ((hrest _).map _)

theorem followsLayout {nodes : List Node} (hself : Template.selfContained nodes) :
    FollowsLayout quoter expandNested parameters nodes := by
  induction nodes using Template.induction with
  | nil => exact fun _ => .pure []
  | verbatim text rest ih => exact followsLayout_cons (fun _ => .pure text) (ih hself)
  | placeholder tag rest ih =>
      rw [Template.selfContained, Node.selfContained, Bool.and_eq_true, decide_eq_true_iff] at hself
      refine followsLayout_cons (fun start => ?_) (ih hself.2)
      rw [Node.layout, Piece.slotIndex?, Option.toList_some, List.any_cons, List.any_nil,
        Bool.or_false]
      exact yields_expandPlaceholder hself.1 start
  | block gated alternatives rest ihalternatives ih =>
      rw [Template.selfContained, Node.selfContained, Bool.and_eq_true] at hself
      refine followsLayout_cons (fun start => ?_) (ih hself.2)
      -- the flag of the alternatives and the gate together drop the block
      have hinside := yields_expandAll
        fun alternative hmem => ihalternatives alternative hmem (selfContained_of_mem hself.1 hmem)
      rw [text_block_layout]
      exact (yields_passGate gated start).bind ((hinside (start + gated.toNat)).isolateSkip.map
        fun result => if (gated && skippedAt parameters start) || result.2 then []
          else blockText result.1)
  | fault fault rest ih =>
      exact followsLayout_cons (fun _ _ _ _ => ⟨_, rfl⟩) (ih hself)

end

/-! ## Whole expansions -/

namespace Expander

variable {expander : Expander} {template : String} {parameters : List Value}

/-- An expansion without nested templates succeeds exactly if all parameters are
accepted, and then its layout says what it gives. -/
theorem expand_eq_ok_iff_layout (hself : Template.selfContained (Template.read template.toList))
    {expanded : Expanded} :
    expander.expand template parameters = .ok expanded ↔
      Template.suits expander.quoter parameters (Template.read template.toList) 0 ∧
        expanded =
          { sql := String.ofList (Layout.text (Template.layout expander.quoter parameters
              (Template.read template.toList) 0))
            consumed := Template.slotCount (Template.read template.toList)
            supplied := parameters.length
            dialect := expander.quoter.dialect } := by
  have hcursor : AtCursor parameters (Supply.ofList parameters) := ⟨Nat.zero_le _, rfl⟩
  have hfollows : FollowsLayout expander.quoter (nestedAt expander.quoter parameters.length)
    parameters _ := followsLayout hself
  have hrun := hfollows 0 (Supply.ofList parameters) hcursor rfl
  rw [← expandWithin_eq] at hrun
  rw [expand_eq_ok_iff (Nat.le_refl _)]
  cases hsuits : Template.suits expander.quoter parameters (Template.read template.toList) 0 with
  | false =>
      rw [hsuits] at hrun
      obtain ⟨failure, hfailure⟩ := hrun
      rw [hfailure]
      simp
  | true =>
      rw [hsuits] at hrun
      obtain ⟨after, hok, -, htaken, -⟩ := hrun
      rw [hok, htaken, Nat.zero_add]
      simp

/-- **A skip mark acts on the nearest block and on nothing else.**  The layout of a
successful expansion without nested templates has the text of the statement and a
place for every parameter that was consumed.  With the skip mark for one of these
parameters the expansion succeeds again, and from its statement only that is missing
which belongs to the parameter in the layout. -/
theorem expand_set_skip (hself : Template.selfContained (Template.read template.toList))
    {expanded : Expanded} (h : expander.expand template parameters = .ok expanded) :
    let layout := Template.layout expander.quoter parameters (Template.read template.toList) 0
    expanded.sql = String.ofList (Layout.text layout) ∧
      Layout.indices layout = List.range expanded.consumed ∧
      ∀ index < expanded.consumed,
        expander.expand template (parameters.set index .skip) =
          .ok { expanded with sql := String.ofList (Layout.text (Layout.erase index layout)) } := by
  have hcount := consumed_le h
  obtain ⟨hsuits, rfl⟩ := (expand_eq_ok_iff_layout hself).1 h
  -- both runs are read off their layouts
  refine ⟨rfl, ?_, fun index hindex => ?_⟩
  · rw [indices_layout, List.range_eq_range']
  · have hlt : index < parameters.length := Nat.lt_of_lt_of_le hindex hcount
    refine (expand_eq_ok_iff_layout hself).2 ⟨suits_set_skip hlt _ _ hsuits, ?_⟩
    rw [text_layout_set_skip hlt, List.length_set]

/-- Parameters that belong to a placeholder outside of all blocks, to the gate of an
inner block, to a block that is not shown anyway, and to a placeholder in an
alternative that is not kept. -/
theorem expand_set_skip_nested :
    (Expander.ofProfile {}).expand "?{a ?d{?b ?|{?}}|{?#}?}{c}"
        [.int 0, .int 1, .null, .int 2, .int 3, .text "t", .int 4] =
      .ok ⟨"0 a 1  b 2   c ", 7, 7, "mysql"⟩ ∧
    (Expander.ofProfile {}).expand "?{a ?d{?b ?|{?}}|{?#}?}{c}"
        [.skip, .int 1, .null, .int 2, .int 3, .text "t", .int 4] =
      .ok ⟨" a 1  b 2   c ", 7, 7, "mysql"⟩ ∧
    (Expander.ofProfile {}).expand "?{a ?d{?b ?|{?}}|{?#}?}{c}"
        [.int 0, .int 1, .skip, .int 2, .int 3, .text "t", .int 4] =
      .ok ⟨"0 a 1  c ", 7, 7, "mysql"⟩ ∧
    (Expander.ofProfile {}).expand "?{a ?d{?b ?|{?}}|{?#}?}{c}"
        [.int 0, .int 1, .null, .int 2, .skip, .text "t", .int 4] =
      .ok ⟨"0 a 1  b 2   c ", 7, 7, "mysql"⟩ ∧
    (Expander.ofProfile {}).expand "?{a ?d{?b ?|{?}}|{?#}?}{c}"
        [.int 0, .int 1, .null, .int 2, .int 3, .text "t", .skip] =
      .ok ⟨"0 c ", 7, 7, "mysql"⟩ := by
  have hself : Template.selfContained (Template.read "?{a ?d{?b ?|{?}}|{?#}?}{c}".toList) := by
    decide +kernel
  have hexpanded : (Expander.ofProfile {}).expand "?{a ?d{?b ?|{?}}|{?#}?}{c}"
      [.int 0, .int 1, .null, .int 2, .int 3, .text "t", .int 4] =
        .ok ⟨"0 a 1  b 2   c ", 7, 7, "mysql"⟩ := by decide +kernel
  obtain ⟨-, -, hskip⟩ := expand_set_skip hself hexpanded
  refine ⟨hexpanded, ?_, ?_, ?_, ?_⟩
  · exact (hskip 0 (by decide)).trans (by decide +kernel)
  · exact (hskip 2 (by decide)).trans (by decide +kernel)
  · exact (hskip 4 (by decide)).trans (by decide +kernel)
  · exact (hskip 6 (by decide)).trans (by decide +kernel)

end Expander

end SqlTemplate
