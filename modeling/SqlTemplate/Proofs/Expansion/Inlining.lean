import SqlTemplate.Proofs.Expansion.Consumption
import SqlTemplate.Proofs.Expansion.Spared
import SqlTemplate.Proofs.Template.Insertion

/-!
# Nested templates written in place

A template that is nested in another one may as well be written in its place.  The slot that
takes the nested template stands on a line of its own, at any depth of blocks and in any
alternative; the text of the nested template is written on that line, and the parameter is
left out.  The statement is the same (`Expander.expand_inline`).

## Strategy

On the side of the text, the nodes of the nested template stand where the slot stood, and
everything around them is the same (`exists_surroundings`).

On the side of the runs, the second one is compared with the first one step by step
(`Inlines`).  Up to the slot, and again behind it, the runs are the same but for a parameter
that they do not take (`Spares`).  At the slot, the first run takes the parameter and
expands the nested template; the second one expands its nodes.  The comparison is carried
outwards through the alternatives and blocks around the slot (`inlines_complete`).  The skip
flag needs no care, since a nested template raises the flag of the block that it stands in.
-/

namespace SqlTemplate

/-! ## The parameters of the slots -/

/-- The index of the parameter that a gate takes. -/
def gateIndices (gated : Bool) (supply : Supply) : List Nat :=
  if gated then [supply.taken] else []

section

variable (quoter : Quoter)

mutual

/-- The indices of the parameters that the slots of a node take when its expansion
succeeds.  The slots of nested templates are left out. -/
def Node.slotIndices : Node → Supply → List Nat
  | .verbatim _, _ | .fault _, _ => []
  | .placeholder _, supply => [supply.taken]
  | .block gated alternatives, supply =>
      gateIndices gated supply ++
        Template.slotIndicesAll alternatives { (passGate gated supply).2 with skipRaised := false }

/-- The indices of the parameters that the slots of a template take. -/
def Template.slotIndices : List Node → Supply → List Nat
  | [], _ => []
  | node :: rest, supply =>
      node.slotIndices supply ++
        Template.slotIndices rest (node.expand quoter (expandText quoter) supply).2

/-- The indices of the parameters that the slots of several templates take. -/
def Template.slotIndicesAll : List (List Node) → Supply → List Nat
  | [], _ => []
  | template :: rest, supply =>
      Template.slotIndices template supply ++
        Template.slotIndicesAll rest (Template.expand quoter (expandText quoter) template supply).2

end

theorem length_gateIndices (gated : Bool) (supply : Supply) :
    (gateIndices gated supply).length = gated.toNat := by
  cases gated <;> rfl

theorem length_slotIndicesAll {alternatives : List (List Node)}
    (h : ∀ alternative ∈ alternatives, ∀ supply,
      (Template.slotIndices quoter alternative supply).length = Template.slotCount alternative)
    (supply : Supply) :
    (Template.slotIndicesAll quoter alternatives supply).length =
      Template.slotCountAll alternatives := by
  induction alternatives generalizing supply with
  | nil => rfl
  | cons alternative rest ih =>
      have hrest := ih fun other hmem => h other (List.mem_cons_of_mem _ hmem)
      rw [Template.slotIndicesAll, List.length_append, h _ (List.mem_cons_self ..), hrest,
        Template.slotCountAll]

/-- Every slot has an index. -/
theorem length_slotIndices (nodes : List Node) (supply : Supply) :
    (Template.slotIndices quoter nodes supply).length = Template.slotCount nodes := by
  induction nodes using Template.induction generalizing supply with
  | nil => rfl
  | verbatim text rest ih | fault fault rest ih =>
      rw [Template.slotIndices, List.length_append, ih, Template.slotCount]
      rfl
  | placeholder tag rest ih =>
      rw [Template.slotIndices, List.length_append, ih, Template.slotCount]
      rfl
  | block gated alternatives rest ihalternatives ih =>
      rw [Template.slotIndices, List.length_append, ih, Template.slotCount, Node.slotIndices,
        List.length_append, length_gateIndices, length_slotIndicesAll quoter ihalternatives,
        Node.slotCount]

theorem length_node_slotIndices (node : Node) (supply : Supply) :
    (node.slotIndices quoter supply).length = node.slotCount := by
  have hsingle := length_slotIndices quoter [node] supply
  rwa [Template.slotIndices, Template.slotIndices, List.append_nil, Template.slotCount,
    Template.slotCount, Nat.add_zero] at hsingle

end

namespace Expander

/-- The slots of a template, each with the place of its question mark and the index of the
parameter that it takes. -/
def slots (expander : Expander) (template : String) (parameters : List Value) :
    List (Nat × Nat) :=
  (slotPlaces template.toList).zip
    (Template.slotIndices expander.quoter (Template.read template.toList)
      (Supply.ofList parameters))

end Expander

/-! ## Comparing two runs -/

/-- Whenever a step takes the parameter at an index for the slot with a number, another step
comes to the same without that parameter. -/
def Inlines {α : Type} (parameters : List Value) (index number : Nat) (step other : Expansion α)
    (indices : Supply → List Nat) : Prop :=
  ∀ supply value after, AtCursor parameters supply → step supply = (.ok value, after) →
    (indices supply)[number]? = some index →
      supply.taken ≤ index ∧ index < after.taken ∧
        other (supply.without index) = (.ok value, after.without index)

namespace Inlines

variable {α β : Type} {parameters : List Value} {index number : Nat} {step other : Expansion α}
  {indices : Supply → List Nat}

theorem map (h : Inlines parameters index number step other indices) (f : α → β) :
    Inlines parameters index number (step >>= fun value => pure (f value))
      (other >>= fun value => pure (f value)) indices := by
  intro supply result last hcursor hrun hindex
  obtain ⟨value, mid, hstep, hresult⟩ := Expansion.exists_of_bind_ok hrun
  cases hresult
  obtain ⟨hle, hlt, hother⟩ := h supply value last hcursor hstep hindex
  refine ⟨hle, hlt, ?_⟩
  rw [Expansion.bind_of_ok hother]
  rfl

/-- Behind the slot, a step goes on without the parameter. -/
theorem behind {next : α → Expansion β} {others : Supply → List Nat}
    (h : Inlines parameters index number step other indices)
    (hnumber : ∀ supply, number < (indices supply).length)
    (hnext : ∀ value, Spares index β (next value)) :
    Inlines parameters index number (step >>= next) (other >>= next) fun supply =>
      indices supply ++ others supply := by
  intro supply result last hcursor hrun hindex
  obtain ⟨value, after, hstep, hbehind⟩ := Expansion.exists_of_bind_ok hrun
  rw [List.getElem?_append_left (hnumber supply)] at hindex
  obtain ⟨hle, hlt, hother⟩ := h supply value after hcursor hstep hindex
  obtain ⟨hlast, hwithout⟩ := hnext value after result last hbehind
  refine ⟨hle, Nat.lt_of_lt_of_le hlt hlast, ?_⟩
  rw [Expansion.bind_of_ok hother]
  exact hwithout (Or.inr hlt)

/-- In front of the slot, a step does not come to the parameter. -/
theorem front {before : Expansion β} {next following : β → Expansion α}
    {first : Supply → List Nat} {count : Nat}
    (hdetermined : Determined β before) (hbefore : Spares index β before)
    (hcount : ∀ supply, (first supply).length = count)
    (h : ∀ value, Inlines parameters index number (next value) (following value) indices) :
    Inlines parameters index (count + number) (before >>= next) (before >>= following)
      fun supply => first supply ++ indices (before supply).2 := by
  intro supply result last hcursor hrun hindex
  obtain ⟨value, mid, hstep, hbehind⟩ := Expansion.exists_of_bind_ok hrun
  have hmid := hcursor.after hdetermined
  have hfirst : (first supply).length ≤ count + number := by
    rw [hcount]
    exact Nat.le_add_right ..
  rw [hstep] at hmid
  rw [List.getElem?_append_right hfirst, hcount, Nat.add_sub_cancel_left, hstep] at hindex
  obtain ⟨hle, hlt, hother⟩ := h value mid result last hmid hbehind hindex
  obtain ⟨htaken, hwithout⟩ := hbefore supply value mid hstep
  refine ⟨Nat.le_trans htaken hle, hlt, ?_⟩
  rw [Expansion.bind_of_ok (hwithout (Or.inl hle))]
  exact hother

theorem isolateSkip (h : Inlines parameters index number step other indices) :
    Inlines parameters index number (Expansion.isolateSkip step) (Expansion.isolateSkip other)
      fun supply => indices { supply with skipRaised := false } := by
  intro supply result last hcursor hrun hindex
  obtain ⟨value, after, hstep, rfl, rfl⟩ := Expansion.exists_of_isolateSkip_ok hrun
  have hinside : AtCursor parameters { supply with skipRaised := false } :=
    ⟨hcursor.le, hcursor.pending⟩
  obtain ⟨hle, hlt, hother⟩ := h _ value after hinside hstep hindex
  exact ⟨hle, hlt, Expansion.isolateSkip_without hother⟩

end Inlines

/-! ## From the slot outwards -/

section

variable {quoter : Quoter} {parameters : List Value} {index number : Nat}
  {nodes others : List Node}

theorem spares_expand (quoter : Quoter) (index : Nat) (nodes : List Node) :
    Spares index _ (Template.expand quoter (expandText quoter) nodes) :=
  (compositional_spares index).expand (spares_expandText quoter index) nodes

theorem spares_expandNode (quoter : Quoter) (index : Nat) (node : Node) :
    Spares index _ (node.expand quoter (expandText quoter)) :=
  (compositional_spares index).expandNode (spares_expandText quoter index) node

theorem determined_expand (quoter : Quoter) (nodes : List Node) :
    Determined _ (Template.expand quoter (expandText quoter) nodes) :=
  compositional_determined.expand (determined_expandText quoter) nodes

theorem determined_expandNode (quoter : Quoter) (node : Node) :
    Determined _ (node.expand quoter (expandText quoter)) :=
  compositional_determined.expandNode (determined_expandText quoter) node

variable (quoter parameters index) in
/-- The slot with a number, among the slots of a template, takes the parameter at an index,
and other nodes come to the same without that parameter. -/
structure InlinesIn (number : Nat) (nodes others : List Node) : Prop where
  lt : number < Template.slotCount nodes
  inlines : Inlines parameters index number (Template.expand quoter (expandText quoter) nodes)
    (Template.expand quoter (expandText quoter) others) (Template.slotIndices quoter nodes)

/-- At the slot itself: the nested template is expanded on the spot. -/
theorem inlines_slot {text : String} (htext : parameters[index]? = some (.text text)) :
    Inlines parameters index 0 (expandPlaceholder quoter (expandText quoter) .template)
      (Template.expand quoter (expandText quoter) (Template.read text.toList))
      fun supply => [supply.taken] := by
  intro supply value after hcursor hrun hindex
  obtain rfl : supply.taken = index := Option.some.inj hindex
  rw [hcursor.getElem?_taken] at htext
  obtain ⟨rest, hpending⟩ := List.head?_eq_some_iff.1 htext
  have hskip : Value.text text ≠ .skip := by nofun
  rw [expandPlaceholder_of_ne_skip .template hpending hskip] at hrun
  have hnested : expandText quoter text.toList
      { supply with pending := rest, taken := supply.taken + 1 } = (.ok value, after) := hrun
  obtain ⟨hle, hwithout⟩ := spares_expandText quoter supply.taken text.toList _ value after hnested
  refine ⟨Nat.le_refl _, hle, ?_⟩
  rw [← expandText_eq, ← hwithout (Or.inr (Nat.lt_succ_self _)),
    Supply.without_of_le (Nat.le_refl _), Supply.without_of_lt (Nat.lt_succ_self _), hpending,
    Nat.sub_self]
  rfl

theorem expand_append (quoter : Quoter) (front back : List Node) :
    Template.expand quoter (expandText quoter) (front ++ back) = (do
      let text ← Template.expand quoter (expandText quoter) front
      let more ← Template.expand quoter (expandText quoter) back
      return text ++ more) := by
  induction front with
  | nil =>
      rw [Template.expand, List.nil_append, pure_bind]
      exact (bind_pure _).symm
  | cons node rest ih =>
      rw [List.cons_append, Template.expand, Template.expand, ih]
      simp only [bind_assoc, pure_bind, List.append_assoc]

/-- The nodes behind the slot are expanded in both runs. -/
theorem inlinesIn_slot {text : String} (htext : parameters[index]? = some (.text text))
    (rest : List Node) :
    InlinesIn quoter parameters index 0 (.placeholder .template :: rest)
      (Template.read text.toList ++ rest) := by
  refine ⟨?_, ?_⟩
  · rw [Template.slotCount, Node.slotCount]
    omega
  · rw [expand_append]
    apply (inlines_slot htext).behind
    · intro supply
      exact Nat.zero_lt_one
    · intro front
      apply (compositional_spares index).bind (spares_expand quoter index rest)
      intro back
      exact (compositional_spares index).pure _

theorem InlinesIn.cons (node : Node) (h : InlinesIn quoter parameters index number nodes others) :
    InlinesIn quoter parameters index (node.slotCount + number) (node :: nodes) (node :: others) := by
  refine ⟨?_, ?_⟩
  · rw [Template.slotCount]
    exact Nat.add_lt_add_left h.lt _
  · apply Inlines.front (determined_expandNode quoter node) (spares_expandNode quoter index node)
      (length_node_slotIndices quoter node)
    intro text
    exact h.inlines.map _

theorem InlinesIn.append (before : List Node)
    (h : InlinesIn quoter parameters index number nodes others) :
    InlinesIn quoter parameters index (Template.slotCount before + number) (before ++ nodes)
      (before ++ others) := by
  induction before with
  | nil =>
      rw [Template.slotCount, Nat.zero_add]
      exact h
  | cons node rest ih =>
      rw [Template.slotCount, Nat.add_assoc]
      exact ih.cons node

/-- A slot in one of the alternatives of a block. -/
theorem InlinesIn.alternatives (front back : List (List Node))
    (h : InlinesIn quoter parameters index number nodes others) :
    Inlines parameters index (Template.slotCountAll front + number)
      (Template.expandAll quoter (expandText quoter) (front ++ nodes :: back))
      (Template.expandAll quoter (expandText quoter) (front ++ others :: back))
      (Template.slotIndicesAll quoter (front ++ nodes :: back)) := by
  induction front with
  | nil =>
      rw [Template.slotCountAll, Nat.zero_add]
      apply h.inlines.behind
      · intro supply
        rw [length_slotIndices]
        exact h.lt
      · intro text
        apply (compositional_spares index).bind
        · apply (compositional_spares index).expandAll
          intro alternative _
          exact spares_expand quoter index alternative
        · intro texts
          exact (compositional_spares index).pure _
  | cons first rest ih =>
      rw [Template.slotCountAll, Nat.add_assoc]
      apply Inlines.front (determined_expand quoter first) (spares_expand quoter index first)
        (length_slotIndices quoter first)
      intro text
      exact ih.map _

/-- A slot in a block, with what stands behind the block. -/
theorem InlinesIn.block (gated : Bool) (front back : List (List Node)) (behind : List Node)
    (h : InlinesIn quoter parameters index number nodes others) :
    InlinesIn quoter parameters index (gated.toNat + (Template.slotCountAll front + number))
      (.block gated (front ++ nodes :: back) :: behind)
      (.block gated (front ++ others :: back) :: behind) := by
  have hcount : gated.toNat + (Template.slotCountAll front + number) <
      (Node.block gated (front ++ nodes :: back)).slotCount := by
    have hlt := h.lt
    rw [Node.slotCount, slotCountAll_append, Template.slotCountAll]
    omega
  refine ⟨?_, ?_⟩
  · rw [Template.slotCount]
    exact Nat.lt_add_right _ hcount
  · have hblock : Inlines parameters index (gated.toNat + (Template.slotCountAll front + number))
        ((Node.block gated (front ++ nodes :: back)).expand quoter (expandText quoter))
        ((Node.block gated (front ++ others :: back)).expand quoter (expandText quoter))
        ((Node.block gated (front ++ nodes :: back)).slotIndices quoter) := by
      have hinside := fun dropped : Bool => (h.alternatives front back).isolateSkip.map
        fun result => if dropped || result.2 then [] else blockText result.1
      exact Inlines.front (compositional_determined.passGate gated)
        ((compositional_spares index).passGate gated) (length_gateIndices gated) hinside
    apply hblock.behind
    · intro supply
      rw [length_node_slotIndices]
      exact hcount
    · intro text
      apply (compositional_spares index).bind (spares_expand quoter index behind)
      intro more
      exact (compositional_spares index).pure _

/-- A slot at any depth. -/
theorem InlinesIn.complete (stack : List OpenBlock) {outer : List (List (List Node) × List Node)}
    (houter : outer.length = stack.length)
    (h : InlinesIn quoter parameters index number nodes others) :
    InlinesIn quoter parameters index (openSlots stack [] + number)
      (SqlTemplate.complete stack nodes outer) (SqlTemplate.complete stack others outer) := by
  induction stack generalizing number nodes others outer with
  | nil =>
      have hnone : openSlots [] [] = 0 := rfl
      rw [hnone, Nat.zero_add]
      exact h
  | cons block stack ih =>
      obtain _ | ⟨⟨alternatives, behind⟩, outer⟩ := outer
      · cases houter
      have hblock := (h.block block.gated block.finished.reverse alternatives behind).append
        block.before.reverse
      have hcount : openSlots (block :: stack) [] + number = openSlots stack [] +
          (Template.slotCount block.before.reverse +
            (block.gated.toNat + (Template.slotCountAll block.finished.reverse + number))) := by
        rw [slotCount_reverse, slotCountAll_reverse]
        simp only [openSlots, List.map_cons, List.sum_cons, Template.slotCount]
        omega
      rw [hcount]
      exact ih (Nat.succ.inj houter) hblock

end

/-! ## Success means no fault -/

section

variable {quoter : Quoter} {expandNested : List Char → Expansion (List Char)}

theorem allFaultFree_of_expandAll {alternatives : List (List Node)}
    (h : ∀ alternative ∈ alternatives, ∀ supply text after,
      Template.expand quoter expandNested alternative supply = (.ok text, after) →
        Template.faultFree alternative) {supply after : Supply} {texts : List (List Char)}
    (hrun : Template.expandAll quoter expandNested alternatives supply = (.ok texts, after)) :
    Template.allFaultFree alternatives := by
  induction alternatives generalizing supply texts after with
  | nil => rfl
  | cons alternative rest ih =>
      obtain ⟨text, mid, hfirst, hbehind⟩ := Expansion.exists_of_bind_ok hrun
      obtain ⟨others, last, hrest, -⟩ := Expansion.exists_of_bind_ok hbehind
      have hfree := h alternative (List.mem_cons_self ..) _ _ _ hfirst
      have hothers := ih (fun other hmem => h other (List.mem_cons_of_mem _ hmem)) hrest
      rw [Template.allFaultFree, hfree, hothers]
      rfl

/-- An expansion that succeeds has met no fault, and it meets all there are. -/
theorem faultFree_of_expand {nodes : List Node} {supply after : Supply} {text : List Char}
    (h : Template.expand quoter expandNested nodes supply = (.ok text, after)) :
    Template.faultFree nodes := by
  induction nodes using Template.induction generalizing supply text after with
  | nil => rfl
  | verbatim copied rest ih | placeholder tag rest ih =>
      obtain ⟨first, mid, -, hbehind⟩ := Expansion.exists_of_bind_ok h
      obtain ⟨others, last, hrest, -⟩ := Expansion.exists_of_bind_ok hbehind
      exact ih hrest
  | block gated alternatives rest ihalternatives ih =>
      obtain ⟨first, mid, hblock, hbehind⟩ := Expansion.exists_of_bind_ok h
      obtain ⟨others, last, hrest, -⟩ := Expansion.exists_of_bind_ok hbehind
      obtain ⟨dropped, start, -, hinside⟩ := Expansion.exists_of_bind_ok hblock
      obtain ⟨result, closed, hisolated, -⟩ := Expansion.exists_of_bind_ok hinside
      rw [Template.faultFree, ih hrest, Bool.and_true, Node.faultFree]
      obtain ⟨texts, finish, halternatives, -, -⟩ := Expansion.exists_of_isolateSkip_ok hisolated
      refine allFaultFree_of_expandAll ?_ halternatives
      intro alternative hmem _ _ _ hrun
      exact ihalternatives alternative hmem hrun
  | fault fault rest ih =>
      obtain ⟨first, mid, hfault, -⟩ := Expansion.exists_of_bind_ok h
      cases hfault

end

theorem faultFree_append (front back : List Node) :
    Template.faultFree (front ++ back) = (Template.faultFree front && Template.faultFree back) := by
  induction front with
  | nil => rfl
  | cons node rest ih =>
      rw [List.cons_append, Template.faultFree, ih, Template.faultFree, Bool.and_assoc]

theorem faultFree_of_complete {stack : List OpenBlock} {nodes : List Node}
    {outer : List (List (List Node) × List Node)}
    (h : Template.faultFree (complete stack nodes outer)) : Template.faultFree nodes := by
  induction stack generalizing nodes outer with
  | nil => exact h
  | cons block stack ih =>
      obtain _ | ⟨⟨alternatives, behind⟩, outer⟩ := outer
      · exact h
      have hwhole := ih h
      rw [faultFree_append, Template.faultFree, Node.faultFree, Bool.and_eq_true,
        Bool.and_eq_true] at hwhole
      exact faultFree_of_mem hwhole.2.1 (by simp)

/-- What becomes of a template when a text is written in place of one of its slots. -/
theorem exists_inlinesIn {quoter : Quoter} {parameters : List Value} {index number : Nat}
    {front back : List Char} {text : String} (htext : parameters[index]? = some (.text text))
    (hbar : alternatives text.toList = [text.toList])
    (hformed : wellFormed (withLine front slotLine back))
    (hplace : (slotPlaces (withLine front slotLine back))[number]? = some (front.length + 1)) :
    ∃ others, InlinesIn quoter parameters index number
        (Template.read (withLine front slotLine back)) others ∧
      (Template.faultFree others → Template.read (withLine front text.toList back) = others) := by
  obtain ⟨stack, before, behind, outer, hslots, houter, hread⟩ :=
    exists_surroundings hformed hplace
  have hslot : InlinesIn quoter parameters index 0 (Template.read slotLine ++ behind)
      (Template.read text.toList ++ behind) := by
    rw [read_slotLine]
    exact inlinesIn_slot htext behind
  have hinlines := (hslot.append before.reverse).complete stack houter
  have hnumber : openSlots stack [] + (Template.slotCount before.reverse + 0) = number := by
    rw [← hslots, slotCount_reverse]
    rfl
  rw [hnumber, ← hread slotLine wellFormed_slotLine alternatives_slotLine] at hinlines
  refine ⟨_, hinlines, ?_⟩
  intro hfree
  have hline := faultFree_of_complete hfree
  rw [faultFree_append, faultFree_append, Bool.and_eq_true, Bool.and_eq_true,
    faultFree_read] at hline
  exact hread text.toList hline.2.1 hbar

namespace Expander

variable {expander : Expander} {parameters : List Value}

theorem expand_eq_ok_iff_expandText {template : String} {expanded : Expanded} :
    expander.expand template parameters = .ok expanded ↔
      ∃ sql after, expandText expander.quoter template.toList (Supply.ofList parameters) =
          (.ok sql, after) ∧
        expanded = ⟨String.ofList sql, after.taken, parameters.length, expander.quoter.dialect⟩ := by
  constructor
  · intro h
    rw [expand] at h
    rcases hrun : expandText expander.quoter template.toList (Supply.ofList parameters) with
      ⟨failure | sql, after⟩
    · rw [hrun] at h
      cases h
    · rw [hrun] at h
      cases h
      exact ⟨sql, after, rfl, rfl⟩
  · rintro ⟨sql, after, hrun, rfl⟩
    rw [expand, hrun]
    rfl

/-- A template that is expanded has no fault. -/
theorem wellFormed_of_expand {template : String} {expanded : Expanded}
    (h : expander.expand template parameters = .ok expanded) : wellFormed template.toList := by
  obtain ⟨sql, after, hrun, -⟩ := expand_eq_ok_iff_expandText.1 h
  rw [expandText_eq] at hrun
  rw [← faultFree_read]
  exact faultFree_of_expand hrun

/-- Each question mark outside of literal regions has its slot. -/
theorem map_fst_slots {template : String} {expanded : Expanded}
    (h : expander.expand template parameters = .ok expanded) :
    (expander.slots template parameters).map Prod.fst = slotPlaces template.toList := by
  have hfree := wellFormed_of_expand h
  rw [← faultFree_read] at hfree
  apply List.map_fst_zip
  rw [length_slotIndices, slotCount_read hfree, slotPlaces, List.length_map, questionMarks,
    List.countP_eq_length_filter]

/-- **A nested template may be written in place.**  The slot stands on a line of its own and
outside of all literal regions, and it takes the text at an index.  The text has no bar
outside of its own regions and blocks, so it is a single alternative.  Written on the line of
the slot, and without the parameter, it gives the same statement, of one parameter less. -/
theorem expand_inline {front back text : String} {index : Nat} {expanded : Expanded}
    (h : expander.expand (front ++ "\n?s\n" ++ back) parameters = .ok expanded)
    (hslot : (front.length + 1, index) ∈ expander.slots (front ++ "\n?s\n" ++ back) parameters)
    (htext : parameters[index]? = some (.text text))
    (hbar : alternatives text.toList = [text.toList]) :
    ∃ inlined, expander.expand (front ++ "\n" ++ text ++ "\n" ++ back)
        (parameters.eraseIdx index) = .ok inlined ∧
      inlined.sql = expanded.sql ∧ inlined.consumed + 1 = expanded.consumed := by
  have hline : (front ++ "\n?s\n" ++ back).toList =
      withLine front.toList slotLine back.toList := by
    simp [withLine, slotLine]
  have hinline : (front ++ "\n" ++ text ++ "\n" ++ back).toList =
      withLine front.toList text.toList back.toList := by
    simp [withLine]
  have hformed := wellFormed_of_expand h
  obtain ⟨sql, after, hrun, rfl⟩ := expand_eq_ok_iff_expandText.1 h
  obtain ⟨number, hnumber⟩ := List.mem_iff_getElem?.1 hslot
  obtain ⟨hplace, hindex⟩ := List.getElem?_zip_eq_some.1 hnumber
  rw [hline] at hformed hrun hplace hindex
  obtain ⟨others, hinlines, hothers⟩ := exists_inlinesIn htext hbar hformed hplace
  have hstart : AtCursor parameters (Supply.ofList parameters) := ⟨Nat.zero_le _, rfl⟩
  rw [expandText_eq] at hrun
  obtain ⟨-, hlt, hsecond⟩ := hinlines.inlines _ sql after hstart hrun hindex
  rw [Supply.without_ofList, Supply.without_of_lt hlt, ← hothers (faultFree_of_expand hsecond),
    ← expandText_eq, ← hinline] at hsecond
  refine ⟨_, expand_eq_ok_iff_expandText.2 ⟨sql, _, hsecond, rfl⟩, rfl, ?_⟩
  exact Nat.sub_add_cancel (Nat.lt_of_le_of_lt (Nat.zero_le _) hlt)

/-- The slot stands in a block inside of another one.  The nested template has bars in a
string, in a block of its own and in a comment, which ends with the line. -/
theorem expand_inline_nested :
    (Expander.ofProfile {}).expand ("a ? \x7b? b \x7bc" ++ "\n?s\n" ++ "|?\x7d\x7d \x7be ?\x7d")
        [.int 1, .int 2, .text "x ? '|' \x7by ?d|z\x7d -- |", .text "q", .int 4, .int 5, .skip,
          .null] =
      .ok ⟨"a 1    b  c\nx 'q' '|'  y 4  -- |\n   ", 7, 8, "mysql"⟩ ∧
    ∃ inlined, (Expander.ofProfile {}).expand ("a ? \x7b? b \x7bc" ++ "\n" ++
          "x ? '|' \x7by ?d|z\x7d -- |" ++ "\n" ++ "|?\x7d\x7d \x7be ?\x7d")
        [.int 1, .int 2, .text "q", .int 4, .int 5, .skip, .null] = .ok inlined ∧
      inlined.sql = "a 1    b  c\nx 'q' '|'  y 4  -- |\n   " ∧ inlined.consumed + 1 = 7 := by
  have hexpanded : (Expander.ofProfile {}).expand
      ("a ? \x7b? b \x7bc" ++ "\n?s\n" ++ "|?\x7d\x7d \x7be ?\x7d")
      [.int 1, .int 2, .text "x ? '|' \x7by ?d|z\x7d -- |", .text "q", .int 4, .int 5, .skip,
        .null] = .ok ⟨"a 1    b  c\nx 'q' '|'  y 4  -- |\n   ", 7, 8, "mysql"⟩ := by
    decide +kernel
  have hslot : ("a ? \x7b? b \x7bc".length + 1, 2) ∈ (Expander.ofProfile {}).slots
      ("a ? \x7b? b \x7bc" ++ "\n?s\n" ++ "|?\x7d\x7d \x7be ?\x7d")
      [.int 1, .int 2, .text "x ? '|' \x7by ?d|z\x7d -- |", .text "q", .int 4, .int 5, .skip,
        .null] := by
    decide +kernel
  have hbar : alternatives "x ? '|' \x7by ?d|z\x7d -- |".toList =
      ["x ? '|' \x7by ?d|z\x7d -- |".toList] := by
    decide +kernel
  exact ⟨hexpanded, expand_inline hexpanded hslot rfl hbar⟩

end Expander

end SqlTemplate
