import SqlTemplate.Proofs.Expansion.Steps
import SqlTemplate.Proofs.Template.Slots

/-!
# The layout of a statement

The layout of a statement shows which part of it comes from where: text that was
copied, slots with the text of their placeholders, and blocks with all of their
alternatives, kept or dropped.  Slots are numbered from left to right, so for a
template without nested ones the number of a slot is the index of the parameter
that it takes, and the layout can be told from the tree and the parameters without
running the expansion (`Template.layout`).

`Layout.erase` removes what belongs to one slot and leaves everything else as it
is: the text of a placeholder that stands outside of all blocks, and otherwise the
text of the innermost block around the slot.  This is what the skip mark does
(`text_layout_set_skip`).
-/

namespace SqlTemplate

/-- A part of a statement. -/
inductive Piece where
  | copied (text : List Char)
  /-- A placeholder that takes the parameter at an index. -/
  | slot (index : Nat) (text : List Char)
  /-- A block with the index of its gate, if it has one.  It stands in the statement
  if it is kept. -/
  | block (kept : Bool) (gate : Option Nat) (alternatives : List (List Piece))

/-- The parts of a statement from left to right. -/
abbrev Layout := List Piece

/-! ## What a layout says -/

mutual

/-- The text of a part. -/
def Piece.text : Piece → List Char
  | .copied text => text
  | .slot _ text => text
  | .block kept _ alternatives => if kept then Layout.firstText alternatives else []

/-- The text of a layout. -/
def Layout.text : List Piece → List Char
  | [] => []
  | piece :: rest => piece.text ++ Layout.text rest

/-- The text of the first one of several layouts, as a block shows it. -/
def Layout.firstText : List (List Piece) → List Char
  | [] => []
  | first :: _ => ' ' :: Layout.text first ++ [' ']

end

mutual

/-- All indices in a part. -/
def Piece.indices : Piece → List Nat
  | .copied _ => []
  | .slot index _ => [index]
  | .block _ gate alternatives => gate.toList ++ Layout.allIndices alternatives

/-- All indices in a layout. -/
def Layout.indices : List Piece → List Nat
  | [] => []
  | piece :: rest => piece.indices ++ Layout.indices rest

/-- All indices in several layouts. -/
def Layout.allIndices : List (List Piece) → List Nat
  | [] => []
  | layout :: rest => Layout.indices layout ++ Layout.allIndices rest

end

/-- The index of a part that is a slot. -/
def Piece.slotIndex? : Piece → Option Nat
  | .slot index _ => some index
  | _ => none

/-- The indices of the slots in a layout that are in none of its blocks. -/
def Layout.slots (layout : List Piece) : List Nat :=
  layout.filterMap Piece.slotIndex?

/-- The indices that belong to a block and to no block inside of it. -/
def Layout.owned (gate : Option Nat) (alternatives : List (List Piece)) : List Nat :=
  gate.toList ++ alternatives.flatMap Layout.slots

mutual

/-- A part without the text that belongs to an index. -/
def Piece.erase (index : Nat) : Piece → Piece
  | .copied text => .copied text
  | .slot other text => .slot other (if other = index then [] else text)
  | .block kept gate alternatives =>
      if index ∈ Layout.owned gate alternatives then .block false gate alternatives
      else .block kept gate (Layout.eraseAll index alternatives)

/-- A layout without the text that belongs to an index. -/
def Layout.erase (index : Nat) : List Piece → List Piece
  | [] => []
  | piece :: rest => piece.erase index :: Layout.erase index rest

/-- Several layouts without the text that belongs to an index. -/
def Layout.eraseAll (index : Nat) : List (List Piece) → List (List Piece)
  | [] => []
  | layout :: rest => Layout.erase index layout :: Layout.eraseAll index rest

end

/-! ## The layout of an expansion -/

/-- Whether the parameter at an index is the skip mark. -/
def skippedAt (parameters : List Value) (index : Nat) : Bool :=
  parameters[index]?.any Value.isSkip

theorem skippedAt_of_getElem? {parameters : List Value} {index : Nat} {value : Value}
    (h : parameters[index]? = some value) : skippedAt parameters index = value.isSkip := by
  rw [skippedAt, h, Option.any_some]

section

variable (quoter : Quoter) (parameters : List Value)

/-- The text that a placeholder makes of the parameter at an index, if it accepts
the parameter. -/
def slotText? (tag : Tag) (index : Nat) : Option (List Char) :=
  match parameters[index]? with
  | none => none
  | some .skip => some []
  | some value =>
      match present quoter tag value with
      | .ok (.literal text) => some text
      | _ => none

variable {quoter parameters} in
theorem slotText?_of_ne_skip {tag : Tag} {index : Nat} {value : Value}
    (hvalue : parameters[index]? = some value) (hskip : value ≠ .skip) :
    slotText? quoter parameters tag index =
      match present quoter tag value with
      | .ok (.literal text) => some text
      | _ => none := by
  rw [slotText?, hvalue]
  cases value with
  | skip => exact absurd rfl hskip
  | _ => rfl

mutual

/-- The layout of a node whose first slot has the given index. -/
def Node.layout : Node → Nat → Piece
  | .verbatim text, _ => .copied text
  | .placeholder tag, start => .slot start ((slotText? quoter parameters tag start).getD [])
  | .block gated alternatives, start =>
      let gate := if gated then some start else none
      let inside := Template.allLayouts alternatives (start + gated.toNat)
      .block (!(Layout.owned gate inside).any (skippedAt parameters)) gate inside
  | .fault _, _ => .copied []

/-- The layout of a template whose first slot has the given index. -/
def Template.layout : List Node → Nat → List Piece
  | [], _ => []
  | node :: rest, start => node.layout start :: Template.layout rest (start + node.slotCount)

/-- The layouts of several templates one after the other. -/
def Template.allLayouts : List (List Node) → Nat → List (List Piece)
  | [], _ => []
  | template :: rest, start =>
      Template.layout template start ::
        Template.allLayouts rest (start + Template.slotCount template)

end

end

/-! ## Indices -/

section

variable {quoter : Quoter} {parameters : List Value}

theorem allIndices_allLayouts {alternatives : List (List Node)}
    (h : ∀ alternative ∈ alternatives, ∀ start,
      Layout.indices (Template.layout quoter parameters alternative start) =
        List.range' start (Template.slotCount alternative)) (start : Nat) :
    Layout.allIndices (Template.allLayouts quoter parameters alternatives start) =
      List.range' start (Template.slotCountAll alternatives) := by
  induction alternatives generalizing start with
  | nil => rfl
  | cons alternative rest ih =>
      have hrest := ih fun other hmem => h other (List.mem_cons_of_mem _ hmem)
      rw [Template.allLayouts, Layout.allIndices, h alternative (List.mem_cons_self ..), hrest,
        Template.slotCountAll, List.range'_append_1]

/-- Every slot has an index of its own, and the indices go from left to right. -/
theorem indices_layout (nodes : List Node) (start : Nat) :
    Layout.indices (Template.layout quoter parameters nodes start) =
      List.range' start (Template.slotCount nodes) := by
  have hcons : ∀ {node : Node} {rest : List Node},
      (∀ start, (node.layout quoter parameters start).indices =
        List.range' start node.slotCount) →
      (∀ start, Layout.indices (Template.layout quoter parameters rest start) =
        List.range' start (Template.slotCount rest)) →
      ∀ start, Layout.indices (Template.layout quoter parameters (node :: rest) start) =
        List.range' start (Template.slotCount (node :: rest)) := by
    intro node rest hnode hrest start
    rw [Template.layout, Layout.indices, hnode, hrest, Template.slotCount, List.range'_append_1]
  induction nodes using Template.induction generalizing start with
  | nil => rfl
  | verbatim text rest ih => exact hcons (fun _ => rfl) ih start
  | placeholder tag rest ih => exact hcons (fun _ => rfl) ih start
  | block gated alternatives rest ihalternatives ih =>
      refine hcons (fun start => ?_) ih start
      rw [Node.layout, Piece.indices, allIndices_allLayouts ihalternatives, Node.slotCount]
      cases gated with
      | false =>
          rw [Bool.toNat_false, Nat.zero_add]
          rfl
      | true =>
          rw [Bool.toNat_true, Nat.add_comm 1, List.range'_succ]
          rfl
  | fault fault rest ih => exact hcons (fun _ => rfl) ih start

/-! ## The skip mark in place of a parameter -/

variable {index : Nat}

theorem skippedAt_set_skip (h : index < parameters.length) (other : Nat) :
    skippedAt (parameters.set index .skip) other =
      (decide (other = index) || skippedAt parameters other) := by
  rw [skippedAt, skippedAt, List.getElem?_set]
  by_cases hindex : index = other
  · subst hindex
    simp [h, Value.isSkip]
  · simp [hindex, Ne.symm hindex]

theorem slotText?_set_skip (h : index < parameters.length) (tag : Tag) (other : Nat) :
    slotText? quoter (parameters.set index .skip) tag other =
      if other = index then some [] else slotText? quoter parameters tag other := by
  rw [slotText?, slotText?, List.getElem?_set]
  by_cases hindex : index = other
  · subst hindex
    simp [h]
  · simp [hindex, Ne.symm hindex]

/-- Where the slots are does not depend on the parameters. -/
theorem slots_layout (parameters others : List Value) (nodes : List Node) (start : Nat) :
    Layout.slots (Template.layout quoter parameters nodes start) =
      Layout.slots (Template.layout quoter others nodes start) := by
  induction nodes generalizing start with
  | nil => rfl
  | cons node rest ih =>
      have hrest := ih (start + node.slotCount)
      unfold Layout.slots at hrest ⊢
      cases node <;>
        simp only [Template.layout, Node.layout, List.filterMap_cons, Piece.slotIndex?, hrest]

theorem owned_allLayouts (parameters others : List Value) (gate : Option Nat)
    (alternatives : List (List Node)) (start : Nat) :
    Layout.owned gate (Template.allLayouts quoter parameters alternatives start) =
      Layout.owned gate (Template.allLayouts quoter others alternatives start) := by
  unfold Layout.owned
  -- the gate is the same on both sides
  congr 1
  induction alternatives generalizing start with
  | nil => rfl
  | cons alternative rest ih =>
      simp only [Template.allLayouts, List.flatMap_cons, ih,
        slots_layout parameters others alternative start]

/-- A skip mark that a block owns drops the block, and any other one does not. -/
theorem any_skippedAt_set_skip (h : index < parameters.length) (owned : List Nat) :
    owned.any (skippedAt (parameters.set index .skip)) =
      (decide (index ∈ owned) || owned.any (skippedAt parameters)) := by
  induction owned with
  | nil => rfl
  | cons other rest ih =>
      rw [List.any_cons, List.any_cons, ih, skippedAt_set_skip h]
      by_cases hindex : other = index
      · simp [hindex]
      · simp [hindex, Ne.symm hindex, Bool.or_left_comm]

theorem text_block_set_skip (h : index < parameters.length) (gated : Bool)
    (alternatives : List (List Node)) (start : Nat)
    (hfirst : ∀ alternative ∈ alternatives, ∀ start,
      Layout.text (Template.layout quoter (parameters.set index .skip) alternative start) =
        Layout.text (Layout.erase index (Template.layout quoter parameters alternative start))) :
    ((Node.block gated alternatives).layout quoter (parameters.set index .skip) start).text =
      (((Node.block gated alternatives).layout quoter parameters start).erase index).text := by
  -- only the first alternative is ever shown, so the others need not agree
  have htext : Layout.firstText (Template.allLayouts quoter (parameters.set index .skip)
        alternatives (start + gated.toNat)) =
      Layout.firstText (Layout.eraseAll index (Template.allLayouts quoter parameters
        alternatives (start + gated.toNat))) := by
    cases alternatives with
    | nil => rfl
    | cons alternative rest =>
        simp only [Template.allLayouts, Layout.eraseAll, Layout.firstText,
          hfirst alternative (List.mem_cons_self ..)]
  simp only [Node.layout, Piece.erase]
  rw [owned_allLayouts (parameters.set index .skip) parameters, any_skippedAt_set_skip h]
  generalize (if gated = true then some start else none) = gate
  split
  · next howned => simp [Piece.text, howned]
  · next howned => simp [Piece.text, howned, htext]

/-- **The skip mark erases what belongs to its slot.**  If a parameter is replaced by
the skip mark, the text of the layout is the old one without what belongs to the
parameter. -/
theorem text_layout_set_skip (h : index < parameters.length) (nodes : List Node) (start : Nat) :
    Layout.text (Template.layout quoter (parameters.set index .skip) nodes start) =
      Layout.text (Layout.erase index (Template.layout quoter parameters nodes start)) := by
  have hcons : ∀ {node : Node} {rest : List Node},
      (∀ start, (node.layout quoter (parameters.set index .skip) start).text =
        ((node.layout quoter parameters start).erase index).text) →
      (∀ start, Layout.text (Template.layout quoter (parameters.set index .skip) rest start) =
        Layout.text (Layout.erase index (Template.layout quoter parameters rest start))) →
      ∀ start,
        Layout.text (Template.layout quoter (parameters.set index .skip) (node :: rest) start) =
          Layout.text
            (Layout.erase index (Template.layout quoter parameters (node :: rest) start)) := by
    intro node rest hnode hrest start
    simp only [Template.layout, Layout.erase, Layout.text, hnode, hrest]
  induction nodes using Template.induction generalizing start with
  | nil => rfl
  | verbatim text rest ih => exact hcons (fun _ => rfl) ih start
  | placeholder tag rest ih =>
      refine hcons (fun start => ?_) ih start
      simp only [Node.layout, Piece.erase, Piece.text, slotText?_set_skip h]
      split <;> rfl
  | block gated alternatives rest ihalternatives ih =>
      exact hcons (fun start => text_block_set_skip h gated alternatives start ihalternatives) ih
        start
  | fault fault rest ih => exact hcons (fun _ => rfl) ih start

end

end SqlTemplate
