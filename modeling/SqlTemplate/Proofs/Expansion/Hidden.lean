import SqlTemplate.Proofs.Expansion.Skip

/-!
# Parameters that a statement does not show

Every slot takes its parameter, but not every parameter is printed.  The parameter of
a gate only decides about its block, an alternative behind the first one is expanded
and thrown away, and of a block that is dropped nothing is left.  Such parameters are
*hidden*: whatever they are, the statement is the same, as long as the skip marks stay
where they are (`expand_eq_of_hidden`).

## Strategy

The slots of a layout are divided into those that are shown and those that are hidden
(`perm_indices`), and no index is on both sides, because every slot has an index of its
own.  So two lists of parameters that differ at hidden indices only agree at all indices
that are shown.  The text of a layout is made of nothing else: which blocks are kept
depends on the skip marks alone (`text_layout_congr`).
-/

namespace SqlTemplate

/-! ## Shown and hidden indices -/

mutual

/-- The indices of the slots whose text a part shows. -/
def Piece.shown : Piece → List Nat
  | .copied _ => []
  | .slot index _ => [index]
  | .block kept _ alternatives => if kept then Layout.firstShown alternatives else []

/-- The indices of the slots whose text a layout shows. -/
def Layout.shown : List Piece → List Nat
  | [] => []
  | piece :: rest => piece.shown ++ Layout.shown rest

/-- The indices that are shown by the first one of several layouts. -/
def Layout.firstShown : List (List Piece) → List Nat
  | [] => []
  | first :: _ => Layout.shown first

end

mutual

/-- The indices in a part that are not shown: those of gates, those in alternatives
behind the first one, and those in blocks that are dropped. -/
def Piece.hidden : Piece → List Nat
  | .copied _ => []
  | .slot _ _ => []
  | .block kept gate alternatives =>
      gate.toList ++
        if kept then Layout.behindFirst alternatives else Layout.allIndices alternatives

/-- The indices in a layout that are not shown. -/
def Layout.hidden : List Piece → List Nat
  | [] => []
  | piece :: rest => piece.hidden ++ Layout.hidden rest

/-- The indices that are not shown if the first one of several layouts is kept. -/
def Layout.behindFirst : List (List Piece) → List Nat
  | [] => []
  | first :: others => Layout.hidden first ++ Layout.allIndices others

end

mutual

theorem Piece.perm_indices (piece : Piece) :
    (piece.shown ++ piece.hidden).Perm piece.indices := by
  cases piece with
  | copied text => exact List.Perm.refl _
  | slot index text => exact List.Perm.refl _
  | block kept gate alternatives =>
      have hinside := Layout.perm_allIndices alternatives
      rw [Piece.shown, Piece.hidden, Piece.indices]
      cases kept with
      | false => exact List.Perm.refl _
      | true =>
          -- the gate moves in front of what the first alternative shows
          rw [if_pos rfl, if_pos rfl, ← List.append_assoc]
          refine (List.perm_append_comm.append_right _).trans ?_
          rw [List.append_assoc]
          exact hinside.append_left _

/-- Every slot of a layout is either shown or hidden. -/
theorem Layout.perm_indices (layout : List Piece) :
    (Layout.shown layout ++ Layout.hidden layout).Perm (Layout.indices layout) := by
  cases layout with
  | nil => exact List.Perm.refl _
  | cons piece rest =>
      have hpiece := Piece.perm_indices piece
      have hrest := Layout.perm_indices rest
      rw [List.perm_iff_count] at hpiece hrest ⊢
      intro index
      have hfirst := hpiece index
      have hothers := hrest index
      simp only [Layout.shown, Layout.hidden, Layout.indices, List.count_append] at *
      omega

theorem Layout.perm_allIndices (layouts : List (List Piece)) :
    (Layout.firstShown layouts ++ Layout.behindFirst layouts).Perm
      (Layout.allIndices layouts) := by
  cases layouts with
  | nil => exact List.Perm.refl _
  | cons first others =>
      have hfirst := Layout.perm_indices first
      rw [Layout.firstShown, Layout.behindFirst, Layout.allIndices, ← List.append_assoc]
      exact hfirst.append_right _

end

section

variable {quoter : Quoter} {parameters others : List Value}

/-- No index is shown and hidden. -/
theorem not_mem_hidden {nodes : List Node} {start index : Nat}
    (hshown : index ∈ Layout.shown (Template.layout quoter parameters nodes start)) :
    index ∉ Layout.hidden (Template.layout quoter parameters nodes start) := by
  have hindices := Layout.perm_indices (Template.layout quoter parameters nodes start)
  rw [indices_layout] at hindices
  have hnodup := hindices.nodup_iff.2 List.nodup_range'
  intro hhidden
  exact (List.nodup_append.1 hnodup).2.2 index hshown index hhidden rfl

/-! ## What the text of a layout depends on -/

/-- Lists with skip marks at the same places skip the same slots. -/
theorem skippedAt_congr (h : parameters.map Value.isSkip = others.map Value.isSkip) (index : Nat) :
    skippedAt parameters index = skippedAt others index := by
  have hmark : ∀ values : List Value,
      skippedAt values index = ((values.map Value.isSkip)[index]?).getD false := by
    intro values
    rw [skippedAt, List.getElem?_map]
    cases values[index]? <;> rfl
  rw [hmark, hmark, h]

theorem slotText?_congr {tag : Tag} {index : Nat}
    (h : parameters[index]? = others[index]?) :
    slotText? quoter parameters tag index = slotText? quoter others tag index := by
  rw [slotText?, slotText?, h]

/-- Whether a block is kept depends on the skip marks, and its text on what its first
alternative shows. -/
theorem text_block_congr (hskip : parameters.map Value.isSkip = others.map Value.isSkip)
    (gated : Bool) (alternatives : List (List Node)) (start : Nat)
    (hfirst : ∀ alternative ∈ alternatives, ∀ start,
      (∀ index ∈ Layout.shown (Template.layout quoter parameters alternative start),
        parameters[index]? = others[index]?) →
      Layout.text (Template.layout quoter parameters alternative start) =
        Layout.text (Template.layout quoter others alternative start))
    (hshown : ∀ index ∈ ((Node.block gated alternatives).layout quoter parameters start).shown,
      parameters[index]? = others[index]?) :
    ((Node.block gated alternatives).layout quoter parameters start).text =
      ((Node.block gated alternatives).layout quoter others start).text := by
  have hmarks : skippedAt parameters = skippedAt others := funext (skippedAt_congr hskip)
  simp only [Node.layout, Piece.text, Piece.shown] at hshown ⊢
  rw [owned_allLayouts others parameters, ← hmarks]
  generalize (if gated = true then some start else none) = gate at hshown ⊢
  split
  · next hkept =>
      rw [if_pos hkept] at hshown
      cases alternatives with
      | nil => rfl
      | cons alternative rest =>
          have htext := hfirst alternative (List.mem_cons_self ..) _ hshown
          simp only [Template.allLayouts, Layout.firstText, htext]
  · rfl

/-- **The text of a layout depends on what it shows.**  Parameters that agree at all
indices that are shown, and have their skip marks at the same places, give the same
text. -/
theorem text_layout_congr (hskip : parameters.map Value.isSkip = others.map Value.isSkip)
    (nodes : List Node) (start : Nat)
    (hshown : ∀ index ∈ Layout.shown (Template.layout quoter parameters nodes start),
      parameters[index]? = others[index]?) :
    Layout.text (Template.layout quoter parameters nodes start) =
      Layout.text (Template.layout quoter others nodes start) := by
  have hcons : ∀ {node : Node} {rest : List Node},
      (∀ start, (∀ index ∈ (node.layout quoter parameters start).shown,
          parameters[index]? = others[index]?) →
        (node.layout quoter parameters start).text = (node.layout quoter others start).text) →
      (∀ start, (∀ index ∈ Layout.shown (Template.layout quoter parameters rest start),
          parameters[index]? = others[index]?) →
        Layout.text (Template.layout quoter parameters rest start) =
          Layout.text (Template.layout quoter others rest start)) →
      ∀ start, (∀ index ∈ Layout.shown (Template.layout quoter parameters (node :: rest) start),
          parameters[index]? = others[index]?) →
        Layout.text (Template.layout quoter parameters (node :: rest) start) =
          Layout.text (Template.layout quoter others (node :: rest) start) := by
    intro node rest hnode hrest start hboth
    rw [Template.layout, Layout.shown, List.forall_mem_append] at hboth
    simp only [Template.layout, Layout.text, hnode start hboth.1, hrest _ hboth.2]
  induction nodes using Template.induction generalizing start with
  | nil => rfl
  | verbatim text rest ih => exact hcons (fun _ _ => rfl) ih start hshown
  | placeholder tag rest ih =>
      refine hcons (fun start hslot => ?_) ih start hshown
      have htext : slotText? quoter parameters tag start = slotText? quoter others tag start :=
        slotText?_congr (hslot start (List.mem_singleton_self start))
      simp only [Node.layout, Piece.text, htext]
  | block gated alternatives rest ihalternatives ih =>
      refine hcons (fun start hblock => ?_) ih start hshown
      exact text_block_congr hskip gated alternatives start ihalternatives hblock
  | fault fault rest ih => exact hcons (fun _ _ => rfl) ih start hshown

end

namespace Expander

variable {expander : Expander} {template : String} {parameters others : List Value}

/-- **Hidden parameters do not leak.**  Two lists of parameters have their skip marks at
the same places, and where they differ the parameter belongs to a gate, to an
alternative behind the first one of its block or to a block that is dropped.  If both are
accepted by a template without nested ones, they give the same statement and the same
number of parameters is consumed. -/
theorem expand_eq_of_hidden (hself : Template.selfContained (Template.read template.toList))
    (hskip : parameters.map Value.isSkip = others.map Value.isSkip)
    (hdiffer : ∀ index, parameters[index]? ≠ others[index]? →
      index ∈ Layout.hidden
        (Template.layout expander.quoter parameters (Template.read template.toList) 0))
    {expanded other : Expanded} (hexpanded : expander.expand template parameters = .ok expanded)
    (hother : expander.expand template others = .ok other) :
    other.sql = expanded.sql ∧ other.consumed = expanded.consumed := by
  obtain ⟨-, rfl⟩ := (expand_eq_ok_iff_layout hself).1 hexpanded
  obtain ⟨-, rfl⟩ := (expand_eq_ok_iff_layout hself).1 hother
  refine ⟨?_, rfl⟩
  have hshown : ∀ index ∈ Layout.shown
      (Template.layout expander.quoter parameters (Template.read template.toList) 0),
        parameters[index]? = others[index]? := by
    intro index hmem
    by_contra hne
    exact not_mem_hidden hmem (hdiffer index hne)
  exact congrArg String.ofList (text_layout_congr hskip _ 0 hshown).symm

/-- The gate of a block that is kept, a placeholder behind a bar together with a gate
there, and a block that is dropped because of the skip mark at its end. -/
theorem expand_eq_of_hidden_nested :
    (Expander.ofProfile {}).expand "?{? a ?d|?{?b}}{c ?#{d ?}?}"
        [.int 0, .int 1, .int 2, .null, .text "t", .text "u", .int 3, .skip] =
      .ok ⟨"0   a 2 ", 8, 8, "mysql"⟩ ∧
    ∃ other, (Expander.ofProfile {}).expand "?{? a ?d|?{?b}}{c ?#{d ?}?}"
        [.int 0, .text "v", .int 2, .text "w", .null, .list [.text "x"], .null, .skip] =
          .ok other ∧
      other.sql = "0   a 2 " ∧ other.consumed = 8 := by
  have hself : Template.selfContained (Template.read "?{? a ?d|?{?b}}{c ?#{d ?}?}".toList) := by
    decide +kernel
  have hexpanded : (Expander.ofProfile {}).expand "?{? a ?d|?{?b}}{c ?#{d ?}?}"
      [.int 0, .int 1, .int 2, .null, .text "t", .text "u", .int 3, .skip] =
        .ok ⟨"0   a 2 ", 8, 8, "mysql"⟩ := by decide +kernel
  have haccepted : ((Expander.ofProfile {}).expand "?{? a ?d|?{?b}}{c ?#{d ?}?}"
      [.int 0, .text "v", .int 2, .text "w", .null, .list [.text "x"], .null,
        .skip]).toOption.isSome := by decide +kernel
  have hhidden : Layout.hidden (Template.layout (Expander.ofProfile {}).quoter
      [.int 0, .int 1, .int 2, .null, .text "t", .text "u", .int 3, .skip]
      (Template.read "?{? a ?d|?{?b}}{c ?#{d ?}?}".toList) 0) = [1, 3, 4, 5, 6, 7] := by
    decide +kernel
  have hskip : ([.int 0, .int 1, .int 2, .null, .text "t", .text "u", .int 3, .skip] :
      List Value).map Value.isSkip = ([.int 0, .text "v", .int 2, .text "w", .null,
        .list [.text "x"], .null, .skip] : List Value).map Value.isSkip := rfl
  refine ⟨hexpanded, ?_⟩
  cases hother : (Expander.ofProfile {}).expand "?{? a ?d|?{?b}}{c ?#{d ?}?}"
      [.int 0, .text "v", .int 2, .text "w", .null, .list [.text "x"], .null, .skip] with
  | error failure =>
      rw [hother] at haccepted
      cases haccepted
  | ok other =>
      refine ⟨other, rfl, expand_eq_of_hidden hself hskip ?_ hexpanded hother⟩
      intro index hne
      rw [hhidden]
      match index with
      | 0 | 2 => exact absurd rfl hne
      | 1 | 3 | 4 | 5 | 6 | 7 => decide
      | index + 8 => exact absurd rfl hne

end Expander

end SqlTemplate
