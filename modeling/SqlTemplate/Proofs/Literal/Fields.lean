import SqlTemplate.Proofs.Literal.Rendered
import SqlTemplate.Proofs.Template.Places
import SqlTemplate.Proofs.Template.Separators

/-!
# The fields of an array

The cells of an array are written side by side with commas between them, and rows with
parentheses as well.  A cell may hold any string, and a column or a table any name; still
the commas outside of literal regions are those between the cells, so that the text can be
cut at them and every cell is found in the field at its place (`present_array_divided`).  In
the same way the parentheses outside of literal regions are those between rows.

## Strategy

A quoted string is one region and so is a name between backticks, and a number has neither
commas nor parentheses.  What is written for a cell has therefore no mark of an array outside
of literal regions (`IsField`), and as it is passive, both sides of a comma behind it are read
as if they were alone (`fields_append_comma`).  The rest is an induction on what is joined
(`intercalate_induction`): on the cells of a row (`IsLine.fields_append`), and on the rows
(`fields_rows`).
-/

namespace SqlTemplate

open SqlTemplate.Number

/-! ## Cutting a text at its commas -/

/-- The places at which a character stands outside of the literal regions of a text. -/
def placesOf (c : Char) (text : List Char) : List Nat :=
  ((structural text 0).filter (·.2 == c)).map Prod.fst

/-- Cuts a text, which starts at the given offset, at some places.  The characters there are
gone. -/
def cutAt (offset : Nat) : List Nat → List Char → List (List Char)
  | [], text => [text]
  | place :: places, text =>
      text.take (place - offset) :: cutAt (place + 1) places (text.drop (place + 1 - offset))

/-- The pieces of a text between the commas outside of its literal regions. -/
def fields (text : List Char) : List (List Char) :=
  cutAt 0 (placesOf ',' text) text

/-- A text in front stands in the first piece. -/
theorem cutAt_append {offset : Nat} (front text : List Char) {places : List Nat}
    (h : ∀ place ∈ places, offset + front.length ≤ place) :
    cutAt offset places (front ++ text) =
      (cutAt (offset + front.length) places text).modifyHead (front ++ ·) := by
  cases places with
  | nil => rfl
  | cons place more =>
      have hplace := h place (List.mem_cons_self ..)
      rw [cutAt, cutAt, List.modifyHead_cons, List.take_append, List.take_of_length_le (by omega),
        Nat.sub_sub, List.drop_append, List.drop_eq_nil_of_le (by omega), List.nil_append,
        Nat.sub_sub]

/-- A lexeme in front stands in the first text. -/
theorem map_flatMap_modifyHead (lexeme : Lexeme) (pieces : List (List Lexeme)) :
    (pieces.modifyHead (lexeme :: ·)).map (·.flatMap Lexeme.text) =
      (pieces.map (·.flatMap Lexeme.text)).modifyHead (lexeme.text ++ ·) := by
  cases pieces with
  | nil => rfl
  | cons first others => rw [List.modifyHead_cons, List.map_cons, List.flatMap_cons]; rfl

/-- Cutting a text at its commas divides its lexemes. -/
theorem cutAt_structuralFrom (offset : Nat) (parts : List Lexeme) :
    cutAt offset (((structuralFrom offset parts).filter (·.2 == ',')).map Prod.fst)
        (parts.flatMap Lexeme.text) =
      (parts.splitOnP (· == .char ',')).map (·.flatMap Lexeme.text) := by
  induction parts generalizing offset with
  | nil => rfl
  | cons lexeme rest ih =>
      rw [List.splitOnP_cons_eq_if_modifyHead]
      by_cases hcomma : lexeme = .char ','
      · rw [hcomma, if_pos (beq_self_eq_true _), structuralFrom, List.filter_cons_of_pos rfl,
          List.map_cons, cutAt, List.map_cons, ← ih (offset + 1), List.flatMap_cons, Nat.sub_self,
          Nat.add_sub_cancel_left]
        rfl
      · -- the lexeme is not cut off, and no place is inside of it
        have hplaces : ∀ place ∈ ((structuralFrom (offset + lexeme.text.length) rest).filter
            (·.2 == ',')).map Prod.fst, offset + lexeme.text.length ≤ place := by
          intro place hplace
          obtain ⟨entry, hentry, rfl⟩ := List.mem_map.1 hplace
          exact le_of_mem_structuralFrom (List.mem_filter.1 hentry).1
        have hskipped : (structuralFrom offset (lexeme :: rest)).filter (·.2 == ',') =
            (structuralFrom (offset + lexeme.text.length) rest).filter (·.2 == ',') := by
          cases lexeme with
          | region region => rfl
          | char c => exact List.filter_cons_of_neg (by simpa using hcomma)
        rw [if_neg (by simpa using hcomma), map_flatMap_modifyHead, ← ih, hskipped,
          List.flatMap_cons, cutAt_append _ _ hplaces]

theorem fields_eq_map (text : List Char) :
    fields text = ((lexemes text).splitOnP (· == .char ',')).map (·.flatMap Lexeme.text) := by
  rw [← cutAt_structuralFrom 0, flatMap_text_lexemes]
  rfl

theorem fields_of_not_mem {text : List Char} (h : .char ',' ∉ lexemes text) :
    fields text = [text] := by
  rw [fields_eq_map, List.splitOnP_eq_singleton, List.map_singleton, flatMap_text_lexemes]
  intro lexeme hmem
  exact beq_eq_false_iff_ne.2 fun heq => h (heq ▸ hmem)

/-- Both sides of a comma behind a passive text are cut by themselves. -/
theorem fields_append_comma {front : List Char} (h : Passive front) (back : List Char) :
    fields (front ++ ',' :: back) = fields front ++ fields back := by
  rw [fields_eq_map, lexemes_append_cons (h.separates (by decide) (by decide)),
    List.splitOnP_append_cons _ _ (by rfl), List.map_append, fields_eq_map, fields_eq_map]

/-- A character in front that is neither a comma nor opens a region stands in the first
field. -/
theorem fields_cons {c : Char} (hc : c ∉ openingMarks) (hcomma : c ≠ ',') (text : List Char) :
    fields (c :: text) = (fields text).modifyHead (c :: ·) := by
  rw [fields_eq_map, lexemes_of_not_mem hc, List.splitOnP_cons_eq_if_modifyHead,
    if_neg (by simpa using hcomma), map_flatMap_modifyHead, fields_eq_map]
  rfl

/-! ## Texts without marks of an array -/

/-- The marks between the cells and the rows of an array. -/
def fieldMarks : List Char := [',', '(', ')']

/-- A text that has no mark of an array outside of literal regions, and none of which is read
together with what follows it. -/
structure IsField (text : List Char) : Prop where
  passive : Passive text
  unmarked : ∀ mark ∈ fieldMarks, .char mark ∉ lexemes text

namespace IsField

theorem of_forall {text : List Char} (h : Passive text)
    (hmarks : ∀ mark ∈ fieldMarks, mark ∉ text) : IsField text where
  passive := h
  unmarked mark hmark hmem := by
    refine hmarks mark hmark ?_
    rw [← flatMap_text_lexemes text]
    exact List.mem_flatMap.2 ⟨_, hmem, List.mem_singleton_self mark⟩

theorem of_isNumeral {text : List Char} (h : IsNumeral text) : IsField text := by
  have hmarks : ∀ mark ∈ fieldMarks, ¬ (mark.isDigit ∨ mark ∈ numeralMarks) := by
    simp [fieldMarks, numeralMarks]
  exact of_forall h.passive fun mark hmark hmem => hmarks mark hmark (h.mem hmem)

/-- A region that takes in the whole text. -/
theorem of_close? (kind : RegionKind) (hkind : kind.isComment = false) {text : List Char}
    (h : kind.close? text = some (text, [])) : IsField (kind.opening ++ text) where
  passive := passive_of_close? kind hkind h
  unmarked mark _ hmem := by
    have hregion : regionAt? (kind.opening ++ text) = some (⟨kind, kind.opening ++ text⟩, []) :=
      regionAt?_eq_some_iff.2 ⟨text, text, rfl, h, rfl⟩
    rw [lexemes_of_nextLexeme? (nextLexeme?_of_regionAt? hregion), lexemes_nil] at hmem
    cases List.mem_singleton.1 hmem

/-- Two texts with a character between them. -/
theorem append_cons {front back : List Char} {c : Char} (hfront : IsField front)
    (hback : IsField back) (hc : isPlain c) (hstar : c ≠ '*') (hmark : c ∉ fieldMarks) :
    IsField (front ++ c :: back) where
  passive := by
    have hbetween : Passive [c] := passive_of_isTame (isTame_of_forall (by simpa using hc))
    exact hfront.passive.append (hbetween.append hback.passive)
  unmarked mark hmem := by
    have hopening : c ∉ openingMarks := by
      simp only [isPlain, decide_eq_true_eq] at hc
      exact hc.1
    rw [lexemes_append_cons (hfront.passive.separates hopening hstar), List.mem_append,
      List.mem_cons, Lexeme.char.injEq]
    rintro (hlexeme | rfl | hlexeme)
    · exact hfront.unmarked mark hmem hlexeme
    · exact hmark hmem
    · exact hback.unmarked mark hmem hlexeme

end IsField

theorem isField_mysql_quote (text : List Char) : IsField (Quoter.mysql.quote text) :=
  .of_close? .singleQuoted rfl (closeString?_mysql text)

theorem isField_quoteIdentifier (name : List Char) : IsField (quoteIdentifier name) :=
  .of_close? .identifier rfl (closeIdentifier?_quoted name)

theorem isField_nullLiteral : IsField nullLiteral :=
  .of_forall passive_nullLiteral (by simp [fieldMarks, nullLiteral])

/-! ## What is written for a cell -/

theorem ensures_literal_isField (s : Scalar) : Ensures IsField (s.literal .mysql) := by
  refine (ensures_literal_form .mysql s).mono ?_
  rintro _ (hnumeral | ⟨text, -, rfl⟩)
  · exact .of_isNumeral hnumeral
  · exact isField_mysql_quote text

/-- Whether a piece of a text contains what is written for a cell. -/
def ContainsCell (cell : Value) (piece : List Char) : Prop :=
  ∃ rendered, renderCell .mysql cell = .ok rendered ∧ rendered <:+: piece

/-- A text that contains what is written for a cell and no mark of an array. -/
structure Shows (cell : Value) (text : List Char) : Prop where
  field : IsField text
  cell : ContainsCell cell text

theorem shows_renderCell (cell : Value) : Ensures (Shows cell) (renderCell .mysql cell) := by
  intro text htext
  refine ⟨?_, text, htext, List.infix_rfl⟩
  cases cell with
  | null =>
      cases htext
      exact isField_nullLiteral
  | scalar s => exact (ensures_literal_isField s).mapError _ text htext
  | _ => cases htext

theorem shows_renderAssignment (a : Assignment) : Ensures (Shows a.cell) (a.render .mysql) := by
  unfold Assignment.render
  refine (shows_renderCell a.cell).bind fun text htext => ?_
  obtain ⟨rendered, hrendered, hwithin⟩ := htext.cell
  cases a.column with
  | none => exact .ok htext
  | some column =>
      have hname : IsField (tablePart a.table ++ quoteIdentifier column) := by
        cases a.table with
        | none => exact isField_quoteIdentifier column
        | some table =>
            rw [tablePart, List.append_assoc, List.singleton_append]
            exact (isField_quoteIdentifier table).append_cons (isField_quoteIdentifier column)
              rfl (by decide) (by decide)
      have hassigned := hname.append_cons htext.field (c := '=') rfl (by decide) (by decide)
      refine .ok ⟨hassigned, rendered, hrendered, ?_⟩
      exact hwithin.trans ((List.suffix_cons '=' text).trans (List.suffix_append _ _)).isInfix

/-! ## Lines and rows -/

/-- Texts that are written for some things and joined by a separator: the last text stands
alone, and every other one in front of those that are joined already. -/
@[elab_as_elim]
theorem intercalate_induction {α : Type} {R : α → List Char → Prop} (separator : List Char)
    {motive : List α → List Char → Prop} (single : ∀ {x text}, R x text → motive [x] text)
    (cons : ∀ {x text xs behind}, R x text → motive xs behind →
      motive (x :: xs) (text ++ separator ++ behind))
    {xs : List α} {texts : List (List Char)} (h : List.Forall₂ R xs texts) (hne : xs ≠ []) :
    motive xs (separator.intercalate texts) := by
  induction h with
  | nil => exact absurd rfl hne
  | cons hfirst hothers ih =>
      cases hothers with
      | nil =>
          rw [List.intercalate_singleton]
          exact single hfirst
      | cons =>
          rw [List.intercalate_cons_cons]
          exact cons hfirst (ih (List.cons_ne_nil _ _))

theorem lexemes_cellSeparator {front : List Char} (h : Passive front) (behind : List Char) :
    lexemes (front ++ cellSeparator ++ behind) =
      lexemes front ++ cellSeparator.map .char ++ lexemes behind :=
  h.lexemes_append (by decide) (by simp [cellSeparator, openingMarks]) behind

theorem lexemes_rowSeparator {front : List Char} (h : Passive front) (behind : List Char) :
    lexemes (front ++ rowSeparator ++ behind) =
      lexemes front ++ rowSeparator.map .char ++ lexemes behind :=
  h.lexemes_append (by decide) (by simp [rowSeparator, openingMarks]) behind

theorem ContainsCell.of_infix {cell : Value} {piece whole : List Char} (h : ContainsCell cell piece)
    (hwithin : piece <:+: whole) : ContainsCell cell whole := by
  obtain ⟨rendered, hrendered, hpiece⟩ := h
  exact ⟨rendered, hrendered, hpiece.trans hwithin⟩

/-- A character more in front of the first field makes no difference. -/
theorem containsCell_modifyHead {cells : List Value} {pieces : List (List Char)}
    (h : List.Forall₂ ContainsCell cells pieces) (c : Char) :
    List.Forall₂ ContainsCell cells (pieces.modifyHead (c :: ·)) := by
  cases h with
  | nil => exact .nil
  | cons hfirst hothers => exact .cons (hfirst.of_infix (List.suffix_cons ..).isInfix) hothers

/-- A text that ends a field: nothing, or the parenthesis behind a row. -/
def EndsField (text : List Char) : Prop :=
  text = [] ∨ text = [')']

theorem Shows.fields {cell : Value} {text : List Char} (h : Shows cell text) :
    fields text = [text] :=
  fields_of_not_mem (h.field.unmarked ',' (by decide))

theorem Shows.fields_append {cell : Value} {text behind : List Char} (h : Shows cell text)
    (hbehind : EndsField behind) : SqlTemplate.fields (text ++ behind) = [text ++ behind] := by
  rcases hbehind with rfl | rfl
  · rw [List.append_nil, h.fields]
  · refine fields_of_not_mem fun hmem => ?_
    have hcomma := h.field.unmarked ',' (by decide)
    rw [lexemes_append_cons (h.field.passive.separates (by decide) (by decide)), lexemes_nil]
      at hmem
    simp [hcomma] at hmem

/-- A line of an array with the given cells: a row, or all of its assignments. -/
def IsLine (cells : List Value) (line : List Char) : Prop :=
  ∃ parts, List.Forall₂ Shows cells parts ∧ line = cellSeparator.intercalate parts

namespace IsLine

variable {cells : List Value} {line : List Char}

theorem passive (h : IsLine cells line) : Passive line := by
  obtain ⟨parts, hparts, rfl⟩ := h
  refine passive_cellSeparator.intercalate ?_
  induction hparts with
  | nil => exact fun _ hmem => absurd hmem List.not_mem_nil
  | cons hfirst _ ih => exact List.forall_mem_cons.2 ⟨hfirst.field.passive, ih⟩

/-- The cells of a line stand in its fields. -/
theorem fields_append {behind : List Char} (h : IsLine cells line) (hne : cells ≠ [])
    (hbehind : EndsField behind) :
    List.Forall₂ ContainsCell cells (fields (line ++ behind)) := by
  obtain ⟨parts, hparts, rfl⟩ := h
  refine intercalate_induction cellSeparator (fun {cell text} hcell => ?_)
    (fun {cell text others more} hcell hothers => ?_) hparts hne
  · rw [hcell.fields_append hbehind]
    exact .cons (hcell.cell.of_infix (List.prefix_append ..).isInfix) .nil
  · have hjoined : text ++ cellSeparator ++ more ++ behind =
        text ++ ',' :: ' ' :: (more ++ behind) := by
      simp [cellSeparator]
    rw [hjoined, fields_append_comma hcell.field.passive, hcell.fields,
      fields_cons (by decide) (by decide)]
    exact .cons hcell.cell (containsCell_modifyHead hothers ' ')

end IsLine

/-- The characters around a row. -/
def parentheses : List Char := ['(', ')']

/-- A line has no parentheses outside of literal regions. -/
theorem IsLine.unparenthesized {cells : List Value} {line : List Char} (h : IsLine cells line)
    (hne : cells ≠ []) {mark : Char} (hmark : mark ∈ parentheses) : .char mark ∉ lexemes line := by
  have hseparator : mark ∉ cellSeparator := by
    rcases List.mem_pair.1 hmark with rfl | rfl <;> decide
  obtain ⟨parts, hparts, rfl⟩ := h
  refine intercalate_induction cellSeparator (fun {cell text} hcell => ?_)
    (fun {cell text others more} hcell hothers => ?_) hparts hne
  · exact hcell.field.unmarked mark (List.mem_cons_of_mem _ hmark)
  · have htext := hcell.field.unmarked mark (List.mem_cons_of_mem _ hmark)
    rw [lexemes_cellSeparator hcell.field.passive]
    simp [htext, hothers, hseparator]

section

variable {rows : List (List Value)} {lines : List (List Char)}

/-- The cells of all rows stand in the fields of the array. -/
theorem fields_rows (h : List.Forall₂ IsLine rows lines) (hne : rows ≠ []) (hrows : [] ∉ rows) :
    List.Forall₂ ContainsCell rows.flatten (fields (rowSeparator.intercalate lines)) := by
  revert hrows
  refine intercalate_induction rowSeparator (fun {row line} hline hrow => ?_)
    (fun {row line others behind} hline hothers hrows => ?_) h hne
  · have hfields := hline.fields_append (by simpa using hrow) (.inl rfl)
    rwa [List.flatten_singleton, ← List.append_nil line]
  · rw [List.mem_cons, not_or] at hrows
    have hrow : row ≠ [] := Ne.symm hrows.1
    have hclosed : Passive (line ++ [')']) :=
      hline.passive.append (passive_of_isTame (by decide))
    have hjoined : line ++ rowSeparator ++ behind =
        (line ++ [')']) ++ ',' :: ' ' :: '(' :: behind := by
      simp [rowSeparator]
    rw [hjoined, fields_append_comma hclosed, fields_cons (by decide) (by decide),
      fields_cons (by decide) (by decide), List.flatten_cons]
    exact List.rel_append (hline.fields_append hrow (.inr rfl))
      (containsCell_modifyHead (containsCell_modifyHead (hothers hrows.2) '(') ' ')

/-- Between two rows one parenthesis closes and another one opens. -/
theorem count_rows (h : List.Forall₂ IsLine rows lines) (hne : rows ≠ []) (hrows : [] ∉ rows)
    {mark : Char} (hmark : mark ∈ parentheses) :
    (lexemes (rowSeparator.intercalate lines)).count (.char mark) + 1 = rows.length := by
  have hseparator : (rowSeparator.map Lexeme.char).count (.char mark) = 1 := by
    rcases List.mem_pair.1 hmark with rfl | rfl <;> decide
  revert hrows
  refine intercalate_induction rowSeparator (fun {row line} hline hrow => ?_)
    (fun {row line others behind} hline hothers hrows => ?_) h hne
  · rw [List.count_eq_zero.2 (hline.unparenthesized (by simpa using hrow) hmark)]
    rfl
  · rw [List.mem_cons, not_or] at hrows
    have hnone := List.count_eq_zero.2 (hline.unparenthesized (Ne.symm hrows.1) hmark)
    rw [lexemes_rowSeparator hline.passive, List.count_append, List.count_append, hnone,
      hseparator, List.length_cons, ← hothers hrows.2]
    omega

end

/-! ## Arrays -/

/-- The cells of an array in the order in which they are written: what its items are, and
what the items are that are containers. -/
def Value.arrayCells (value : Value) : List Value :=
  (value.cells?.getD []).flatMap fun item => item.cells?.getD [item]

theorem arrayCells_of_rows? {value : Value} {rows : List (List Value)}
    (h : value.rows? = some rows) : value.arrayCells = rows.flatten := by
  cases value with
  | sequence kind items =>
      have hrows := forall₂_of_rows? h
      show (items.flatMap fun item => item.cells?.getD [item]) = rows.flatten
      clear h
      induction hrows with
      | nil => rfl
      | cons hitem _ ih => rw [List.flatMap_cons, hitem, Option.getD_some, ih, List.flatten_cons]
  | _ => cases h

theorem arrayCells_of_entries? {value : Value} {entries : List (Option (List Char) × Value)}
    (h : value.entries? = some entries) :
    value.arrayCells = (entries.flatMap assignmentsOf).map (·.cell) := by
  rw [Value.arrayCells, cells?_eq_map_entries?, h, Option.map_some, Option.getD_some,
    List.flatMap_map, List.map_flatMap]
  refine congrArg (List.flatMap · entries) (funext fun entry => ?_)
  rw [cells?_eq_map_entries?, assignmentsOf]
  cases hinner : entry.2.entries? with
  | none => rfl
  | some inner => simp [Function.comp_def]

/-- How the text of an array is divided. -/
structure ArrayDivided (value : Value) (text : List Char) : Prop where
  /-- There is one field for each cell, and it contains what is written for the cell. -/
  cells : List.Forall₂ ContainsCell value.arrayCells (fields text)
  /-- Between the rows there are pairs of parentheses, and nowhere else. -/
  rows : ∀ rows, value.rows? = some rows →
    ∀ mark ∈ parentheses, (placesOf mark text).length = rows.length - 1
  /-- Without rows there are no parentheses. -/
  assignments : value.rows? = none → ∀ mark ∈ parentheses, placesOf mark text = []

theorem length_placesOf (c : Char) (text : List Char) :
    (placesOf c text).length = (lexemes text).count (.char c) := by
  rw [placesOf, List.length_map, ← List.countP_eq_length_filter, structural, List.drop_zero,
    countP_structuralFrom]

theorem arrayDivided_of_rows {value : Value} {rows : List (List Value)} {lines : List (List Char)}
    (hvalue : value.rows? = some rows) (hcells : value.arrayCells ≠ []) (hrows : [] ∉ rows)
    (hlines : List.Forall₂ IsLine rows lines) :
    ArrayDivided value (rowSeparator.intercalate lines) := by
  rw [arrayCells_of_rows? hvalue] at hcells
  have hne : rows ≠ [] := by
    rintro rfl
    exact hcells rfl
  refine ⟨?_, fun other hother mark hmark => ?_, fun hnone => ?_⟩
  · rw [arrayCells_of_rows? hvalue]
    exact fields_rows hlines hne hrows
  · obtain rfl := Option.some.inj (hvalue.symm.trans hother)
    rw [length_placesOf, ← count_rows hlines hne hrows hmark, Nat.add_sub_cancel]
  · rw [hnone] at hvalue
    cases hvalue

theorem arrayDivided_of_assignments {value : Value} {line : List Char} (hvalue : value.rows? = none)
    (hcells : value.arrayCells ≠ []) (hline : IsLine value.arrayCells line) :
    ArrayDivided value line where
  cells := by
    have hfields := hline.fields_append hcells (.inl rfl)
    rwa [List.append_nil] at hfields
  rows rows hrows := by
    rw [hvalue] at hrows
    cases hrows
  assignments _ mark hmark := by
    rw [← List.length_eq_zero_iff, length_placesOf, List.count_eq_zero]
    exact hline.unparenthesized hcells hmark

theorem ensures_renderArray_divided {value : Value} (hcells : value.arrayCells ≠ [])
    (hrows : ∀ rows, value.rows? = some rows → [] ∉ rows) :
    Ensures (ArrayDivided value) (renderArray .mysql value) := by
  unfold renderArray
  split
  · exact Ensures.error
  · next hentries => exact absurd (arrayCells_of_entries? hentries) hcells
  · next entries hne hentries =>
      split
      · next rows hvalue =>
          refine (Ensures.forall₂_mapM fun row _ => ?_).bind fun lines hlines =>
            Ensures.ok (arrayDivided_of_rows hvalue hcells (hrows rows hvalue) hlines)
          exact (Ensures.forall₂_mapM fun cell _ => shows_renderCell cell).bind
            fun parts hparts => Ensures.ok ⟨parts, hparts, rfl⟩
      · next hvalue =>
          refine (Ensures.forall₂_mapM fun a _ => shows_renderAssignment a).bind
            fun parts hparts => Ensures.ok (arrayDivided_of_assignments hvalue hcells ?_)
          refine ⟨parts, ?_, rfl⟩
          rw [arrayCells_of_entries? hentries, List.forall₂_map_left_iff]
          exact hparts

/-- **The contents of an array do not forge its boundaries.**  Cut at the commas outside of
its literal regions, the text of an array has one field for each cell, in which the cell is
written, and the parentheses there are those between the rows. -/
theorem present_array_divided {value : Value} {text : List Char}
    (hpresent : present .mysql .array value = .ok (.literal text)) (hcells : value.arrayCells ≠ [])
    (hrows : ∀ rows, value.rows? = some rows → [] ∉ rows) : ArrayDivided value text := by
  cases hrendered : renderArray .mysql value with
  | error refusal =>
      rw [present, hrendered] at hpresent
      cases hpresent
  | ok rendered =>
      rw [present, hrendered] at hpresent
      cases hpresent
      exact ensures_renderArray_divided hcells hrows text hrendered

/-- Rows with strings that look like the marks of an array, and an assignment to names that
do. -/
theorem present_array_divided_marks :
    let rows : Value := .list [.list [.text "a', (", .int (-1)], .list [.text "), ('\\", .null]]
    let assignments : Value :=
      .map [(.text "t\x60,(", .map [(.text "c)", .text "x,y"), (.null, .null)])]
    let rowsText := "'a\\', (', -1), ('), (\\'\\\\', NULL".toList
    let assignmentsText := "\x60t\x60\x60,(\x60.\x60c)\x60='x,y', NULL".toList
    (present .mysql .array rows = .ok (.literal rowsText) ∧ ArrayDivided rows rowsText) ∧
      present .mysql .array assignments = .ok (.literal assignmentsText) ∧
      ArrayDivided assignments assignmentsText := by
  intro rows assignments rowsText assignmentsText
  have hrows : present .mysql .array rows = .ok (.literal rowsText) := by decide +kernel
  have hassignments : present .mysql .array assignments = .ok (.literal assignmentsText) := by
    decide +kernel
  refine ⟨⟨hrows, present_array_divided hrows (List.cons_ne_nil _ _) ?_⟩,
    hassignments, present_array_divided hassignments (List.cons_ne_nil _ _) nofun⟩
  rintro _ ⟨⟩
  simp

end SqlTemplate
