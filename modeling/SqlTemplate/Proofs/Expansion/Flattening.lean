import SqlTemplate.Proofs.Expansion.Lines
import SqlTemplate.Proofs.Literal.Fields
import SqlTemplate.Proofs.Literal.Oversized
import SqlTemplate.Proofs.Template.Pieces

/-!
# Arrays as flat templates

What the tag `a` makes of a container can be written as a template of its own, with a
placeholder for every cell and two more for the names in front of it: `?` for a cell, `?#=?`
for a cell of a column, and `?#.?#=?` if the column has a table (`Value.flat`).  The flat
template with the flattened values expands to the statement that the array expands to, or both
are refused because of an unsuitable parameter (`Expander.expand_array_flat`).

## Strategy

Two things are compared that work very differently: a rule that writes all cells at once, and
a scan of a template that takes one parameter after the other.  They meet at `Fills`: a piece
of a template, with the parameters that it takes, gives what a rule gives, in front of whatever
comes next.  Pieces can be put one behind the other (`Fills.append`) and joined
(`Fills.joined`), and so can rules; the smallest pieces are a single placeholder and a
single character.
-/

namespace SqlTemplate

/-! ## Flat templates -/

/-- A template together with the parameters that it takes. -/
structure FlatTemplate where
  template : List Char
  parameters : List Value

namespace FlatTemplate

def append (front back : FlatTemplate) : FlatTemplate :=
  ⟨front.template ++ back.template, front.parameters ++ back.parameters⟩

/-- Several templates with a separator between them. -/
def joined (separator : List Char) (pieces : List FlatTemplate) : FlatTemplate :=
  ⟨separator.intercalate (pieces.map template), pieces.flatMap parameters⟩

/-- A cell, with its column if it has one, and with the table of the column if that has
one. -/
def assignment (table column : Option (List Char)) (cell : Value) : FlatTemplate :=
  match table, column with
  | _, none => ⟨"?".toList, [cell]⟩
  | none, some column => ⟨"?#=?".toList, [.text (String.ofList column), cell]⟩
  | some table, some column =>
      ⟨"?#.?#=?".toList, [.text (String.ofList table), .text (String.ofList column), cell]⟩

/-- What one entry of an array contributes: itself, or the entries in it. -/
def ofEntry (entry : Option (List Char) × Value) : List FlatTemplate :=
  match entry.2.entries? with
  | some inner => inner.map fun (column, cell) => assignment entry.1 column cell
  | none => [assignment none entry.1 entry.2]

end FlatTemplate

/-- The flat template of an array: of its rows, or else of its entries. -/
def Value.flat (value : Value) : FlatTemplate :=
  match value.rows? with
  | some rows => .joined "), (".toList (rows.map fun cells =>
      .joined ", ".toList (cells.map (.assignment none none)))
  | none => .joined ", ".toList ((value.entries?.getD []).flatMap FlatTemplate.ofEntry)

/-! ## Templates that give what a rule gives -/

/-- An outcome that blames an unsuitable parameter. -/
def IsUnsuitable {α : Type} (outcome : Except Failure α) : Prop :=
  ∃ complaint tag position kind, outcome = .error (.unsuitable complaint tag position kind)

/-- Nodes that take just the given parameters and give what a rule gives.  Where the rule
refuses, some parameter is unsuitable. -/
structure NodesFill (quoter : Quoter) (nodes : Template) (parameters : List Value)
    (rule : Except Refusal (List Char)) : Prop where
  written : ∀ text, rule = .ok text → ∀ rest taken raised,
    Template.expand quoter (expandText quoter) nodes ⟨parameters ++ rest, taken, raised⟩ =
      (.ok text, ⟨rest, taken + parameters.length, raised⟩)
  refused : ∀ refusal, rule = .error refusal → ∀ rest taken raised,
    IsUnsuitable
      (Template.expand quoter (expandText quoter) nodes ⟨parameters ++ rest, taken, raised⟩).1

section

variable {quoter : Quoter} {nodes others : Template} {parameters more : List Value}
  {rule next : Except Refusal (List Char)}

theorem IsUnsuitable.bind {α β : Type} {step : Expansion α} {following : α → Expansion β}
    {supply : Supply} (h : IsUnsuitable (step supply).1) :
    IsUnsuitable ((step >>= following) supply).1 := by
  obtain ⟨complaint, tag, position, kind, h⟩ := h
  exact ⟨complaint, tag, position, kind, Expansion.fst_bind_of_error h⟩

theorem IsUnsuitable.emit {result : Except Failure (List Char) × Supply}
    (h : IsUnsuitable result.1) (text : List Char) :
    IsUnsuitable (SqlTemplate.emit text result).1 := by
  obtain ⟨complaint, tag, position, kind, h⟩ := h
  refine ⟨complaint, tag, position, kind, ?_⟩
  rw [SqlTemplate.emit, h]
  rfl

theorem NodesFill.nil : NodesFill quoter [] [] (.ok []) where
  written := by
    rintro _ ⟨⟩ rest taken raised
    rfl
  refused := nofun

theorem NodesFill.verbatim (text : List Char) :
    NodesFill quoter [.verbatim text] [] (.ok text) where
  written := by
    rintro _ ⟨⟩ rest taken raised
    show (Except.ok (text ++ []), _) = _
    rw [List.append_nil]
    rfl
  refused := nofun

theorem NodesFill.append (hfront : NodesFill quoter nodes parameters rule)
    (hback : NodesFill quoter others more next) :
    NodesFill quoter (nodes ++ others) (parameters ++ more) (do
      let text ← rule
      let behind ← next
      return text ++ behind) where
  written := by
    intro whole hwhole rest taken raised
    cases hrule : rule with
    | error refusal =>
        rw [hrule] at hwhole
        cases hwhole
    | ok text =>
        cases hnext : next with
        | error refusal =>
            rw [hrule, hnext] at hwhole
            cases hwhole
        | ok behind =>
            rw [hrule, hnext] at hwhole
            cases hwhole
            rw [List.append_assoc, expand_append_of_ok _ (hfront.written text hrule _ taken raised),
              hback.written behind hnext, List.length_append, Nat.add_assoc]
            rfl
  refused := by
    intro refusal hwhole rest taken raised
    rw [List.append_assoc]
    cases hrule : rule with
    | error reason =>
        rw [expand_append]
        exact (hfront.refused reason hrule _ taken raised).bind
    | ok text =>
        cases hnext : next with
        | error reason =>
            rw [expand_append_of_ok _ (hfront.written text hrule _ taken raised)]
            exact (hback.refused reason hnext _ _ raised).emit text
        | ok behind =>
            rw [hrule, hnext] at hwhole
            cases hwhole

/-- A placeholder gives what its own rule gives, and so what any other rule gives that
succeeds on the same values with the same texts. -/
theorem NodesFill.placeholder {tag : Tag} {value : Value} (hskip : value ≠ .skip)
    (hpresent : present quoter tag value = .literal <$> next)
    (honly : OnlyComplains next) (hsame : ∀ text, rule = .ok text ↔ next = .ok text) :
    NodesFill quoter [.placeholder tag] [value] rule where
  written := by
    intro text htext rest taken raised
    have hnode : (Node.placeholder tag).expand quoter (expandText quoter)
        ⟨value :: rest, taken, raised⟩ = (.ok text, ⟨rest, taken + 1, raised⟩) := by
      rw [(hsame text).1 htext] at hpresent
      rw [Node.expand, expandPlaceholder_of_ne_skip tag rfl hskip, hpresent]
      rfl
    rw [List.singleton_append, expand_cons_of_ok hnode]
    show (Except.ok (text ++ []), _) = _
    rw [List.append_nil]
    rfl
  refused := by
    intro refusal hrefusal rest taken raised
    cases hnext : next with
    | ok text =>
        rw [(hsame text).2 hnext] at hrefusal
        cases hrefusal
    | error reason =>
        obtain ⟨complaint, kind, rfl⟩ := honly reason hnext
        refine IsUnsuitable.bind ⟨complaint, tag, taken + 1, kind, ?_⟩
        rw [hnext] at hpresent
        rw [Node.expand, List.singleton_append, expandPlaceholder_of_ne_skip tag rfl hskip,
          hpresent]
        rfl

end

/-- A flat template that is read as nodes that fill its parameters in. -/
def Fills (quoter : Quoter) (flat : FlatTemplate) (rule : Except Refusal (List Char)) : Prop :=
  ∃ nodes, ReadsAs flat.template nodes ∧ NodesFill quoter nodes flat.parameters rule

section

variable {quoter : Quoter} {front back : FlatTemplate} {rule next : Except Refusal (List Char)}

theorem Fills.append (hfront : Fills quoter front rule) (hback : Fills quoter back next) :
    Fills quoter (front.append back) (do
      let text ← rule
      let behind ← next
      return text ++ behind) := by
  obtain ⟨nodes, hreads, hfills⟩ := hfront
  obtain ⟨others, hreadsBack, hfillsBack⟩ := hback
  exact ⟨nodes ++ others, hreads.append hreadsBack, hfills.append hfillsBack⟩

/-- A fixed text in front. -/
theorem Fills.append_ok {text : List Char} (hfront : Fills quoter front (.ok text))
    (hback : Fills quoter back rule) :
    Fills quoter (front.append back) ((text ++ ·) <$> rule) := by
  have happend := hfront.append hback
  cases rule with
  | error refusal => exact happend
  | ok behind => exact happend

/-- Characters without a meaning are copied. -/
theorem Fills.verbatim {text : List Char}
    (h : text.all fun c => startsNothing c && decide (c ∉ Tag.characters)) :
    Fills quoter ⟨text, []⟩ (.ok text) := by
  induction text with
  | nil => exact ⟨[], .nil, .nil⟩
  | cons c rest ih =>
      rw [List.all_cons, Bool.and_eq_true, Bool.and_eq_true, decide_eq_true_iff] at h
      obtain ⟨⟨hc, htag⟩, hrest⟩ := h
      have hcopied : Fills quoter ⟨[c], []⟩ (.ok [c]) :=
        ⟨_, .singleton hc htag, .verbatim [c]⟩
      exact hcopied.append_ok (ih hrest)

theorem fills_cellSeparator : Fills quoter ⟨", ".toList, []⟩ (.ok cellSeparator) :=
  .verbatim (by decide)

theorem fills_rowSeparator : Fills quoter ⟨"), (".toList, []⟩ (.ok rowSeparator) :=
  .verbatim (by decide)

/-- Texts are joined one after the other. -/
theorem mapM_intercalate_cons_cons {α : Type} (separator : List Char)
    (rule : α → Except Refusal (List Char)) (x y : α) (others : List α) :
    (do
      let texts ← (x :: y :: others).mapM rule
      return separator.intercalate texts) = (do
        let text ← rule x
        let behind ← (separator ++ ·) <$> (do
          let texts ← (y :: others).mapM rule
          return separator.intercalate texts)
        return text ++ behind) := by
  simp only [List.mapM_cons]
  cases rule x with
  | error refusal => rfl
  | ok text =>
      cases rule y with
      | error refusal => rfl
      | ok behind =>
          cases others.mapM rule with
          | error refusal => rfl
          | ok texts =>
              refine congrArg Except.ok ?_
              exact (List.intercalate_cons_cons ..).trans (List.append_assoc ..)

/-- Pieces that give what a rule gives are joined like what the rule gives. -/
theorem Fills.joined {α : Type} {separator : List Char} {piece : α → FlatTemplate}
    {rule : α → Except Refusal (List Char)}
    (hseparator : Fills quoter ⟨separator, []⟩ (.ok separator)) {xs : List α}
    (h : ∀ x ∈ xs, Fills quoter (piece x) (rule x)) :
    Fills quoter (.joined separator (xs.map piece)) (do
      let texts ← xs.mapM rule
      return separator.intercalate texts) := by
  induction xs with
  | nil => exact ⟨[], .nil, .nil⟩
  | cons x others ih =>
      have hfirst := h x (List.mem_cons_self ..)
      have hothers := ih fun other hmem => h other (List.mem_cons_of_mem _ hmem)
      cases others with
      | nil =>
          have hpiece : FlatTemplate.joined separator ([x].map piece) = piece x := by
            simp [FlatTemplate.joined]
          have hrule : (do
              let texts ← [x].mapM rule
              return separator.intercalate texts) = rule x := by
            rw [List.mapM_cons, List.mapM_nil]
            cases rule x with
            | error refusal => rfl
            | ok text => exact congrArg Except.ok (List.intercalate_singleton ..)
          rwa [hpiece, hrule]
      | cons y more =>
          have hpieces : FlatTemplate.joined separator ((x :: y :: more).map piece) =
              (piece x).append (FlatTemplate.append ⟨separator, []⟩
                (.joined separator ((y :: more).map piece))) := by
            simp [FlatTemplate.joined, FlatTemplate.append, List.intercalate_cons_cons]
          rw [hpieces, mapM_intercalate_cons_cons]
          exact hfirst.append (hseparator.append_ok hothers)

/-! ## Cells and assignments -/

/-- A cell is written like a scalar of its own. -/
theorem fills_cell {cell : Value} (hskip : cell ≠ .skip) :
    Fills quoter ⟨"?".toList, [cell]⟩ (renderCell quoter cell) := by
  have honly : OnlyComplains (orNull (renderPlain quoter) cell) := fun refusal hrefusal =>
    onlyComplains_renderPlain cell refusal (eq_error_of_orNull hrefusal)
  refine ⟨_, .placeholder, .placeholder hskip rfl honly fun text => ?_⟩
  cases cell with
  | null => exact Iff.rfl
  | scalar s => exact Iff.rfl
  | _ => exact ⟨nofun, nofun⟩

theorem fills_name (name : List Char) :
    Fills quoter ⟨"?#".toList, [.text (String.ofList name)]⟩ (.ok (quoteIdentifier name)) := by
  refine ⟨_, .tagged (by decide), .placeholder nofun ?_ (.ok _) fun _ => Iff.rfl⟩
  show Except.ok (Presentation.literal (quoteIdentifier (String.ofList name).toList)) = _
  rw [String.toList_ofList]
  rfl

theorem render_column (table : Option (List Char)) (column : List Char) (cell : Value) :
    Assignment.render quoter ⟨table, some column, cell⟩ =
      (fun text => tablePart table ++ quoteIdentifier column ++ '=' :: text) <$>
        renderCell quoter cell :=
  (map_eq_pure_bind ..).symm

theorem fills_assignment (table column : Option (List Char)) {cell : Value}
    (hskip : cell ≠ .skip) :
    Fills quoter (.assignment table column cell)
      (Assignment.render quoter ⟨table, column, cell⟩) := by
  have hdot : Fills quoter ⟨".".toList, []⟩ (.ok ['.']) := .verbatim (by decide)
  have hequal : Fills quoter ⟨"=".toList, []⟩ (.ok ['=']) := .verbatim (by decide)
  have hcell : Fills quoter ⟨"?".toList, [cell]⟩ (renderCell quoter cell) := fills_cell hskip
  cases column with
  | none =>
      have hrender : Assignment.render quoter ⟨table, none, cell⟩ = renderCell quoter cell :=
        bind_pure _
      rw [hrender]
      exact hcell
  | some column =>
      have hassigned := (fills_name column).append_ok (hequal.append_ok hcell)
      rw [render_column]
      cases table with
      | none =>
          rw [Functor.map_map] at hassigned
          exact hassigned
      | some table =>
          have hwhole := (fills_name table).append_ok (hdot.append_ok hassigned)
          simp only [Functor.map_map] at hwhole
          simp only [tablePart, List.append_assoc]
          exact hwhole

/-! ## Arrays -/

/-- An entry contributes a piece for each assignment that it stands for. -/
theorem ofEntry_eq_map (entry : Option (List Char) × Value) :
    FlatTemplate.ofEntry entry =
      (assignmentsOf entry).map fun a => .assignment a.table a.column a.cell := by
  rw [FlatTemplate.ofEntry, assignmentsOf]
  cases entry.2.entries? with
  | some inner =>
      show inner.map _ = (inner.map _).map _
      rw [List.map_map]
      rfl
  | none => rfl

/-- **The flat template of an array gives what the array's rule gives.** -/
theorem fills_flat {value : Value} {entries : List (Option (List Char) × Value)}
    (hentries : value.entries? = some entries) (hne : entries ≠ [])
    (hskip : .skip ∉ value.arrayCells) : Fills quoter value.flat (renderArray quoter value) := by
  obtain ⟨first, others, rfl⟩ := List.exists_cons_of_ne_nil hne
  rw [renderArray, hentries, Value.flat]
  cases hrows : value.rows? with
  | some rows =>
      rw [arrayCells_of_rows? hrows] at hskip
      refine fills_rowSeparator.joined fun row hrow =>
        fills_cellSeparator.joined fun cell hcell => ?_
      exact fills_cell fun h => hskip (h ▸ List.mem_flatten_of_mem hrow hcell)
  | none =>
      rw [arrayCells_of_entries? hentries] at hskip
      have hpieces : (first :: others).flatMap FlatTemplate.ofEntry =
          ((first :: others).flatMap assignmentsOf).map fun a =>
            .assignment a.table a.column a.cell := by
        rw [List.map_flatMap]
        exact congrArg (List.flatMap · _) (funext ofEntry_eq_map)
      rw [hentries, Option.getD_some, hpieces]
      refine fills_cellSeparator.joined fun a ha =>
        fills_assignment a.table a.column fun h => hskip ?_
      exact h ▸ List.mem_map_of_mem ha

theorem fills_array {value : Value} (hskip : value ≠ .skip) :
    Fills quoter ⟨"?a".toList, [value]⟩ (renderArray quoter value) :=
  ⟨_, .tagged (by decide),
    .placeholder hskip rfl (onlyComplains_renderArray value) fun _ => Iff.rfl⟩

end

/-! ## Statements -/

section

variable {expander : Expander} {flat : FlatTemplate} {rule : Except Refusal (List Char)}

theorem Fills.expand_of_ok (h : Fills expander.quoter flat rule) {text : List Char}
    (hrule : rule = .ok text) :
    (expander.expand (String.ofList flat.template) flat.parameters).map (·.sql) =
      .ok (String.ofList text) := by
  obtain ⟨nodes, hreads, hfills⟩ := h
  have hrun := hfills.written text hrule [] 0 false
  rw [List.append_nil, ← hreads.read, ← expandText_eq] at hrun
  rw [Expander.expand, String.toList_ofList, Supply.ofList, hrun]
  rfl

theorem Fills.isUnsuitable_expand (h : Fills expander.quoter flat rule) {refusal : Refusal}
    (hrule : rule = .error refusal) :
    IsUnsuitable (expander.expand (String.ofList flat.template) flat.parameters) := by
  obtain ⟨nodes, hreads, hfills⟩ := h
  obtain ⟨complaint, tag, position, kind, hrun⟩ := hfills.refused refusal hrule [] 0 false
  rw [List.append_nil, ← hreads.read, ← expandText_eq] at hrun
  refine ⟨complaint, tag, position, kind, ?_⟩
  rw [Expander.expand, String.toList_ofList]
  exact congrArg (Except.map _) hrun

end

/-- **An array is its flat template.**  A container that is not empty and has no skip mark for
a cell expands to the statement that its flat template expands to, or an unsuitable parameter
is blamed for both. -/
theorem Expander.expand_array_flat (expander : Expander) {value : Value}
    {entries : List (Option (List Char) × Value)} (hentries : value.entries? = some entries)
    (hne : entries ≠ []) (hskip : .skip ∉ value.arrayCells) :
    (∃ sql, (expander.expand "?a" [value]).map (·.sql) = .ok sql ∧
      (expander.expand (String.ofList value.flat.template) value.flat.parameters).map (·.sql) =
        .ok sql) ∨
    (IsUnsuitable (expander.expand "?a" [value]) ∧
      IsUnsuitable
        (expander.expand (String.ofList value.flat.template) value.flat.parameters)) := by
  have hvalue : value ≠ .skip := by
    rintro rfl
    cases hentries
  have harray : Fills expander.quoter ⟨"?a".toList, [value]⟩ (renderArray expander.quoter value) :=
    fills_array hvalue
  have hflat : Fills expander.quoter value.flat (renderArray expander.quoter value) :=
    fills_flat hentries hne hskip
  have htag : String.ofList "?a".toList = "?a" := String.ofList_toList
  rw [← htag]
  cases hrule : renderArray expander.quoter value with
  | ok text =>
      exact .inl ⟨String.ofList text, harray.expand_of_ok hrule, hflat.expand_of_ok hrule⟩
  | error refusal =>
      exact .inr ⟨harray.isUnsuitable_expand hrule, hflat.isUnsuitable_expand hrule⟩

/-- A mapping with tables and columns, of which some are no texts, one is empty and one holds a
backtick and a question mark, and with an inner list that is empty; and rows of which one is
empty and another holds a cell that is refused. -/
theorem expand_array_flat_tables :
    let expander := Expander.ofProfile {}
    let tables : Value := .mapping .view [
      (.text "t\x60?", .map [(.text "n?", .int 1), (.int 2, .null), (.text "", .text "it's ?a")]),
      (.int 7, .map [(.text "m", .scalar (.bool true)), (.null, .int (-3))]), (.text "k", .null),
      (.null, .list []), (.scalar (.bool true), .int 5)]
    let sql := "\x60t\x60\x60?\x60.\x60n?\x60=1, NULL, \x60t\x60\x60?\x60.\x60\x60='it\\'s ?a', \x60m\x60=1, -3, \x60k\x60=NULL, 5"
    let rows : Value := .list [.list [], .map [(.text "n", .int 1), (.int 2, .set [])]]
    ((expander.expand "?a" [tables]).map (·.sql) = .ok sql ∧
      (expander.expand "?#.?#=?, ?, ?#.?#=?, ?#=?, ?, ?#=?, ?" [.text "t\x60?", .text "n?", .int 1,
        .null, .text "t\x60?", .text "", .text "it's ?a", .text "m", .scalar (.bool true),
        .int (-3), .text "k", .null, .int 5]).map (·.sql) = .ok sql) ∧
    IsUnsuitable (expander.expand "?a" [rows]) ∧
      IsUnsuitable (expander.expand "), (?, ?" [.int 1, .set []]) := by
  intro expander tables sql rows
  have htables : (expander.expand "?a" [tables]).map (·.sql) = .ok sql := by decide +kernel
  have hrows : expander.expand "?a" [rows] =
      .error (.unsuitable .cellNotScalar .array 1 .set) := by decide +kernel
  have hskip : .skip ∉ tables.arrayCells := by simp [tables, Value.arrayCells, Value.cells?]
  have hskipRows : .skip ∉ rows.arrayCells := by simp [rows, Value.arrayCells, Value.cells?]
  refine ⟨?_, ?_⟩
  · rcases expander.expand_array_flat rfl (by simp) hskip with
      ⟨found, harray, hflat⟩ | ⟨hbad, -⟩
    · obtain rfl := Except.ok.inj (htables.symm.trans harray)
      exact ⟨harray, hflat⟩
    · obtain ⟨_, _, _, _, herror⟩ := hbad
      rw [herror] at htables
      cases htables
  · rcases expander.expand_array_flat rfl (by simp) hskipRows with ⟨_, harray, -⟩ | hbad
    · rw [hrows] at harray
      cases harray
    · exact hbad

end SqlTemplate
