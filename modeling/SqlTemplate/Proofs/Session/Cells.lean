import Mathlib.Data.List.Basic
import SqlTemplate.Proofs.Rows.BadKeys
import SqlTemplate.Session.Statement

/-!
# Cells of a result

A connection hands out the rows of a result as lists of cells, and a session makes a row of
each of them by putting the names of the columns beside the cells.  If the names are different
and there is a cell for each of them (`Cells`), nothing is lost: the value of a column is the
cell at its place (`Cells.column?_row`).

So it does not matter whether a mapping is made of the cells or of the rows.  The keys are the
same, in the same order, and for each of them it is the same row that came last; if a value is
no key, both fail for that reason (`transform_keyed_pairCells`).

## Strategy

Both mappings are what is seen of one index, which keeps under each value of the first column
all cells of a row (`indexCells`).
-/

namespace SqlTemplate

open Exchange

/-! ## Columns of a row -/

namespace Row

variable {row : Row} {name other : String}

theorem column?_cons_self (name : String) (value : Value) (row : Row) :
    column? ((.text name, value) :: row) name = some value := by
  simp only [column?, Value.text?, List.find?_cons_of_pos, beq_self_eq_true, Option.map_some]

theorem column?_cons_of_ne (hne : other ≠ name) (value : Value) (row : Row) :
    column? ((.text other, value) :: row) name = row.column? name := by
  have hkey : ¬ ((Value.text other).text? == some name) = true :=
    fun h => hne (Option.some.inj (beq_iff_eq.1 h))
  rw [column?, List.find?_cons_of_neg (by exact hkey), column?]

theorem column?_append_of_ne (hne : other ≠ name) (value : Value) (row : Row) :
    column? (row ++ [(.text other, value)]) name = row.column? name := by
  rw [column?, List.find?_append, Option.map_or]
  exact (congrArg _ (column?_cons_of_ne hne value [])).trans (Option.or_none ..)

theorem set_of_new (h : row.column? name = none) (value : Value) :
    row.set name value = row ++ [(.text name, value)] := by
  rw [set, h]
  rfl

/-- Columns with different names that a row does not have are added one after the other. -/
theorem foldl_set (entries : List (String × Value)) (row : Row)
    (hdistinct : (entries.map (·.1)).Nodup) (hnew : ∀ entry ∈ entries, row.column? entry.1 = none) :
    entries.foldl (fun row entry => row.set entry.1 entry.2) row =
      row ++ entries.map fun entry => (.text entry.1, entry.2) := by
  induction entries generalizing row with
  | nil => exact (List.append_nil row).symm
  | cons first rest ih =>
      obtain ⟨hfirst, hrest⟩ := List.nodup_cons.1 hdistinct
      obtain ⟨hnone, hothers⟩ := List.forall_mem_cons.1 hnew
      have hstill : ∀ entry ∈ rest,
          column? (row ++ [(.text first.1, first.2)]) entry.1 = none := by
        intro entry hentry
        have hne : first.1 ≠ entry.1 := fun heq =>
          hfirst (List.mem_map.2 ⟨entry, hentry, heq.symm⟩)
        rw [column?_append_of_ne hne, hothers entry hentry]
      rw [List.foldl_cons, set_of_new hnone, ih _ hrest hstill, List.append_assoc]
      rfl

/-- A row shows the names beside the cells. -/
theorem ofCells_eq {names : List String} {cells : List Value} (hdistinct : names.Nodup)
    (hwide : cells.length = names.length) :
    ofCells names cells = (names.map Value.text).zip cells := by
  have hnames : (names.zip cells).map (·.1) = names := List.map_fst_zip (Nat.le_of_eq hwide.symm)
  rw [List.zip_map_left]
  exact foldl_set (names.zip cells) [] (hnames.symm ▸ hdistinct) fun _ _ => rfl

/-- The value of a column is the cell at its place. -/
theorem column?_ofCells {names : List String} {cells : List Value} (hdistinct : names.Nodup)
    (hwide : cells.length = names.length) {place : Nat} (hname : names[place]? = some name) :
    (ofCells names cells).column? name = cells[place]? := by
  rw [ofCells_eq hdistinct hwide]
  induction names generalizing cells place with
  | nil => cases hname
  | cons first others ih =>
      obtain ⟨hfirst, hothers⟩ := List.nodup_cons.1 hdistinct
      obtain ⟨cell, rest, rfl⟩ := List.exists_cons_of_length_eq_add_one hwide
      cases place with
      | zero =>
          obtain rfl := Option.some.inj hname
          exact column?_cons_self ..
      | succ place =>
          have hne : first ≠ name := fun heq => hfirst (heq ▸ List.mem_of_getElem? hname)
          exact (column?_cons_of_ne hne ..).trans (ih hothers (Nat.succ.inj hwide) hname)

end Row

/-! ## Rows of cells -/

/-- A cell for each of the columns. -/
structure Cells (names : List String) where
  values : List Value
  wide : values.length = names.length

namespace Cells

variable {names : List String}

/-- The cells under the names of their columns. -/
def row (cells : Cells names) : Row :=
  Row.ofCells names cells.values

def cell (place : Nat) (cells : Cells names) : Value :=
  cells.values.getD place .null

/-- Rows that are all as wide as the columns have a cell for each of them. -/
theorem exists_map_values {rows : List (List Value)}
    (hwide : ∀ cells ∈ rows, cells.length = names.length) :
    ∃ table : List (Cells names), table.map values = rows := by
  refine ⟨rows.pmap mk hwide, ?_⟩
  rw [List.map_pmap, List.pmap_eq_map, List.map_id']

section

variable {place : Nat} {name : String} (hname : names[place]? = some name) (cells : Cells names)
include hname

theorem getElem?_values : cells.values[place]? = some (cells.cell place) := by
  obtain ⟨hplace, -⟩ := List.getElem?_eq_some_iff.1 hname
  have hlt : place < cells.values.length := by
    rwa [cells.wide]
  rw [cell, List.getD_eq_getElem?_getD, List.getElem?_eq_getElem hlt, Option.getD_some]

theorem cellAt_values : cellAt place cells.values = pure (cells.cell place) := by
  rw [cellAt, getElem?_values hname]

/-- **The value of a column is the cell at its place.** -/
theorem column?_row (hdistinct : names.Nodup) :
    cells.row.column? name = some (cells.cell place) :=
  (Row.column?_ofCells hdistinct cells.wide hname).trans (getElem?_values hname cells)

/-- Only a cell that is no key has no label. -/
theorem label_row (hdistinct : names.Nodup) :
    cells.row.label name =
      ((cells.cell place).key.map (Label.mk (cells.cell place))).mapError .unhashable :=
  Row.label_of_column? (column?_row hname cells hdistinct)

end

theorem map_row (hdistinct : names.Nodup) (table : List (Cells names)) :
    table.map row = (table.map values).map fun cells => (names.map Value.text).zip cells := by
  rw [List.map_map]
  exact List.map_congr_left fun cells _ => Row.ofCells_eq hdistinct cells.wide

/-- The cells at one place of all rows. -/
theorem mapM_cellAt {place : Nat} {name : String} (hname : names[place]? = some name)
    (table : List (Cells names)) :
    (table.map values).mapM (cellAt place) = pure (table.map (cell place)) := by
  induction table with
  | nil => rfl
  | cons cells rest ih =>
      rw [List.map_cons, List.mapM_cons, cellAt_values hname, ih]
      rfl

end Cells

/-! ## Indices of cells -/

section

variable {names : List String} {β γ : Type}

/-- What is made of the last cells under each value of a column. -/
def indexCells (content : Cells names → β) (name : String) (table : List (Cells names)) :
    Except RowFailure (List (Label × β)) :=
  table.foldlM (fun index cells => do
    let label ← cells.row.label name
    return upsert label (fun _ => content cells) index) []

theorem map_indexCells (f : β → γ) (content : Cells names → β) (name : String)
    (table : List (Cells names)) :
    List.map (Prod.map id f) <$> indexCells content name table =
      indexCells (f ∘ content) name table := by
  have hchange (cells : Cells names) (old : Option β) :
      f ((fun _ => content cells) old) = (fun _ => f (content cells)) (old.map f) := rfl
  refine map_foldlM (fun index cells => ?_) table []
  cases cells.row.label name with
  | error failure => rfl
  | ok label => exact congrArg Except.ok (map_upsert (hchange cells) label index)

theorem indexRows_map_row (name : String) (table : List (Cells names)) :
    indexRows name (table.map Cells.row) =
      List.map (Prod.map id Cells.row) <$> indexCells id name table := by
  rw [map_indexCells]
  exact List.foldlM_map ..

theorem unhashable_of_indexCells {content : Cells names → β} {place : Nat} {name : String}
    {table : List (Cells names)} {failure : RowFailure} (hdistinct : names.Nodup)
    (hname : names[place]? = some name) (h : indexCells content name table = .error failure) :
    ∃ reason, failure = .unhashable reason := by
  have hfirst : First (fun cells failure => cells.row.BadAt name failure) table failure := by
    refine (foldlM_eq_error_iff fun index cells failure => ?_).1 h
    exact map_eq_error_iff.trans Row.label_eq_error_iff
  obtain ⟨front, cells, behind, -, -, hmissing | ⟨-, hreason⟩⟩ := hfirst
  · cases (Cells.column?_row hname cells hdistinct).symm.trans hmissing
  · exact ⟨_, rfl⟩

end

/-! ## Pairs of cells -/

namespace Exchange

/-- A step that comes to what a calculation with rows comes to. -/
def ofRows {α : Type} : Except RowFailure α → Exchange α
  | .ok value => pure value
  | .error failure => throw (.rows failure)

theorem foldlM_ofRows {α β : Type} {step : β → α → Exchange β}
    {step' : β → α → Except RowFailure β} (h : ∀ state x, step state x = ofRows (step' state x))
    (xs : List α) (start : β) : xs.foldlM step start = ofRows (xs.foldlM step' start) := by
  induction xs generalizing start with
  | nil => rfl
  | cons x rest ih =>
      rw [List.foldlM_cons, List.foldlM_cons, h]
      cases step' start x with
      | error failure => rfl
      | ok next => exact ih next

end Exchange

section

variable {names : List String} {first second : String} (hdistinct : names.Nodup)
  (hfirst : names[0]? = some first) (hsecond : names[1]? = some second)
include hdistinct hfirst hsecond

theorem addPair_values (pairs : List (Label × Value)) (cells : Cells names) :
    addPair pairs cells.values = ofRows (do
      let label ← cells.row.label first
      return upsert label (fun _ => cells.cell 1) pairs) := by
  rw [addPair, Cells.cellAt_values hfirst, Cells.cellAt_values hsecond, pure_bind, pure_bind,
    Cells.label_row hfirst cells hdistinct]
  cases (cells.cell 0).key with
  | error reason => rfl
  | ok key => rfl

theorem pairCells_map_values (table : List (Cells names)) :
    pairCells (table.map Cells.values) =
      ofRows ((fun index => .map (index.map fun entry => (entry.1.value, entry.2.cell 1))) <$>
        indexCells id first table) := by
  have hrun : table.foldlM (fun pairs cells => addPair pairs cells.values) [] =
      ofRows (indexCells (Cells.cell 1) first table) :=
    foldlM_ofRows (addPair_values hdistinct hfirst hsecond) table []
  rw [pairCells, List.foldlM_map, hrun, ← Function.comp_id (Cells.cell 1), ← map_indexCells]
  cases indexCells id first table with
  | error failure => rfl
  | ok index =>
      refine congrArg (fun entries => (pure (Value.map entries) : Exchange Value)) ?_
      rw [List.map_map]
      rfl

/-- **Pairs of cells agree with rows by their first column.**  The keys are the same, and for
each row there is the cell in its second column; or both fail on a value that is no key. -/
theorem transform_keyed_pairCells (table : List (Cells names)) :
    (∃ entries : List (Value × Row × Value),
      (∀ entry ∈ entries, entry.2.1.column? second = some entry.2.2) ∧
      (Transformer.keyed first).transform (table.map Cells.row) =
        .ok (.map (entries.map fun entry => (entry.1, .map entry.2.1))) ∧
      pairCells (table.map Cells.values) =
        pure (.map (entries.map fun entry => (entry.1, entry.2.2)))) ∨
    ∃ reason,
      (Transformer.keyed first).transform (table.map Cells.row) = .error (.unhashable reason) ∧
      pairCells (table.map Cells.values) = throw (.rows (.unhashable reason)) := by
  rw [Transformer.transform, indexRows_map_row, pairCells_map_values hdistinct hfirst hsecond]
  cases hindex : indexCells id first table with
  | error failure =>
      obtain ⟨reason, rfl⟩ := unhashable_of_indexCells hdistinct hfirst hindex
      exact .inr ⟨reason, rfl, rfl⟩
  | ok index =>
      refine .inl ⟨index.map fun entry => (entry.1.value, entry.2.row, entry.2.cell 1), ?_, ?_, ?_⟩
      · intro entry hentry
        obtain ⟨⟨label, cells⟩, -, rfl⟩ := List.mem_map.1 hentry
        exact Cells.column?_row hsecond cells hdistinct
      · have hshown : (index.map (Prod.map id Cells.row)).map
              (fun entry => (entry.1.value, Value.map entry.2)) =
            (index.map fun entry => (entry.1.value, entry.2.row, entry.2.cell 1)).map
              fun entry => (entry.1, .map entry.2.1) := by
          rw [List.map_map, List.map_map]
          rfl
        exact congrArg (fun entries => Except.ok (Value.map entries)) hshown
      · rw [List.map_map]
        rfl

end

end SqlTemplate
