import Mathlib.Data.List.Forall2
import SqlTemplate.Proofs.Literal.Rendered

/-!
# Lists of identifiers are read back

The names in a list of identifiers are arbitrary texts.  They may be empty, and they may hold
backticks, points, commas and blanks, so that the marks of a name touch each other and those
between the names.  Still the list says which names it was made of: a reader that knows
nothing but the three marks recovers all of them, each with its table (`present_identifiers`).

## Strategy

The reader cuts at commas, then at points, and looks for them outside of backticks only; it
does not know where a name ends.  It need not: a doubled backtick takes it out of the name
and in again, with nothing between the two that it could cut at.  So a name between backticks
is passed over as a whole, whatever comes next (`uncut_quoteIdentifier`), and what is passed
over may be put together (`Uncut.append`).
-/

namespace SqlTemplate

/-! ## What a list of identifiers names -/

/-- All columns, or one of them by its name. -/
inductive ColumnName where
  | all
  | named (name : List Char)
deriving DecidableEq, Repr

/-- Columns, of a table or of no table in particular. -/
structure Column where
  table : Option (List Char)
  name : ColumnName
deriving DecidableEq, Repr

/-- The column that a name stands for, if it is a text. -/
def columnOf? (entry : Option (List Char) × Value) : Option Column :=
  entry.2.text?.map fun name =>
    ⟨entry.1, if name = "*" then .all else .named name.toList⟩

/-- The names of one entry, with the table that they have in common. -/
def Value.namesUnder (table : Option (List Char)) : Value → List (Option (List Char) × Value)
  | sequence _ names => names.map (table, ·)
  | name => [(table, name)]

/-- The names in a container, in the order of its entries: text keys are tables, all other
keys and the items of a sequence are not. -/
def Value.names : Value → List (Option (List Char) × Value)
  | sequence _ items => items.flatMap (namesUnder none)
  | mapping _ entries => entries.flatMap fun entry => entry.2.namesUnder entry.1.label?
  | _ => []

/-- The columns that a container names, if all names are texts. -/
def Value.columns? (value : Value) : Option (List Column) :=
  value.names.mapM columnOf?

/-! ## A reader -/

/-- Cuts a text at the places of a separator outside of backticks.  The flag tells whether
the text begins inside of them. -/
def splitOutside (separator : List Char) (quoted : Bool) : List Char → List (List Char)
  | [] => [[]]
  | c :: rest =>
      if !quoted && separator.isPrefixOf (c :: rest) then
        [] :: splitOutside separator false (rest.drop (separator.length - 1))
      else
        (splitOutside separator (if c = identifierMark then !quoted else quoted) rest).modifyHead
          (c :: ·)
termination_by text => text.length
decreasing_by
  · rw [List.length_drop, List.length_cons]
    omega
  · exact Nat.lt_succ_self _

/-- Reads a name up to its last backtick; every backtick in it is doubled. -/
def undouble? : List Char → Option (List Char)
  | [] => none
  | ['\x60'] => some []
  | '\x60' :: '\x60' :: rest => (undouble? rest).map ('\x60' :: ·)
  | '\x60' :: _ => none
  | c :: rest => (undouble? rest).map (c :: ·)

/-- Reads a name between backticks. -/
def readName? : List Char → Option (List Char)
  | '\x60' :: rest => undouble? rest
  | _ => none

def readColumnName? (text : List Char) : Option ColumnName :=
  if text = ['*'] then some .all else (readName? text).map .named

/-- Reads a column, with its table in front of a point. -/
def readColumn? (text : List Char) : Option Column :=
  match splitOutside ['.'] false text with
  | [name] => (readColumnName? name).map (⟨none, ·⟩)
  | [table, name] => do
      let table ← readName? table
      let name ← readColumnName? name
      return ⟨some table, name⟩
  | _ => none

/-- Reads a list of columns; nothing at all is the empty list. -/
def readColumns? (text : List Char) : Option (List Column) :=
  if text = [] then some [] else (splitOutside [',', ' '] false text).mapM readColumn?

/-! ## Names as they are written -/

/-- What is written for a name behind its first backtick. -/
def writtenTail (name : List Char) : List Char :=
  name.flatMap (fun c => if c = identifierMark then [c, c] else [c]) ++ [identifierMark]

theorem writtenTail_nil : writtenTail [] = [identifierMark] := rfl

theorem writtenTail_mark (name : List Char) :
    writtenTail (identifierMark :: name) =
      identifierMark :: identifierMark :: writtenTail name := rfl

theorem writtenTail_cons {c : Char} (hc : c ≠ identifierMark) (name : List Char) :
    writtenTail (c :: name) = c :: writtenTail name := by
  rw [writtenTail, List.flatMap_cons, if_neg hc]
  rfl

/-! ## Cutting outside of backticks -/

section

variable {separator : List Char}

theorem splitOutside_nil (quoted : Bool) : splitOutside separator quoted [] = [[]] := by
  rw [splitOutside]

theorem splitOutside_inside {c : Char} (hc : c ≠ identifierMark) (rest : List Char) :
    splitOutside separator true (c :: rest) =
      (splitOutside separator true rest).modifyHead (c :: ·) := by
  rw [splitOutside, if_neg (by simp), if_neg hc]

/-- A character that no separator begins with is not cut at. -/
theorem splitOutside_cons {c : Char} (hc : separator.head?.all (· != c)) (hne : separator ≠ [])
    (quoted : Bool) (rest : List Char) :
    splitOutside separator quoted (c :: rest) =
      (splitOutside separator (if c = identifierMark then !quoted else quoted) rest).modifyHead
        (c :: ·) := by
  have hprefix : separator.isPrefixOf (c :: rest) = false := by
    obtain ⟨first, more, rfl⟩ := List.exists_cons_of_ne_nil hne
    have hfirst : first ≠ c := by simpa using hc
    rw [List.isPrefixOf_cons_cons, beq_false_of_ne hfirst, Bool.false_and]
  rw [splitOutside, hprefix, Bool.and_false, if_neg (by decide)]

theorem splitOutside_separator (hne : separator ≠ []) (rest : List Char) :
    splitOutside separator false (separator ++ rest) = [] :: splitOutside separator false rest := by
  obtain ⟨first, more, rfl⟩ := List.exists_cons_of_ne_nil hne
  rw [List.cons_append, splitOutside, if_pos (by simp [List.isPrefixOf_iff_prefix])]
  simp

end

/-- A text that is passed over as a whole, whatever comes next. -/
def Uncut (separator text : List Char) : Prop :=
  ∀ rest, splitOutside separator false (text ++ rest) =
    (splitOutside separator false rest).modifyHead (text ++ ·)

section

variable {separator : List Char}

theorem Uncut.append {front back : List Char} (hfront : Uncut separator front)
    (hback : Uncut separator back) : Uncut separator (front ++ back) := by
  intro rest
  rw [List.append_assoc, hfront, hback, List.modifyHead_modifyHead]
  simp only [Function.comp_def, List.append_assoc]

theorem Uncut.split_eq {text : List Char} (h : Uncut separator text) :
    splitOutside separator false text = [text] := by
  have hend := h []
  rwa [List.append_nil, splitOutside_nil, List.modifyHead_cons, List.append_nil] at hend

theorem Uncut.split_append {text : List Char} (h : Uncut separator text) (hne : separator ≠ [])
    (rest : List Char) :
    splitOutside separator false (text ++ separator ++ rest) =
      text :: splitOutside separator false rest := by
  rw [List.append_assoc, h, splitOutside_separator hne, List.modifyHead_cons, List.append_nil]

theorem uncut_singleton {c : Char} (hc : separator.head?.all (· != c)) (hne : separator ≠ [])
    (hmark : c ≠ identifierMark) : Uncut separator [c] := by
  intro rest
  rw [List.singleton_append, splitOutside_cons hc hne, if_neg hmark]
  rfl

variable (hmark : separator.head?.all (· != identifierMark)) (hne : separator ≠ [])

include hmark hne

/-- From inside of a name its rest is passed over. -/
theorem splitOutside_writtenTail (name rest : List Char) :
    splitOutside separator true (writtenTail name ++ rest) =
      (splitOutside separator false rest).modifyHead (writtenTail name ++ ·) := by
  induction name with
  | nil =>
      rw [writtenTail_nil, List.singleton_append, splitOutside_cons hmark hne, if_pos rfl]
      rfl
  | cons c name ih =>
      by_cases hc : c = identifierMark
      · -- out of the name and in again
        subst hc
        rw [writtenTail_mark, List.cons_append, List.cons_append, splitOutside_cons hmark hne,
          if_pos rfl, splitOutside_cons hmark hne, if_pos rfl, Bool.not_true, Bool.not_false, ih,
          List.modifyHead_modifyHead, List.modifyHead_modifyHead]
        rfl
      · rw [writtenTail_cons hc, List.cons_append, splitOutside_inside hc, ih,
          List.modifyHead_modifyHead]
        rfl

/-- **A name between backticks is passed over as a whole.** -/
theorem uncut_quoteIdentifier (name : List Char) : Uncut separator (quoteIdentifier name) := by
  intro rest
  have hname : quoteIdentifier name = identifierMark :: writtenTail name := rfl
  rw [hname, List.cons_append, splitOutside_cons hmark hne, if_pos rfl, Bool.not_false,
    splitOutside_writtenTail hmark hne, List.modifyHead_modifyHead]
  rfl

end

/-! ## Reading names and columns -/

theorem undouble?_writtenTail (name : List Char) : undouble? (writtenTail name) = some name := by
  induction name with
  | nil => rfl
  | cons c name ih =>
      by_cases hc : c = identifierMark
      · subst hc
        rw [writtenTail_mark, identifierMark, undouble?, ih]
        rfl
      · rw [writtenTail_cons hc, undouble?, ih]
        · rfl
        · exact fun hmark _ => hc hmark
        · exact fun more hmark _ => hc hmark
        · exact hc

theorem readName?_quoteIdentifier (name : List Char) : readName? (quoteIdentifier name) = some name :=
  undouble?_writtenTail name

/-- How a column is written after the point. -/
def ColumnName.text : ColumnName → List Char
  | all => wildcard
  | named name => quoteIdentifier name

def Column.text (column : Column) : List Char :=
  tablePart column.table ++ column.name.text

theorem quoteIdentifier_ne_wildcard (name : List Char) : quoteIdentifier name ≠ ['*'] := by
  intro heq
  cases (List.cons.inj heq).1

theorem readColumnName?_text (name : ColumnName) : readColumnName? name.text = some name := by
  cases name with
  | all => rfl
  | named name =>
      rw [readColumnName?, ColumnName.text, if_neg (quoteIdentifier_ne_wildcard name),
        readName?_quoteIdentifier]
      rfl

theorem uncut_columnName {separator : List Char} (hmark : separator.head?.all (· != identifierMark))
    (hstar : separator.head?.all (· != '*')) (hne : separator ≠ []) (name : ColumnName) :
    Uncut separator name.text := by
  cases name with
  | all => exact uncut_singleton hstar hne (by decide)
  | named name => exact uncut_quoteIdentifier hmark hne name

theorem readColumn?_text (column : Column) : readColumn? column.text = some column := by
  obtain ⟨table, name⟩ := column
  have hname : Uncut ['.'] name.text := uncut_columnName (by decide) (by decide) (by decide) name
  cases table with
  | none =>
      have hpieces : splitOutside ['.'] false (Column.mk none name).text = [name.text] :=
        hname.split_eq
      simp only [readColumn?, hpieces, readColumnName?_text, Option.map_some]
  | some table =>
      have htable : Uncut ['.'] (quoteIdentifier table) :=
        uncut_quoteIdentifier (by decide) (by decide) table
      have hpieces : splitOutside ['.'] false (Column.mk (some table) name).text =
          [quoteIdentifier table, name.text] := by
        rw [Column.text, tablePart, htable.split_append (by decide), hname.split_eq]
      simp only [readColumn?, hpieces, readName?_quoteIdentifier, readColumnName?_text]
      rfl

theorem uncut_columnText (column : Column) : Uncut [',', ' '] column.text := by
  have hname : Uncut [',', ' '] column.name.text :=
    uncut_columnName (by decide) (by decide) (by decide) column.name
  rw [Column.text]
  cases column.table with
  | none => exact hname
  | some table =>
      have htable : Uncut [',', ' '] (quoteIdentifier table) :=
        uncut_quoteIdentifier (by decide) (by decide) table
      exact (htable.append (uncut_singleton (by decide) (by decide) (by decide))).append hname

theorem columnText_ne_nil (column : Column) : column.text ≠ [] := by
  intro hnil
  have hname := (List.append_eq_nil_iff.1 hnil).2
  cases hcolumn : column.name with
  | all =>
      rw [hcolumn] at hname
      cases hname
  | named name =>
      rw [hcolumn] at hname
      cases hname

/-- Joined texts are cut where they were joined. -/
theorem splitOutside_intercalate {columns : List Column} (hne : columns ≠ []) :
    splitOutside [',', ' '] false (cellSeparator.intercalate (columns.map Column.text)) =
      columns.map Column.text := by
  induction columns with
  | nil => exact absurd rfl hne
  | cons column others ih =>
      cases others with
      | nil =>
          rw [List.map_singleton, List.intercalate_singleton]
          exact (uncut_columnText column).split_eq
      | cons second more =>
          rw [List.map_cons, List.map_cons, List.intercalate_cons_cons, ← List.map_cons]
          exact ((uncut_columnText column).split_append (by decide) _).trans
            (congrArg _ (ih (List.cons_ne_nil _ _)))

theorem readColumns?_intercalate (columns : List Column) :
    readColumns? (cellSeparator.intercalate (columns.map Column.text)) = some columns := by
  cases columns with
  | nil => rfl
  | cons column others =>
      have htext : cellSeparator.intercalate ((column :: others).map Column.text) ≠ [] := by
        intro hnil
        have hpieces := splitOutside_intercalate (List.cons_ne_nil column others)
        rw [hnil, splitOutside_nil, List.map_cons] at hpieces
        exact columnText_ne_nil column (List.cons.inj hpieces).1.symm
      rw [readColumns?, if_neg htext, splitOutside_intercalate (List.cons_ne_nil _ _),
        List.mapM_map, Function.comp_def, funext readColumn?_text]
      exact (List.mapM_pure (m := Option) (f := id)).trans (congrArg some (List.map_id _))

/-! ## What is written for a container -/

/-- A name is written as the column that it stands for. -/
theorem ensures_renderName_column (entry : Option (List Char) × Value) :
    Ensures (fun text => ∃ column, columnOf? entry = some column ∧ text = column.text)
      (renderName entry.1 entry.2) := by
  unfold renderName
  split
  · next name hname =>
      have hwildcard : name.toList = wildcard ↔ name = "*" :=
        ⟨fun h => String.toList_inj.1 h, fun h => by rw [h]; rfl⟩
      refine Ensures.ok ⟨⟨entry.1, if name = "*" then .all else .named name.toList⟩,
        by rw [columnOf?, hname]; rfl, ?_⟩
      by_cases hall : name = "*"
      · rw [if_pos (hwildcard.2 hall), if_pos hall]
        rfl
      · rw [if_neg (mt hwildcard.1 hall), if_neg hall]
        rfl
  · exact Ensures.error

theorem names_of_entries? {value : Value} {entries : List (Option (List Char) × Value)}
    (h : value.entries? = some entries) : value.names = entries.flatMap namesOf := by
  have hentry : ∀ (table : Option (List Char)) (item : Value),
      item.namesUnder table = namesOf (table, item) := by
    intro table item
    cases item <;> rfl
  cases value with
  | sequence kind items =>
      obtain rfl := Option.some.inj h
      rw [Value.names, List.flatMap_map]
      exact congrArg (List.flatMap · items) (funext (hentry none))
  | mapping kind inner =>
      obtain rfl := Option.some.inj h
      rw [Value.names, List.flatMap_map]
      exact congrArg (List.flatMap · inner) (funext fun entry => hentry entry.1.label? entry.2)
  | _ => cases h

/-- The texts of names that are all columns. -/
theorem exists_columns {entries : List (Option (List Char) × Value)} {texts : List (List Char)}
    (h : List.Forall₂ (fun entry text => ∃ column, columnOf? entry = some column ∧
      text = column.text) entries texts) :
    ∃ columns, entries.mapM columnOf? = some columns ∧ texts = columns.map Column.text := by
  induction h with
  | nil => exact ⟨[], rfl, rfl⟩
  | cons hfirst _ ih =>
      obtain ⟨column, hcolumn, rfl⟩ := hfirst
      obtain ⟨columns, hcolumns, rfl⟩ := ih
      refine ⟨column :: columns, ?_, rfl⟩
      rw [List.mapM_cons, hcolumn, hcolumns]
      rfl

theorem ensures_renderIdentifiers_columns {value : Value} (hcontainer : value.isContainer) :
    Ensures (fun text => ∃ columns, value.columns? = some columns ∧
      text = cellSeparator.intercalate (columns.map Column.text)) (renderIdentifiers value) := by
  unfold renderIdentifiers
  split
  · cases hcontainer
  · split
    · exact Ensures.error
    · next entries hentries =>
        refine (Ensures.forall₂_mapM fun entry _ => ensures_renderName_column entry).bind
          fun texts htexts => Ensures.ok ?_
        obtain ⟨columns, hcolumns, rfl⟩ := exists_columns htexts
        refine ⟨columns, ?_, rfl⟩
        rw [Value.columns?, names_of_entries? hentries, hcolumns]

theorem readColumns?_of_present {quoter : Quoter} {value : Value} {text : List Char}
    (hcontainer : value.isContainer)
    (hpresent : present quoter .identifiers value = .ok (.literal text)) :
    ∃ columns, value.columns? = some columns ∧ readColumns? text = some columns := by
  obtain ⟨columns, hcolumns, rfl⟩ :=
    ensures_renderIdentifiers_columns hcontainer text (eq_ok_of_map_literal hpresent)
  exact ⟨columns, hcolumns, readColumns?_intercalate columns⟩

/-- **Lists of identifiers decode uniquely.**  A container that is accepted names a sequence of
columns, and that sequence is read back from its text.  So containers that name different
columns are written differently. -/
theorem present_identifiers {quoter : Quoter} {value : Value} {text : List Char}
    (hcontainer : value.isContainer)
    (hpresent : present quoter .identifiers value = .ok (.literal text)) :
    (∃ columns, value.columns? = some columns ∧ readColumns? text = some columns) ∧
    ∀ (other : Value) (otherText : List Char), other.isContainer →
      present quoter .identifiers other = .ok (.literal otherText) →
      other.columns? ≠ value.columns? → otherText ≠ text := by
  have hread := readColumns?_of_present hcontainer hpresent
  refine ⟨hread, ?_⟩
  rintro other otherText hother hpresentOther hdifferent rfl
  obtain ⟨columns, hcolumns, htext⟩ := hread
  obtain ⟨others, hothers, htextOther⟩ := readColumns?_of_present hother hpresentOther
  obtain rfl := Option.some.inj (htext.symm.trans htextOther)
  exact hdifferent (hothers.trans hcolumns.symm)

/-- Names that end in backticks or are empty, names with the marks of a list in them, and a
star with a table; without the table of the first entry another list comes of it. -/
theorem present_identifiers_marks :
    let tables : Value := .map [(.text "t\x60.", .list [.text "a, b\x60", .text "*", .text ""]),
      (.int 7, .text "\x60.\x60")]
    let columns : List Column := [⟨some "t\x60.".toList, .named "a, b\x60".toList⟩,
      ⟨some "t\x60.".toList, .all⟩, ⟨some "t\x60.".toList, .named []⟩,
      ⟨none, .named "\x60.\x60".toList⟩]
    let text := "\x60t\x60\x60.\x60.\x60a, b\x60\x60\x60, \x60t\x60\x60.\x60.*, \x60t\x60\x60.\x60.\x60\x60, \x60\x60\x60.\x60\x60\x60".toList
    let bare : Value := .list [.list [.text "a, b\x60", .text "*", .text ""], .text "\x60.\x60"]
    let bareText := "\x60a, b\x60\x60\x60, *, \x60\x60, \x60\x60\x60.\x60\x60\x60".toList
    (present .mysql .identifiers tables = .ok (.literal text) ∧ tables.columns? = some columns ∧
      readColumns? text = some columns) ∧
    present .mysql .identifiers bare = .ok (.literal bareText) ∧
      bare.columns? ≠ tables.columns? ∧ bareText ≠ text := by
  intro tables columns text bare bareText
  have hpresent : present .mysql .identifiers tables = .ok (.literal text) := by decide +kernel
  have hbare : present .mysql .identifiers bare = .ok (.literal bareText) := by decide +kernel
  have hcolumns : tables.columns? = some columns := by decide +kernel
  have hdifferent : bare.columns? ≠ tables.columns? := by decide +kernel
  obtain ⟨⟨read, hnamed, hread⟩, hunique⟩ := present_identifiers rfl hpresent
  obtain rfl := Option.some.inj (hnamed.symm.trans hcolumns)
  exact ⟨⟨hpresent, hcolumns, hread⟩, hbare, hdifferent, hunique bare bareText rfl hbare hdifferent⟩

end SqlTemplate
