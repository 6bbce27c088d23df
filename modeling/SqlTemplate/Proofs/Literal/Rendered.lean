import Mathlib.Data.List.Forall2
import SqlTemplate.Literal.Presentation
import SqlTemplate.Proofs.Literal.Quoting
import SqlTemplate.Proofs.Literal.Tame

/-!
# Rendered values are passive

What a placeholder writes into a statement consists of tame texts (numbers, `NULL`,
the marks between cells, rows and names), of strings, and of names between backticks.
All of these are passive, so what a placeholder writes is passive: in front of any
text it is read as it was meant, and nothing of it is a comment or a mark of a
template (`present_passive`).

The one thing that may go wrong is a string.  `Quoter.Closes` says of which strings the
quoter makes passive literals; those of MySQL are passive for every string.
-/

namespace SqlTemplate

open SqlTemplate.Number

/-! ## The strings of a value -/

mutual

/-- All strings in a value, keys included. -/
def Value.strings : Value → List String
  | .scalar (.text s) => [s]
  | .sequence _ items => Value.stringsOfAll items
  | .mapping _ entries => Value.stringsOfEntries entries
  | .set members => Value.stringsOfAll members
  | _ => []

def Value.stringsOfAll : List Value → List String
  | [] => []
  | value :: rest => value.strings ++ Value.stringsOfAll rest

def Value.stringsOfEntries : List (Value × Value) → List String
  | [] => []
  | (key, value) :: rest => key.strings ++ value.strings ++ Value.stringsOfEntries rest

end

theorem strings_subset_of_mem {items : List Value} {item : Value} (h : item ∈ items) :
    item.strings ⊆ Value.stringsOfAll items := by
  induction items with
  | nil => cases h
  | cons first rest ih =>
      rw [Value.stringsOfAll]
      rcases List.mem_cons.1 h with rfl | hmem
      · exact List.subset_append_left _ _
      · exact List.Subset.trans (ih hmem) (List.subset_append_right _ _)

theorem strings_subset_of_mem_entries {entries : List (Value × Value)} {entry : Value × Value}
    (h : entry ∈ entries) : entry.2.strings ⊆ Value.stringsOfEntries entries := by
  induction entries with
  | nil => cases h
  | cons first rest ih =>
      obtain ⟨key, value⟩ := first
      rw [Value.stringsOfEntries]
      rcases List.mem_cons.1 h with rfl | hmem
      · exact List.Subset.trans (List.subset_append_right _ _) (List.subset_append_left _ _)
      · exact List.Subset.trans (ih hmem) (List.subset_append_right _ _)

theorem strings_subset_of_entries? {value : Value} {entries : List (Option (List Char) × Value)}
    (h : value.entries? = some entries) {entry : Option (List Char) × Value}
    (hmem : entry ∈ entries) : entry.2.strings ⊆ value.strings := by
  cases value with
  | sequence kind items =>
      obtain rfl := Option.some.inj h
      obtain ⟨item, hitem, rfl⟩ := List.mem_map.1 hmem
      exact strings_subset_of_mem hitem
  | mapping kind inner =>
      obtain rfl := Option.some.inj h
      obtain ⟨pair, hpair, rfl⟩ := List.mem_map.1 hmem
      exact strings_subset_of_mem_entries hpair
  | _ => cases h

theorem cells?_eq_map_entries? (value : Value) :
    value.cells? = value.entries?.map (·.map Prod.snd) := by
  cases value <;> simp [Value.cells?, Value.entries?, Function.comp_def]

theorem strings_subset_of_cells? {value : Value} {cells : List Value}
    (h : value.cells? = some cells) {cell : Value} (hmem : cell ∈ cells) :
    cell.strings ⊆ value.strings := by
  rw [cells?_eq_map_entries?] at h
  obtain ⟨entries, hentries, rfl⟩ := Option.map_eq_some_iff.1 h
  obtain ⟨entry, hentry, rfl⟩ := List.mem_map.1 hmem
  exact strings_subset_of_entries? hentries hentry

/-- Every item of a sequence of rows gives its cells. -/
theorem forall₂_of_rows? {kind : SequenceKind} {items : List Value} {rows : List (List Value)}
    (h : (Value.sequence kind items).rows? = some rows) :
    List.Forall₂ (fun item row => item.cells? = some row) items rows := by
  rw [Value.rows?] at h
  induction items generalizing rows with
  | nil =>
      obtain rfl := Option.some.inj h
      exact .nil
  | cons first rest ih =>
      rw [List.mapM_cons] at h
      obtain ⟨cells, hcells, h⟩ := Option.bind_eq_some_iff.1 h
      obtain ⟨others, hothers, h⟩ := Option.bind_eq_some_iff.1 h
      obtain rfl := Option.some.inj h
      exact .cons hcells (ih hothers)

theorem exists_of_mem_rows {items : List Value} {rows : List (List Value)}
    (h : List.Forall₂ (fun item row => item.cells? = some row) items rows) {row : List Value}
    (hmem : row ∈ rows) : ∃ item ∈ items, item.cells? = some row := by
  induction h with
  | nil => cases hmem
  | @cons first cells rest others hfirst _ ih =>
      rcases List.mem_cons.1 hmem with rfl | hrow
      · exact ⟨first, List.mem_cons_self .., hfirst⟩
      · obtain ⟨item, hitem, hcells⟩ := ih hrow
        exact ⟨item, List.mem_cons_of_mem _ hitem, hcells⟩

theorem strings_subset_of_rows? {value : Value} {rows : List (List Value)}
    (h : value.rows? = some rows) {row : List Value} (hrow : row ∈ rows) {cell : Value}
    (hcell : cell ∈ row) : cell.strings ⊆ value.strings := by
  cases value with
  | sequence kind items =>
      obtain ⟨item, hitem, hcells⟩ := exists_of_mem_rows (forall₂_of_rows? h) hrow
      exact List.Subset.trans (strings_subset_of_cells? hcells hcell) (strings_subset_of_mem hitem)
  | _ => cases h

/-! ## What a rule gives, if it gives anything -/

section

variable {ε α β : Type} {p : α → Prop} {q : β → Prop}

/-- A property of the value that a rule gives, if it gives one. -/
def Ensures (p : α → Prop) (rule : Except ε α) : Prop :=
  ∀ value, rule = .ok value → p value

theorem Ensures.ok {value : α} (h : p value) : Ensures p (.ok value : Except ε α) := by
  rintro _ ⟨⟩
  exact h

theorem Ensures.error {reason : ε} : Ensures p (.error reason : Except ε α) := nofun

theorem Ensures.mono {p' : α → Prop} {rule : Except ε α} (h : Ensures p rule)
    (himp : ∀ value, p value → p' value) : Ensures p' rule :=
  fun value hvalue => himp value (h value hvalue)

theorem Ensures.bind {rule : Except ε α} {next : α → Except ε β} (hrule : Ensures p rule)
    (hnext : ∀ value, p value → Ensures q (next value)) : Ensures q (rule >>= next) := by
  cases rule with
  | error reason => exact Ensures.error
  | ok value => exact hnext value (hrule value rfl)

theorem Ensures.mapError {ε' : Type} {rule : Except ε α} (f : ε → ε') (h : Ensures p rule) :
    Ensures p (rule.mapError f) := by
  cases rule with
  | error reason => exact Ensures.error
  | ok value => exact Ensures.ok (h value rfl)

theorem Ensures.mapM {f : α → Except ε β} {xs : List α} (h : ∀ x ∈ xs, Ensures q (f x)) :
    Ensures (fun values => ∀ value ∈ values, q value) (xs.mapM f) := by
  induction xs with
  | nil => exact Ensures.ok fun _ hmem => absurd hmem List.not_mem_nil
  | cons first rest ih =>
      have hrest := ih fun x hmem => h x (List.mem_cons_of_mem _ hmem)
      rw [List.mapM_cons]
      refine (h first (List.mem_cons_self ..)).bind fun value hvalue => ?_
      refine hrest.bind fun others hothers => ?_
      exact Ensures.ok (List.forall_mem_cons.2 ⟨hvalue, hothers⟩)

theorem Ensures.forall₂_mapM {r : α → β → Prop} {f : α → Except ε β} {xs : List α}
    (h : ∀ x ∈ xs, Ensures (r x) (f x)) : Ensures (List.Forall₂ r xs) (xs.mapM f) := by
  induction xs with
  | nil => exact Ensures.ok .nil
  | cons first rest ih =>
      have hrest := ih fun x hmem => h x (List.mem_cons_of_mem _ hmem)
      rw [List.mapM_cons]
      refine (h first (List.mem_cons_self ..)).bind fun value hvalue => ?_
      exact hrest.bind fun others hothers => Ensures.ok (.cons hvalue hothers)

end

/-! ## Scalars -/

/-- Whether a quoter makes passive literals of tame texts and of the given strings. -/
structure Quoter.Closes (quoter : Quoter) (strings : List String) : Prop where
  tame : ∀ text, isTame text → Passive (quoter.quote text)
  string : ∀ s ∈ strings, Passive (quoter.quote s.toList)

theorem Quoter.Closes.mono {quoter : Quoter} {all some : List String} (h : quoter.Closes all)
    (hsome : some ⊆ all) : quoter.Closes some :=
  ⟨h.tame, fun s hmem => h.string s (hsome hmem)⟩

/-- The strings of MySQL are closed, whatever they hold. -/
theorem Quoter.closes_mysql (strings : List String) : Quoter.mysql.Closes strings :=
  ⟨fun text _ => passive_mysql_quote text, fun s _ => passive_mysql_quote s.toList⟩

/-- Strings in which the quotation mark is doubled are closed if they hold no backslash. -/
theorem Quoter.closes_doubling (dialect : String) {doubled : List Char} (hmark : '\'' ∈ doubled)
    {strings : List String} (h : ∀ s ∈ strings, '\\' ∉ s.toList) :
    (Quoter.doubling dialect doubled).Closes strings :=
  ⟨fun _ htame => passive_doubling_quote dialect hmark (not_mem_of_isTame htame),
    fun s hmem => passive_doubling_quote dialect hmark (h s hmem)⟩

theorem passive_nullLiteral : Passive nullLiteral :=
  passive_of_isTame (by decide)

theorem Number.IsNumeral.passive {text : List Char} (h : IsNumeral text) : Passive text :=
  passive_of_isTame h.isTame

theorem ensures_integerLiteral (i : Int) : Ensures IsNumeral (integerLiteral i) := by
  unfold integerLiteral
  split
  · exact Ensures.error
  · exact Ensures.ok (isNumeral_integerText i)

theorem ensures_floatLiteral (x : Binary64) : Ensures IsNumeral (floatLiteral x) := by
  unfold floatLiteral
  split
  · next hfinite => exact Ensures.ok (isNumeral_binary64Text hfinite)
  · exact Ensures.error

theorem ensures_decimalLiteral (d : Decimal) : Ensures IsNumeral (decimalLiteral d) := by
  unfold decimalLiteral
  split
  · next hfinite => exact Ensures.ok (isNumeral_decimalText hfinite)
  · exact Ensures.error

section

variable {quoter : Quoter}

theorem passive_quote_text {s : Scalar} (h : quoter.Closes (Value.scalar s).strings)
    {text : List Char} (htext : s.text? = .ok text) : Passive (quoter.quote text) := by
  rcases isTame_of_text? htext with htame | rfl
  · exact h.tame text htame
  · have hstring := h.string (String.ofList text) (List.mem_cons_self ..)
    rwa [String.toList_ofList] at hstring

/-- The literal of a scalar is a numeric token, or it is the quoted text of the scalar. -/
theorem ensures_literal_form (quoter : Quoter) (s : Scalar) :
    Ensures (fun literal => IsNumeral literal ∨
      ∃ text, s.text? = .ok text ∧ literal = quoter.quote text) (s.literal quoter) := by
  cases s with
  | bool b => exact Ensures.ok (.inl (isNumeral_boolText b))
  | int i => exact (ensures_integerLiteral i).mono fun _ => .inl
  | float x => exact (ensures_floatLiteral x).mono fun _ => .inl
  | decimal d => exact (ensures_decimalLiteral d).mono fun _ => .inl
  | text t => exact Ensures.ok (.inr ⟨_, rfl, rfl⟩)
  | date d => exact Ensures.ok (.inr ⟨_, rfl, rfl⟩)
  | time t => exact Ensures.ok (.inr ⟨_, rfl, rfl⟩)
  | dateTime t => exact Ensures.ok (.inr ⟨_, rfl, rfl⟩)
  | uuid u => exact Ensures.ok (.inr ⟨_, rfl, rfl⟩)

theorem ensures_literal {s : Scalar} (h : quoter.Closes (Value.scalar s).strings) :
    Ensures Passive (s.literal quoter) := by
  refine (ensures_literal_form quoter s).mono ?_
  rintro _ (hnumeral | ⟨text, htext, rfl⟩)
  · exact hnumeral.passive
  · exact passive_quote_text h htext

theorem ensures_literalOrComplain {s : Scalar} (h : quoter.Closes (Value.scalar s).strings) :
    Ensures Passive (s.literalOrComplain quoter) :=
  (ensures_literal h).mapError _

theorem ensures_renderPlain {value : Value} (h : quoter.Closes value.strings) :
    Ensures Passive (renderPlain quoter value) := by
  cases value with
  | scalar s => exact ensures_literalOrComplain h
  | _ => exact Ensures.error

theorem ensures_renderAsText {value : Value} (h : quoter.Closes value.strings) :
    Ensures Passive (renderAsText quoter value) := by
  cases value with
  | scalar s =>
      intro text hrender
      unfold renderAsText at hrender
      dsimp only at hrender
      split at hrender
      · next written hwritten =>
          obtain rfl := Except.ok.inj hrender
          exact passive_quote_text h hwritten
      · cases hrender
  | _ => exact Ensures.error

/-- The rule for missing values adds `NULL` and nothing else. -/
theorem Ensures.orNull {p : List Char → Prop} {rule : Value → Except Refusal (List Char)}
    {value : Value} (hnull : p nullLiteral) (h : Ensures p (rule value)) :
    Ensures p (SqlTemplate.orNull rule value) := by
  cases value with
  | null => exact .ok hnull
  | _ => exact h

/-! ## Numbers -/

theorem ensures_writeInteger (i : Int) : Ensures IsNumeral (writeInteger i) :=
  (ensures_integerLiteral i).mapError _

theorem ensures_writeFloat (kind : Kind) (x : Binary64) : Ensures IsNumeral (writeFloat kind x) :=
  (ensures_floatLiteral x).mapError _

theorem ensures_renderInteger (value : Value) : Ensures IsNumeral (renderInteger value) := by
  cases value with
  | scalar s =>
      unfold renderInteger Scalar.integerPart
      dsimp only
      split
      · exact Ensures.ok (isNumeral_boolText _)
      · exact ensures_writeInteger _
      · split
        · exact ensures_writeInteger _
        · exact Ensures.error
      · split
        · exact Ensures.error
        · exact ensures_writeInteger _
      · split
        · exact ensures_writeInteger _
        · exact Ensures.error
      · exact Ensures.error
  | _ => exact Ensures.error

theorem Ensures.integerOrNull {p : List Char → Prop} {value : Value} (hnull : p nullLiteral)
    (h : Ensures p (renderInteger value)) : Ensures p (renderIntegerOrNull value) := by
  unfold renderIntegerOrNull
  split
  · exact .ok hnull
  · exact h

theorem ensures_renderFloat (value : Value) : Ensures IsNumeral (renderFloat value) := by
  unfold renderFloat
  split
  · exact ensures_writeFloat _ _
  · dsimp only
    split
    · exact ensures_writeFloat _ _
    · exact Ensures.error
  · exact ensures_writeFloat _ _
  · exact ensures_writeFloat _ _
  · split
    · exact ensures_writeFloat _ _
    · exact Ensures.error
  · exact Ensures.error

/-! ## Arrays and names -/

theorem passive_cellSeparator : Passive cellSeparator :=
  passive_of_isTame (by decide)

theorem passive_rowSeparator : Passive rowSeparator :=
  passive_of_isTame (by decide)

theorem passive_tablePart (table : Option (List Char)) : Passive (tablePart table) := by
  cases table with
  | none => exact Passive.nil
  | some name => exact (passive_quoteIdentifier name).append (passive_of_isTame (by decide))

theorem ensures_renderCell {cell : Value} (h : quoter.Closes cell.strings) :
    Ensures Passive (renderCell quoter cell) := by
  cases cell with
  | null => exact Ensures.ok passive_nullLiteral
  | scalar s => exact ensures_literalOrComplain h
  | _ => exact Ensures.error

theorem ensures_renderAssignment {a : Assignment} (h : quoter.Closes a.cell.strings) :
    Ensures Passive (a.render quoter) := by
  unfold Assignment.render
  refine (ensures_renderCell h).bind fun cell hcell => ?_
  cases a.column with
  | none => exact Ensures.ok hcell
  | some column =>
      have hname := (passive_tablePart a.table).append (passive_quoteIdentifier column)
      have hequals : Passive ['='] := passive_of_isTame (by decide)
      exact Ensures.ok (hname.append (hequals.append hcell))

theorem strings_subset_of_mem_assignmentsOf {entry : Option (List Char) × Value} {a : Assignment}
    (h : a ∈ assignmentsOf entry) : a.cell.strings ⊆ entry.2.strings := by
  unfold assignmentsOf at h
  split at h
  · next inner hinner =>
      obtain ⟨pair, hpair, rfl⟩ := List.mem_map.1 h
      exact strings_subset_of_entries? hinner hpair
  · obtain rfl := List.mem_singleton.1 h
    exact List.Subset.refl _

theorem ensures_renderArray {value : Value} (h : quoter.Closes value.strings) :
    Ensures Passive (renderArray quoter value) := by
  unfold renderArray
  split
  · exact Ensures.error
  · exact Ensures.ok passive_nullLiteral
  · next entries hne hentries =>
      split
      · next rows hrows =>
          refine (Ensures.mapM fun row hrow => ?_).bind fun lines hlines =>
            Ensures.ok (passive_rowSeparator.intercalate hlines)
          refine (Ensures.mapM fun cell hcell => ?_).bind fun cells hcells =>
            Ensures.ok (passive_cellSeparator.intercalate hcells)
          exact ensures_renderCell (h.mono (strings_subset_of_rows? hrows hrow hcell))
      · refine (Ensures.mapM fun a ha => ?_).bind fun parts hparts =>
          Ensures.ok (passive_cellSeparator.intercalate hparts)
        obtain ⟨entry, hentry, ha⟩ := List.mem_flatMap.1 ha
        exact ensures_renderAssignment (h.mono (List.Subset.trans
          (strings_subset_of_mem_assignmentsOf ha) (strings_subset_of_entries? hentries hentry)))

theorem ensures_renderName (table : Option (List Char)) (value : Value) :
    Ensures Passive (renderName table value) := by
  unfold renderName
  split
  · refine Ensures.ok ((passive_tablePart table).append ?_)
    split
    · exact passive_of_isTame (by decide)
    · exact passive_quoteIdentifier _
  · exact Ensures.error

theorem ensures_renderIdentifiers (value : Value) : Ensures Passive (renderIdentifiers value) := by
  unfold renderIdentifiers
  split
  · exact Ensures.ok (passive_quoteIdentifier _)
  · split
    · exact Ensures.error
    · exact (Ensures.mapM fun name _ => ensures_renderName name.1 name.2).bind fun parts hparts =>
        Ensures.ok (passive_cellSeparator.intercalate hparts)

/-! ## Every placeholder -/

theorem eq_ok_of_map_literal {rule : Except Refusal (List Char)} {text : List Char}
    (h : Presentation.literal <$> rule = .ok (.literal text)) : rule = .ok text := by
  cases rule with
  | error refusal => cases h
  | ok written =>
      cases h
      rfl

/-- **What a placeholder writes is passive**, whatever the tag, if the quoter closes the
strings of the value. -/
theorem present_passive {tag : Tag} {value : Value} {text : List Char}
    (h : quoter.Closes value.strings) (hpresent : present quoter tag value = .ok (.literal text)) :
    Passive text := by
  have hliteral : ∀ {rule : Except Refusal (List Char)}, Ensures Passive rule →
      Presentation.literal <$> rule = .ok (.literal text) → Passive text :=
    fun hrule heq => hrule text (eq_ok_of_map_literal heq)
  cases tag with
  | template =>
      -- the value is refused, or it is a template and no literal
      cases value with
      | scalar s => cases s <;> cases hpresent
      | _ => cases hpresent
  | array => exact hliteral (ensures_renderArray h) hpresent
  | identifiers => exact hliteral (ensures_renderIdentifiers value) hpresent
  | integerOrNull =>
      have hnumber := (ensures_renderInteger value).mono fun _ => IsNumeral.passive
      exact hliteral (hnumber.integerOrNull passive_nullLiteral) hpresent
  | plain => exact hliteral ((ensures_renderPlain h).orNull passive_nullLiteral) hpresent
  | integer =>
      have hnumber := (ensures_renderInteger value).mono fun _ => IsNumeral.passive
      exact hliteral (hnumber.orNull passive_nullLiteral) hpresent
  | float =>
      have hnumber := (ensures_renderFloat value).mono fun _ => IsNumeral.passive
      exact hliteral (hnumber.orNull passive_nullLiteral) hpresent
  | other name => exact hliteral ((ensures_renderAsText h).orNull passive_nullLiteral) hpresent

end

end SqlTemplate
