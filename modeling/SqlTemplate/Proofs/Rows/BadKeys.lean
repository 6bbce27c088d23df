import SqlTemplate.Proofs.Rows.Agreement

/-!
# The first bad key

Rows are transformed one after the other, and in each row the columns are looked at one after
the other, from the outermost level to the innermost.  The transformation fails as soon as a
row does not have the column, or has a value in it that is no key.  So it fails exactly if
there is such a row, and what it reports is the first such column of the first such row
(`transform_reports_first`).

Values that may change are no keys, nor is a signaling NaN, nor is a tuple with one of these
anywhere inside of it.  Of several of them in one tuple the leftmost is reported, and it is its
own kind that the report names, not that of a tuple around it.

## Strategy

There are three runs, one inside the other: over the rows, over the columns of a row, and over
the items of a tuple.  Each of them stops at the first element that is bad (`First`), because
whether an element is bad does not depend on what the run has made of those in front of it.
This is where `placeRow_eq` is needed: a row has a path, or has none, whatever groups there
are already.
-/

namespace SqlTemplate

variable {α β ε : Type}

/-! ## The first bad element -/

/-- What is wrong with the first element with which something is wrong. -/
def First (bad : α → ε → Prop) (xs : List α) (reason : ε) : Prop :=
  ∃ front x behind, xs = front ++ x :: behind ∧ (∀ other ∈ front, ¬ ∃ reason, bad other reason) ∧
    bad x reason

namespace First

variable {bad : α → ε → Prop} {x : α} {xs rest : List α} {reason : ε}

theorem not_nil : ¬ First bad [] reason := by
  rintro ⟨front, x, behind, heq, -⟩
  exact List.append_ne_nil_of_right_ne_nil front (List.cons_ne_nil x behind) heq.symm

theorem cons_iff :
    First bad (x :: rest) reason ↔
      bad x reason ∨ (¬ ∃ reason, bad x reason) ∧ First bad rest reason := by
  constructor
  · rintro ⟨front, y, behind, heq, hfront, hbad⟩
    cases front with
    | nil =>
        obtain ⟨rfl, rfl⟩ := List.cons.inj heq
        exact .inl hbad
    | cons first front =>
        obtain ⟨rfl, rfl⟩ := List.cons.inj heq
        obtain ⟨hfirst, hfront⟩ := List.forall_mem_cons.1 hfront
        exact .inr ⟨hfirst, front, y, behind, rfl, hfront, hbad⟩
  · rintro (hbad | ⟨hfirst, front, y, behind, rfl, hfront, hbad⟩)
    · exact ⟨[], x, rest, rfl, nofun, hbad⟩
    · exact ⟨x :: front, y, behind, rfl, List.forall_mem_cons.2 ⟨hfirst, hfront⟩, hbad⟩

/-- There is a first bad element if there is any. -/
theorem exists_iff : (∃ reason, First bad xs reason) ↔ ∃ x ∈ xs, ∃ reason, bad x reason := by
  constructor
  · rintro ⟨reason, front, x, behind, rfl, -, hbad⟩
    exact ⟨x, List.mem_append_right front (List.mem_cons_self ..), reason, hbad⟩
  · rintro ⟨x, hmem, reason, hbad⟩
    induction xs with
    | nil => cases hmem
    | cons y rest ih =>
        by_cases hfirst : ∃ reason, bad y reason
        · obtain ⟨other, hother⟩ := hfirst
          exact ⟨other, cons_iff.2 (.inl hother)⟩
        · rcases List.mem_cons.1 hmem with rfl | hrest
          · exact absurd ⟨reason, hbad⟩ hfirst
          · obtain ⟨other, hother⟩ := ih hrest
            exact ⟨other, cons_iff.2 (.inr ⟨hfirst, hother⟩)⟩

/-- A run that looks at one element and, if nothing is wrong with it, at the rest. -/
theorem bind_eq_error_iff {γ : Type} {head : Except ε β} {next : β → Except ε γ}
    (hhead : ∀ reason, head = .error reason ↔ bad x reason)
    (hnext : ∀ b, next b = .error reason ↔ First bad rest reason) :
    head >>= next = .error reason ↔ First bad (x :: rest) reason := by
  rw [cons_iff]
  cases head with
  | error other =>
      have hbad : bad x other := (hhead other).1 rfl
      constructor
      · intro h
        obtain rfl : other = reason := Except.error.inj h
        exact .inl hbad
      · rintro (h | ⟨hgood, -⟩)
        · obtain rfl : other = reason := Except.error.inj ((hhead reason).2 h)
          rfl
        · exact absurd ⟨other, hbad⟩ hgood
  | ok b =>
      have hgood : ¬ ∃ reason, bad x reason := fun ⟨other, hbad⟩ => nomatch (hhead other).2 hbad
      refine (hnext b).trans ⟨fun h => .inr ⟨hgood, h⟩, fun h => ?_⟩
      exact (h.resolve_left fun hbad => hgood ⟨reason, hbad⟩).2

end First

/-- To do something with the outcome of a calculation does not make it fail. -/
theorem map_eq_error_iff {f : α → β} {outcome : Except ε α} {reason : ε} :
    f <$> outcome = .error reason ↔ outcome = .error reason := by
  cases outcome with
  | error other => simp only [Functor.map, Except.map, Except.error.injEq]
  | ok a => exact iff_of_false nofun nofun

/-! ## Values that are no keys -/

namespace Value

/-- A value that may still change. -/
inductive Changeable : Value → Prop
  | list (items : List Value) : Changeable (.sequence .list items)
  | mapping (kind : MappingKind) (entries : List (Value × Value)) :
      Changeable (.mapping kind entries)
  | set (members : List Value) : Changeable (.set members)

/-- A value that is no key whatever is inside of it. -/
inductive Offends : Value → Unhashable → Prop
  | changeable {value : Value} (h : value.Changeable) : Offends value (.changeable value.kind)
  | signalingNaN (negative : Bool) (payload : Nat) :
      Offends (.scalar (.decimal (.nan negative true payload))) .signalingNaN

/-- A value inside of another one: itself, an item of a tuple, an item of such an item, and so
on. -/
inductive Inside : Value → Value → Prop
  | self (value : Value) : Inside value value
  | item {inner item : Value} {items : List Value} (hmem : item ∈ items)
      (h : Inside inner item) : Inside inner (.sequence .tuple items)

/-- A value with an offender inside of it. -/
def Tainted (value : Value) : Prop :=
  ∃ inner : Value, inner.Inside value ∧ ∃ reason, inner.Offends reason

/-- The reason why a value is no key: what the leftmost offender inside of it is. -/
inductive NoKey : Value → Unhashable → Prop
  | offender {value : Value} {reason : Unhashable} (h : value.Offends reason) : NoKey value reason
  | item {front behind : List Value} {item : Value} {reason : Unhashable}
      (hfront : ∀ other ∈ front, ¬ other.Tainted) (h : NoKey item reason) :
      NoKey (.sequence .tuple (front ++ item :: behind)) reason

variable {value : Value} {reason : Unhashable}

theorem Offends.key_eq (h : value.Offends reason) : value.key = .error reason := by
  cases h with
  | changeable h =>
      cases h with
      | list | set => rfl
      | mapping kind => cases kind <;> rfl
  | signalingNaN => rfl

theorem NoKey.tainted (h : value.NoKey reason) : value.Tainted := by
  induction h with
  | @offender value reason h => exact ⟨value, .self value, reason, h⟩
  | item hfront h ih =>
      obtain ⟨inner, hinside, hoffends⟩ := ih
      exact ⟨inner, .item (List.mem_append_right _ (List.mem_cons_self ..)) hinside, hoffends⟩

/-- The items of a tuple are looked at from left to right. -/
theorem keys_eq_error_iff {items : List Value} :
    Value.keys items = .error reason ↔
      First (fun item reason => item.key = .error reason) items reason := by
  induction items with
  | nil => exact iff_of_false nofun First.not_nil
  | cons item rest ih =>
      rw [Value.keys]
      exact First.bind_eq_error_iff (fun _ => Iff.rfl) fun key => map_eq_error_iff.trans ih

theorem key_tuple_eq_error_iff {items : List Value} :
    (Value.sequence .tuple items).key = .error reason ↔
      First (fun item reason => item.key = .error reason) items reason := by
  rw [Value.key]
  exact map_eq_error_iff.trans keys_eq_error_iff

theorem Tainted.exists_key_eq (h : value.Tainted) : ∃ reason, value.key = .error reason := by
  obtain ⟨inner, hinside, reason, hoffends⟩ := h
  induction hinside with
  | self => exact ⟨reason, hoffends.key_eq⟩
  | @item item items hmem h ih =>
      have hfirst : ∃ reason, First (fun item reason => item.key = .error reason) items reason :=
        First.exists_iff.2 ⟨item, hmem, ih⟩
      obtain ⟨other, hother⟩ := hfirst
      exact ⟨other, key_tuple_eq_error_iff.2 hother⟩

theorem offends_of_key_eq {s : Scalar} (h : s.key = .error reason) :
    (Value.scalar s).Offends reason := by
  cases s with
  | float x => cases x <;> cases h
  | decimal d =>
      cases d with
      | finite | infinite => cases h
      | nan negative signaling payload =>
          cases signaling with
          | false => cases h
          | true =>
              obtain rfl := Except.error.inj h
              exact .signalingNaN negative payload
  | time t | dateTime t =>
      rw [Scalar.key] at h
      split at h <;> cases h
  | bool | int | text | date | uuid => cases h

theorem noKey_of_key_eq {value : Value} (h : value.key = .error reason) : value.NoKey reason := by
  match value with
  | .null | .bytes _ | .foreign | .skip => cases h
  | .scalar s => exact .offender (offends_of_key_eq h)
  | .sequence .list items =>
      obtain rfl := Except.error.inj h
      exact .offender (.changeable (.list items))
  | .mapping kind entries =>
      cases kind <;> obtain rfl := Except.error.inj h
      · exact .offender (.changeable (.mapping .map entries))
      · exact .offender (.changeable (.mapping .view entries))
  | .set members =>
      obtain rfl := Except.error.inj h
      exact .offender (.changeable (.set members))
  | .sequence .tuple items =>
      obtain ⟨front, item, behind, hitems, hfront, hitem⟩ := key_tuple_eq_error_iff.1 h
      rw [hitems]
      refine .item (fun other hmem htainted => ?_) (noKey_of_key_eq hitem)
      exact hfront other hmem htainted.exists_key_eq
termination_by value
decreasing_by
  have hmem : item ∈ items := hitems ▸ List.mem_append_right front (List.mem_cons_self ..)
  have hsize := List.sizeOf_lt_of_mem hmem
  simp only [sequence.sizeOf_spec]
  omega

theorem NoKey.key_eq (h : value.NoKey reason) : value.key = .error reason := by
  induction h with
  | offender h => exact h.key_eq
  | @item front behind item reason hfront h ih =>
      refine key_tuple_eq_error_iff.2 ⟨front, item, behind, rfl, fun other hmem hbad => ?_, ih⟩
      obtain ⟨reason, hreason⟩ := hbad
      exact hfront other hmem (noKey_of_key_eq hreason).tainted

/-- **A value is no key for the reason that its leftmost offender gives.** -/
theorem key_eq_error_iff : value.key = .error reason ↔ value.NoKey reason :=
  ⟨noKey_of_key_eq, NoKey.key_eq⟩

/-- Any offender inside of a value is enough. -/
theorem exists_noKey_iff : (∃ reason, value.NoKey reason) ↔ value.Tainted := by
  refine ⟨fun ⟨reason, h⟩ => h.tainted, fun h => ?_⟩
  obtain ⟨reason, hreason⟩ := h.exists_key_eq
  exact ⟨reason, noKey_of_key_eq hreason⟩

end Value

/-! ## Columns without a key -/

namespace Row

/-- What is wrong with a row in a column. -/
inductive BadAt (row : Row) (name : String) : RowFailure → Prop
  | missing (h : row.column? name = none) : BadAt row name (.missingColumn name)
  | noKey {value : Value} {reason : Unhashable} (hvalue : row.column? name = some value)
      (h : value.NoKey reason) : BadAt row name (.unhashable reason)

variable {row : Row} {name : String} {names : List String} {failure : RowFailure}

theorem exists_badAt_iff : (∃ failure, row.BadAt name failure) ↔
    row.column? name = none ∨ ∃ value, row.column? name = some value ∧ value.Tainted := by
  constructor
  · rintro ⟨failure, hmissing | ⟨hvalue, h⟩⟩
    · exact .inl hmissing
    · exact .inr ⟨_, hvalue, h.tainted⟩
  · rintro (hmissing | ⟨value, hvalue, h⟩)
    · exact ⟨_, .missing hmissing⟩
    · obtain ⟨reason, hreason⟩ := Value.exists_noKey_iff.2 h
      exact ⟨_, .noKey hvalue hreason⟩

theorem label_eq_error_iff : row.label name = .error failure ↔ row.BadAt name failure := by
  cases hcolumn : row.column? name with
  | none =>
      rw [label, hcolumn]
      constructor
      · intro h
        obtain rfl := Except.error.inj h
        exact .missing hcolumn
      · rintro (hmissing | ⟨hvalue, h⟩)
        · rfl
        · cases hcolumn.symm.trans hvalue
  | some value =>
      rw [label_of_column? hcolumn]
      constructor
      · intro h
        cases hkey : value.key with
        | ok key =>
            rw [hkey] at h
            cases h
        | error reason =>
            rw [hkey] at h
            obtain rfl := Except.error.inj h
            exact .noKey hcolumn (Value.key_eq_error_iff.1 hkey)
      · rintro (hmissing | ⟨hvalue, h⟩)
        · cases hcolumn.symm.trans hmissing
        · obtain rfl := Option.some.inj (hcolumn.symm.trans hvalue)
          rw [Value.key_eq_error_iff.2 h]
          rfl

/-- The columns of a row are looked at from the outermost level to the innermost. -/
theorem path_eq_error_iff : row.path names = .error failure ↔ First row.BadAt names failure := by
  induction names with
  | nil => exact iff_of_false nofun First.not_nil
  | cons name names ih =>
      rw [path]
      exact First.bind_eq_error_iff (fun _ => label_eq_error_iff) fun label =>
        map_eq_error_iff.trans ih

end Row

/-! ## Rows without a path -/

/-- A run fails at the first bad element, if the state has no say in which elements are bad. -/
theorem foldlM_eq_error_iff {step : β → α → Except ε β} {bad : α → ε → Prop}
    (h : ∀ state x reason, step state x = .error reason ↔ bad x reason) {xs : List α} {start : β}
    {reason : ε} : xs.foldlM step start = .error reason ↔ First bad xs reason := by
  induction xs generalizing start with
  | nil => exact iff_of_false nofun First.not_nil
  | cons x rest ih =>
      rw [List.foldlM_cons]
      exact First.bind_eq_error_iff (h start x) fun next => ih

section

variable {first : String} {others : List String} {rows : List Row} {failure : RowFailure}

theorem groupRowsWith_eq_error_iff (change : Row → Option α → α) :
    groupRowsWith change first others rows = .error failure ↔
      First (fun row failure => First row.BadAt (first :: others) failure) rows failure := by
  refine foldlM_eq_error_iff fun groups row failure => ?_
  rw [placeRow_eq]
  exact map_eq_error_iff.trans Row.path_eq_error_iff

end

/-- The columns of a transformer, from the outermost level to the innermost. -/
def Transformer.columns : Transformer → List String
  | keyed name => [name]
  | grouped first others _ => first :: others

/-- **A transformation reports the first bad key and only a bad key.**  It fails exactly if some
row does not have one of the columns, or has a value in it that is no key.  What it reports is
what is wrong in the first such column of the first such row.  The text about a value that may
change names its kind, and there is one text about signaling NaNs. -/
theorem transform_reports_first (transformer : Transformer) (rows : List Row) :
    ((∃ failure, transformer.transform rows = .error failure) ↔
      ∃ row ∈ rows, ∃ name ∈ transformer.columns, row.column? name = none ∨
        ∃ value, row.column? name = some value ∧ value.Tainted) ∧
    (∀ failure, transformer.transform rows = .error failure ↔
      First (fun row failure => First row.BadAt transformer.columns failure) rows failure) ∧
    (∀ kind : Kind, (RowFailure.unhashable (.changeable kind)).message =
      "unhashable type: '" ++ kind.label ++ "'") ∧
    (RowFailure.unhashable .signalingNaN).message = "Cannot hash a signaling NaN value" := by
  have hfirst (failure : RowFailure) : transformer.transform rows = .error failure ↔
      First (fun row failure => First row.BadAt transformer.columns failure) rows failure := by
    cases transformer with
    | keyed name =>
        rw [Transformer.transform, indexRows_eq]
        exact map_eq_error_iff.trans (groupRowsWith_eq_error_iff _)
    | grouped first others lastOnly =>
        cases lastOnly <;> exact map_eq_error_iff.trans (groupRowsWith_eq_error_iff _)
  refine ⟨?_, hfirst, fun kind => rfl, rfl⟩
  simp only [hfirst, First.exists_iff, Row.exists_badAt_iff]

/-- The set is reported: it stands in front of the list, and the column that is missing belongs
to a later row. -/
example :
    let row (shape : Value) : Row := [(.text "size", .int 1), (.text "shape", shape)]
    ((Transformer.grouped "size" ["shape"] true).transform [row (.text "round"),
      row (.sequence .tuple [.null, .sequence .tuple [.set [.int 1]], .list []]),
      [(.text "shape", .null)]]).mapError RowFailure.message =
        .error "unhashable type: 'set'" := by
  rfl

/-- Values that may change are not the only ones that are no keys: a signaling NaN is none
either, and what is reported about it does not name a type. -/
theorem transform_signalingNaN :
    let rows : List Row := [[(.text "price", .scalar (.decimal (.nan false true 0)))]]
    (∃ failure, (Transformer.grouped "price" [] false).transform rows = .error failure ∧
      ∀ kind : Kind, failure.message ≠ "unhashable type: '" ++ kind.label ++ "'") ∧
    ¬ ∃ row ∈ rows, ∃ name ∈ ["price"], row.column? name = none ∨
      ∃ value, row.column? name = some value ∧
        ∃ inner : Value, inner.Inside value ∧ inner.Changeable := by
  intro rows
  refine ⟨⟨.unhashable .signalingNaN, rfl, fun kind => ?_⟩, ?_⟩
  · cases kind <;> decide +kernel
  · rintro ⟨row, hrow, name, hname, hbad⟩
    obtain rfl := List.mem_singleton.1 hrow
    obtain rfl := List.mem_singleton.1 hname
    rcases hbad with hmissing | ⟨value, hvalue, inner, hinside, hchangeable⟩
    · cases hmissing
    · obtain rfl := Option.some.inj hvalue
      cases hinside
      cases hchangeable

end SqlTemplate
