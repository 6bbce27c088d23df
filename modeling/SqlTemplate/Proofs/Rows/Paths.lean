import SqlTemplate.Rows.Transformer

/-!
# Rows are placed along paths

A row goes down one level for each column and looks at a column only when its level is
reached.  What it finds there does not depend on the groups, so the labels of a row can be
read first, as a path (`Row.path`), and the row can be inserted along its path then
(`placeRow_eq`).  A row without a path changes nothing.

The groups are never looked into on the way.  So a grouping whose groups are seen through a
function is built as the one that holds the groups themselves (`Grouping.map_insert`).
-/

namespace SqlTemplate

variable {α β γ : Type} {n : Nat}

/-! ## Entries under labels -/

/-- To look a content up and to write back what became of it is to change it. -/
theorem upsert_content? (label : Label) (change : Option β → β) (entries : List (Label × β)) :
    upsert label (fun _ => change (content? label entries)) entries =
      upsert label change entries := by
  induction entries with
  | nil => rfl
  | cons entry rest ih =>
      obtain ⟨known, content⟩ := entry
      by_cases hsame : known.same label
      · have hfound : content? label ((known, content) :: rest) = some content := by
          simp only [content?, List.find?_cons_of_pos, hsame, Option.map_some]
        rw [hfound, upsert, upsert, if_pos hsame, if_pos hsame]
      · have hrest : content? label ((known, content) :: rest) = content? label rest := by
          simp only [content?, List.find?_cons_of_neg, hsame, Bool.false_eq_true,
            not_false_eq_true]
        rw [hrest, upsert, upsert, if_neg hsame, if_neg hsame, ih]

theorem map_upsert {f : β → γ} {change : Option β → β} {change' : Option γ → γ}
    (h : ∀ old, f (change old) = change' (old.map f)) (label : Label)
    (entries : List (Label × β)) :
    (upsert label change entries).map (Prod.map id f) =
      upsert label change' (entries.map (Prod.map id f)) := by
  induction entries with
  | nil => exact congrArg (fun content => [(label, content)]) (h none)
  | cons entry rest ih =>
      obtain ⟨known, content⟩ := entry
      by_cases hsame : known.same label
      · simp only [upsert, List.map_cons, Prod.map_apply, id_eq, if_pos hsame, h, Option.map_some]
      · simp only [upsert, List.map_cons, Prod.map_apply, id_eq, if_neg hsame, ih]

/-! ## Paths -/

/-- Only a value that is no key has no label. -/
theorem Row.label_of_column? {row : Row} {name : String} {value : Value}
    (h : row.column? name = some value) :
    row.label name = (value.key.map (Label.mk value)).mapError .unhashable := by
  cases hkey : value.key with
  | error reason =>
      simp only [Row.label, h, hkey]
      rfl
  | ok key =>
      simp only [Row.label, h, hkey]
      rfl

/-- One label for each of `n` levels. -/
def Path : Nat → Type
  | 0 => Unit
  | n + 1 => Label × Path n

/-- The values of several columns as a path. -/
def Row.path (row : Row) : (names : List String) → Except RowFailure (Path names.length)
  | [] => .ok ()
  | name :: names => do
      let label ← row.label name
      let rest ← row.path names
      return (label, rest)

namespace Grouping

/-- Changes the group at the end of a path, making all groups on the way that are missing. -/
def insert (change : Option α → α) :
    {n : Nat} → Path n → Option (Grouping α n) → Grouping α n
  | 0, _, old => change old
  | _ + 1, (label, path), old => upsert label (insert change path) (old.getD [])

/-- The same groups with other contents. -/
def map (f : α → β) : {n : Nat} → Grouping α n → Grouping β n
  | 0, group => f group
  | _ + 1, groups => List.map (Prod.map id (map f)) groups

theorem map_insert {f : α → β} {change : Option α → α} {change' : Option β → β}
    (h : ∀ old, f (change old) = change' (old.map f)) (path : Path n)
    (old : Option (Grouping α n)) :
    map f (insert change path old) = insert change' path (old.map (map f)) := by
  induction n with
  | zero => exact h old
  | succ n ih =>
      obtain ⟨label, path⟩ := path
      have hold : (old.map (map f)).getD [] = List.map (Prod.map id (map f)) (old.getD []) := by
        cases old <;> rfl
      show List.map (Prod.map id (map f)) (upsert label (insert change path) (old.getD [])) =
        upsert label (insert change' path) ((old.map (map f)).getD [])
      rw [hold]
      exact map_upsert (ih path) label _

theorem toValue_map (content : β → Value) (f : α → β) (groups : Grouping α n) :
    (groups.map f).toValue content = groups.toValue (content ∘ f) := by
  induction n with
  | zero => rfl
  | succ n ih =>
      have hentries (entries : List (Label × Grouping α n)) :
          ((entries.map (Prod.map id (map f))).map fun entry =>
            (entry.1.value, entry.2.toValue content)) =
          entries.map fun entry => (entry.1.value, entry.2.toValue (content ∘ f)) := by
        rw [List.map_map]
        exact List.map_congr_left fun entry _ => congrArg (Prod.mk _) (ih entry.2)
      exact congrArg Value.map (hentries groups)

end Grouping

/-! ## Placing rows -/

/-- **A row is inserted along its path**, and a row without a path makes the whole step
fail. -/
theorem placeRow_eq (change : Row → Option α → α) (row : Row) (names : List String)
    (old : Option (Grouping α names.length)) :
    placeRow change row names old =
      (fun path => Grouping.insert (change row) path old) <$> row.path names := by
  induction names with
  | nil => rfl
  | cons name names ih =>
      rw [placeRow, Row.path]
      cases row.label name with
      | error failure => rfl
      | ok label =>
          show (placeRow change row names (content? label (old.getD [])) >>= fun inner =>
            pure (upsert label (fun _ => inner) (old.getD []))) = _
          rw [ih]
          cases row.path names with
          | error failure => rfl
          | ok path => exact congrArg Except.ok (upsert_content? label _ _)

theorem map_placeRow {f : α → β} {change : Row → Option α → α} {change' : Row → Option β → β}
    (h : ∀ row old, f (change row old) = change' row (old.map f)) (row : Row)
    (names : List String) (old : Option (Grouping α names.length)) :
    Grouping.map f <$> placeRow change row names old =
      placeRow change' row names (old.map (Grouping.map f)) := by
  rw [placeRow_eq, placeRow_eq]
  cases row.path names with
  | error failure => rfl
  | ok path => exact congrArg Except.ok (Grouping.map_insert (h row) path old)

/-! ## Placing all rows -/

/-- Two runs over the same list that are seen as one through a function step by step are seen
as one in the end. -/
theorem map_foldlM {ε : Type} {f : β → γ} {step : β → α → Except ε β} {step' : γ → α → Except ε γ}
    (h : ∀ state x, f <$> step state x = step' (f state) x) (xs : List α) (start : β) :
    f <$> xs.foldlM step start = xs.foldlM step' (f start) := by
  induction xs generalizing start with
  | nil => rfl
  | cons x rest ih =>
      rw [List.foldlM_cons, List.foldlM_cons, ← h]
      cases step start x with
      | error failure => rfl
      | ok next => exact ih next

theorem map_groupRowsWith {f : α → β} {change : Row → Option α → α}
    {change' : Row → Option β → β} (h : ∀ row old, f (change row old) = change' row (old.map f))
    (first : String) (others : List String) (rows : List Row) :
    Grouping.map f <$> groupRowsWith change first others rows =
      groupRowsWith change' first others rows :=
  map_foldlM (fun groups row => map_placeRow h row (first :: others) (some groups)) rows _

end SqlTemplate
