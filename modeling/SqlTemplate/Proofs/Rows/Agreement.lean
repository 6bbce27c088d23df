import SqlTemplate.Proofs.Rows.Paths

/-!
# All rows of a group, or the last one

Rows are grouped in two ways, which differ in what is kept of a group: all its rows, or the
row that came last.  With one column, keeping the last row is the same as an index by that
column.  The three ways to build a mapping of rows differ in what they do at the end of a
path, and in nothing else: they have the same labels in the same order, and they fail on the
same rows for the same reason (`transform_agrees`).

## Strategy

A group is made when its first row comes, so it always has a last row (`Group`).  A grouping
into such groups is built by the same steps as the other two, and these are what is seen of
it through `Subtype.val` and through `Group.last`.
-/

namespace SqlTemplate

/-- The rows of a group, in the order in which they came. -/
def Group : Type :=
  { rows : List Row // rows ≠ [] }

namespace Group

/-- A group with one more row, or the group of that row alone. -/
def add (row : Row) (group : Option Group) : Group :=
  ⟨(group.map Subtype.val).getD [] ++ [row], List.append_ne_nil_of_right_ne_nil _ nofun⟩

/-- The row that came last. -/
def last (group : Group) : Row :=
  group.1.getLast group.2

theorem last_add (row : Row) (group : Option Group) : (add row group).last = row :=
  List.getLast_concat

end Group

/-- The rows in their groups. -/
def gatherRows (first : String) (others : List String) (rows : List Row) :
    Except RowFailure (Grouping Group (others.length + 1)) :=
  groupRowsWith Group.add first others rows

variable (first : String) (others : List String) (rows : List Row)

theorem groupRows_eq :
    groupRows first others rows = Grouping.map Subtype.val <$> gatherRows first others rows :=
  have hchange (row : Row) (old : Option Group) :
      (Group.add row old).1 = (old.map Subtype.val).getD [] ++ [row] := rfl
  (map_groupRowsWith hchange first others rows).symm

theorem groupLastRows_eq :
    groupLastRows first others rows = Grouping.map Group.last <$> gatherRows first others rows :=
  (map_groupRowsWith Group.last_add first others rows).symm

/-- An index is a grouping by one column. -/
theorem indexRows_eq (name : String) : indexRows name rows = groupLastRows name [] rows := by
  have hstep (index : List (Label × Row)) (row : Row) :
      (do
        let label ← row.label name
        return upsert label (fun _ => row) index) =
      placeRow (fun row _ => row) row [name] (some index) := by
    rw [placeRow]
    cases row.label name <;> rfl
  exact congrArg (fun step => rows.foldlM step []) (funext fun index => funext (hstep index))

/-- **The three transformers agree.**  Behind the two groupings stands one list of groups, of
which the one shows all rows and the other the last row, or one failure of both.  An index is
the grouping by its column that shows the last row. -/
theorem transform_agrees :
    (∃ outcome : Except RowFailure (Grouping Group (others.length + 1)),
      (Transformer.grouped first others false).transform rows =
        (Grouping.toValue fun group => .list (group.1.map .map)) <$> outcome ∧
      (Transformer.grouped first others true).transform rows =
        (Grouping.toValue fun group => .map group.last) <$> outcome) ∧
    (Transformer.keyed first).transform rows =
      (Transformer.grouped first [] true).transform rows := by
  refine ⟨⟨gatherRows first others rows, ?_, ?_⟩, ?_⟩
  · rw [Transformer.transform, groupRows_eq]
    cases gatherRows first others rows with
    | error failure => rfl
    | ok tree => exact congrArg Except.ok (Grouping.toValue_map _ _ tree)
  · rw [Transformer.transform, groupLastRows_eq]
    cases gatherRows first others rows with
    | error failure => rfl
    | ok tree => exact congrArg Except.ok (Grouping.toValue_map _ _ tree)
  · rw [Transformer.transform, Transformer.transform, indexRows_eq]

end SqlTemplate
