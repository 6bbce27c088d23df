import Mathlib.Data.List.FinRange
import Mathlib.Order.Bounds.Defs
import SqlTemplate.Proofs.Rows.Sieve

/-!
# Grouping is a stable partition

Rows that have all columns, with values that can be keys there, are grouped into a tree with
one level for each column.  The groups at its ends are not empty, and together they hold each
row once.  Two rows are in one group exactly if they have the same value in each of the
columns, and a group keeps the order of its rows.  On each level the labels stand in the
order in which they were first met, and a label shows the value that it was first met with
(`transform_partitions`).

## Strategy

Rows are not told apart by what they hold: two of them may be equal and are still two.  So it
is the numbers of the rows that are grouped, and the tree of rows is that tree with each
number replaced by its row (`groupRows_eq_sieve`).  A tree that is made number by number is a
sieve, and what is to be shown about sieves is known from their bins.
-/

namespace SqlTemplate

variable {α : Type}

/-! ## Equal rows and equal paths -/

/-- Two rows with the same value in a column, as keys are compared. -/
def Row.SameUnder (name : String) (row other : Row) : Prop :=
  ∃ a b, row.column? name = some a ∧ other.column? name = some b ∧ a.SameKey b

/-- A row that has all of the columns, with values that are keys. -/
def Row.Keyed (names : List String) (row : Row) : Prop :=
  ∀ name ∈ names, ∃ value key, row.column? name = some value ∧ value.key = .ok key

section

variable {row other : Row} {name : String} {names : List String}

theorem Row.of_label {label : Label} (h : row.label name = .ok label) :
    row.column? name = some label.value ∧ label.value.key = .ok label.key := by
  cases hvalue : row.column? name with
  | none =>
      rw [Row.label, hvalue] at h
      cases h
  | some value =>
      rw [Row.label_of_column? hvalue] at h
      cases hkey : value.key with
      | error reason =>
          rw [hkey] at h
          cases h
      | ok key =>
          rw [hkey] at h
          obtain rfl := Except.ok.inj h
          exact ⟨rfl, hkey⟩

theorem Row.of_path_cons {label : Label} {path : Path names.length}
    (h : row.path (name :: names) = .ok (label, path)) :
    row.label name = .ok label ∧ row.path names = .ok path := by
  rw [Row.path] at h
  obtain ⟨found, hlabel, hbehind⟩ := exists_of_bind_eq_ok h
  obtain ⟨rest, hrest, hpath⟩ := exists_of_bind_eq_ok hbehind
  obtain ⟨rfl, rfl⟩ := Prod.mk.inj (Except.ok.inj hpath)
  exact ⟨hlabel, hrest⟩

theorem Row.exists_path (h : row.Keyed names) : ∃ path, row.path names = .ok path := by
  induction names with
  | nil => exact ⟨(), rfl⟩
  | cons name names ih =>
      obtain ⟨value, key, hvalue, hkey⟩ := h name (List.mem_cons_self ..)
      obtain ⟨path, hpath⟩ := ih fun name hname => h name (List.mem_cons_of_mem _ hname)
      refine ⟨(⟨value, key⟩, path), ?_⟩
      rw [Row.path, Row.label_of_column? hvalue, hkey, hpath]
      rfl

theorem Label.same_iff {a b : Label} (ha : row.label name = .ok a)
    (hb : other.label name = .ok b) : a.same b ↔ row.SameUnder name other := by
  obtain ⟨hvalue, hkey⟩ := Row.of_label ha
  obtain ⟨hother, hotherKey⟩ := Row.of_label hb
  refine (Key.same_iff hkey hotherKey).trans ⟨fun h => ⟨_, _, hvalue, hother, h⟩, ?_⟩
  rintro ⟨_, _, hx, hy, h⟩
  rwa [Option.some.inj (hvalue.symm.trans hx), Option.some.inj (hother.symm.trans hy)]

theorem Path.same_iff {p q : Path names.length} (hp : row.path names = .ok p)
    (hq : other.path names = .ok q) : p.Same q ↔ ∀ name ∈ names, row.SameUnder name other := by
  induction names with
  | nil => exact iff_of_true trivial nofun
  | cons name names ih =>
      obtain ⟨first, p⟩ := p
      obtain ⟨second, q⟩ := q
      obtain ⟨hfirst, hp⟩ := Row.of_path_cons hp
      obtain ⟨hsecond, hq⟩ := Row.of_path_cons hq
      rw [List.forall_mem_cons]
      exact and_congr (Label.same_iff hfirst hsecond) (ih hp hq)

end

/-! ## What a partition is -/

/-- A tree of which every node tells its elements apart by the values of its column. -/
inductive Grouping.Divided [LinearOrder α] (row : α → Row) :
    (names : List String) → Grouping (List α) names.length → Prop
  | leaf (group : List α) : Divided row [] group
  | node {name : String} {names : List String}
      {entries : List (Label × Grouping (List α) names.length)}
      -- a label shows the value of the first element under it, and with that one stand the
      -- elements of the node that have the same value
      (keyed : ∀ entry ∈ entries, ∃ first, IsLeast {x | entry.2.Holds x} first ∧
        (row first).column? name = some entry.1.value ∧
        ∀ other ∈ entries, ∀ x, other.2.Holds x →
          (entry.2.Holds x ↔ x = first ∨ (row first).SameUnder name (row x)))
      -- a label was met before anything under the labels behind it
      (ordered : entries.Pairwise fun earlier later =>
        ∃ first, earlier.2.Holds first ∧ ∀ x, later.2.Holds x → first < x)
      (inner : ∀ entry ∈ entries, Divided row names entry.2) :
      Divided row (name :: names) entries

/-- A tree that groups numbered rows by the values of columns and keeps their order. -/
structure StablePartition {m : Nat} (row : Fin m → Row) (names : List String)
    (tree : Grouping (List (Fin m)) names.length) : Prop where
  nonempty : ∀ group ∈ tree.groups, group ≠ []
  /-- The groups hold each row once. -/
  complete : tree.groups.flatten.Perm (List.finRange m)
  /-- Rows are in one group exactly if they have the same value in each column. -/
  together : ∀ i j, i ≠ j → ((∃ group ∈ tree.groups, i ∈ group ∧ j ∈ group) ↔
    ∀ name ∈ names, (row i).SameUnder name (row j))
  ordered : ∀ group ∈ tree.groups, group.Pairwise (· < ·)
  /-- The labels of each node stand in the order in which they were first met. -/
  divided : tree.Divided row names

/-! ## Sieves are divided -/

namespace Grouping

variable {row : α → Row} {name : String} {names : List String}

section

variable {items : List (Path (names.length + 1) × α)}
  (hpaths : ∀ item ∈ items, (row item.2).path (name :: names) = .ok item.1)
  {bin : Bin (Path names.length × α)} (hbin : bin ∈ bins (headed items))
include hpaths hbin

theorem path_of_mem_members : ∀ item ∈ bin.members, (row item.2).path names = .ok item.1 := by
  rintro ⟨path, x⟩ hmem
  obtain ⟨⟨label, item⟩, hheaded, rfl⟩ := List.mem_map.1 ((members_sublist hbin).subset hmem)
  exact (Row.of_path_cons (hpaths _ (mem_headed.1 hheaded))).2

theorem label_opener : (row bin.opener.2).label name = .ok bin.label :=
  (Row.of_path_cons (hpaths _ (mem_headed.1 (mem_of_mem_bins hbin)))).1

/-- Of all elements that came, a bin holds its opener and those with the same value. -/
theorem mem_map_members_iff (hnodup : (items.map (·.2)).Nodup) {x : α}
    (hx : x ∈ items.map (·.2)) :
    x ∈ bin.members.map (·.2) ↔
      x = bin.opener.2 ∨ (row bin.opener.2).SameUnder name (row x) := by
  obtain ⟨⟨⟨label, path⟩, x⟩, hitem, rfl⟩ := List.mem_map.1 hx
  have hlabel := (Row.of_path_cons (hpaths _ hitem)).1
  have hsame := Label.same_iff (label_opener hpaths hbin) hlabel
  have hbins := mem_members_iff (nodup_headed hnodup) hbin (mem_headed.2 hitem)
  rw [hsame] at hbins
  constructor
  · intro hmem
    refine (hbins.1 (mem_members_of_mem_map hnodup hbin hitem hmem)).imp_left fun heq => ?_
    exact congrArg Prod.snd heq
  · rintro (heq | hvalue)
    · exact heq ▸ List.mem_map_of_mem (f := Prod.snd) (List.mem_cons_self ..)
    · exact List.mem_map_of_mem (f := Prod.snd) (hbins.2 (.inr hvalue))

end

variable [LinearOrder α]

/-- The first level of a sieve is divided if the parts of the sieve below it are. -/
theorem divided_sieve_cons {items : List (Path (names.length + 1) × α)}
    (hordered : (items.map (·.2)).Pairwise (· < ·))
    (hpaths : ∀ item ∈ items, (row item.2).path (name :: names) = .ok item.1)
    (hinner : ∀ bin ∈ bins (headed items), (sieve bin.members).Divided row names) :
    (sieve items).Divided row (name :: names) := by
  have hnodup : (items.map (·.2)).Nodup := hordered.imp ne_of_lt
  show Divided row (name :: names)
    ((bins (headed items)).map fun bin => (bin.label, sieve bin.members))
  refine .node ?keyed ?ordered ?inner
  case keyed =>
    intro entry hentry
    obtain ⟨bin, hbin, rfl⟩ := List.mem_map.1 hentry
    refine ⟨bin.opener.2, ⟨?member, ?least⟩, ?shown, ?held⟩
    case member => exact holds_sieve_iff.2 (List.mem_cons_self ..)
    case least =>
      intro x hx
      have hmembers := pairwise_members hordered hbin
      rcases List.mem_cons.1 (holds_sieve_iff.1 hx) with rfl | hlater
      · exact le_rfl
      · exact ((List.pairwise_cons.1 hmembers).1 x hlater).le
    case shown => exact (Row.of_label (label_opener hpaths hbin)).1
    case held =>
      intro other hother x hx
      obtain ⟨otherBin, hotherBin, rfl⟩ := List.mem_map.1 hother
      have hcame : x ∈ items.map (·.2) := by
        rw [← map_headed]
        exact ((members_sublist hotherBin).map _).subset (holds_sieve_iff.1 hx)
      exact holds_sieve_iff.trans (mem_map_members_iff hpaths hbin hnodup hcame)
  case ordered =>
    refine List.pairwise_map.2 ((pairwise_bins (pairwise_headed hordered)).imp ?_)
    intro earlier later hless
    refine ⟨earlier.opener.2, holds_sieve_iff.2 (List.mem_cons_self ..), fun x hx => ?_⟩
    obtain ⟨item, hitem, rfl⟩ := List.mem_map.1 (holds_sieve_iff.1 hx)
    exact hless item hitem
  case inner =>
    intro entry hentry
    obtain ⟨bin, hbin, rfl⟩ := List.mem_map.1 hentry
    exact hinner bin hbin

/-- **A sieve of elements that come in order is divided.** -/
theorem divided_sieve {items : List (Path names.length × α)}
    (hordered : (items.map (·.2)).Pairwise (· < ·))
    (hpaths : ∀ item ∈ items, (row item.2).path names = .ok item.1) :
    (sieve items).Divided row names := by
  induction names with
  | nil => exact .leaf _
  | cons name names ih =>
      refine divided_sieve_cons hordered hpaths fun bin hbin => ?_
      exact ih (pairwise_members hordered hbin) (path_of_mem_members hpaths hbin)

end Grouping

/-! ## Rows and their numbers -/

theorem map_row_append (row : α → Row) (x : α) (group : Option (List α)) :
    (Grouping.append x group).map row = (group.map (List.map row)).getD [] ++ [row x] := by
  cases group with
  | none => rfl
  | some group => exact List.map_append

section

variable {first : String} {others : List String} {row : α → Row}
  {path : α → Path (others.length + 1)}
  (hpath : ∀ x, (row x).path (first :: others) = .ok (path x))
include hpath

/-- To place a row is to insert its number. -/
theorem placeRow_map (groups : Grouping (List α) (others.length + 1)) (x : α) :
    placeRow (fun row group => group.getD [] ++ [row]) (row x) (first :: others)
        (some (groups.map (List.map row))) =
      .ok (Grouping.map (List.map row)
        (Grouping.insert (Grouping.append x) (path x) (some groups))) := by
  rw [placeRow_eq, hpath]
  have hinsert : Grouping.map (List.map row)
        (Grouping.insert (Grouping.append x) (path x) (some groups)) =
      Grouping.insert (fun group => group.getD [] ++ [row x]) (path x)
        (some (groups.map (List.map row))) :=
    Grouping.map_insert (map_row_append row x) (path x) (some groups)
  exact congrArg Except.ok hinsert.symm

theorem foldlM_placeRow_map (groups : Grouping (List α) (others.length + 1)) (xs : List α) :
    (xs.map row).foldlM (fun groups row =>
        placeRow (fun row group => group.getD [] ++ [row]) row (first :: others) (some groups))
        (groups.map (List.map row)) =
      .ok (Grouping.map (List.map row) ((xs.map fun x => (path x, x)).foldl
        (fun tree item => Grouping.insert (Grouping.append item.2) item.1 (some tree))
        groups)) := by
  induction xs generalizing groups with
  | nil => rfl
  | cons x rest ih =>
      rw [List.map_cons, List.foldlM_cons, placeRow_map hpath]
      exact ih _

/-- **Rows with paths are grouped as their numbers are.** -/
theorem groupRows_eq_sieve (xs : List α) :
    groupRows first others (xs.map row) =
      .ok (Grouping.map (List.map row) (Grouping.sieve (xs.map fun x => (path x, x)))) := by
  refine (foldlM_placeRow_map hpath Grouping.empty xs).trans ?_
  exact congrArg (fun tree => Except.ok (Grouping.map (List.map row) tree))
    (Grouping.foldl_insert_eq_sieve _)

end

/-- **Grouping is a stable partition** of all rows that have the columns, with a key in each of
them. -/
theorem transform_partitions (first : String) (others : List String) (rows : List Row)
    (hkeyed : ∀ row ∈ rows, row.Keyed (first :: others)) :
    ∃ tree : Grouping (List (Fin rows.length)) (others.length + 1),
      (Transformer.grouped first others false).transform rows =
        .ok (tree.toValue fun group => .list (group.map fun i => .map (rows.get i))) ∧
      StablePartition rows.get (first :: others) tree := by
  have hpaths (i : Fin rows.length) : ∃ path, (rows.get i).path (first :: others) = .ok path :=
    Row.exists_path (hkeyed _ (List.get_mem rows i))
  choose path hpath using hpaths
  let items : List (Path (others.length + 1) × Fin rows.length) :=
    (List.finRange rows.length).map fun i => (path i, i)
  have hnumbers : items.map (·.2) = List.finRange rows.length := by
    rw [List.map_map]
    exact List.map_id _
  have hordered : (items.map (·.2)).Pairwise (· < ·) := by
    rw [hnumbers]
    exact List.pairwise_lt_finRange _
  have hitem (i : Fin rows.length) : (path i, i) ∈ items :=
    List.mem_map_of_mem (f := fun i => (path i, i)) (List.mem_finRange i)
  refine ⟨Grouping.sieve items, ?_, ?nonempty, ?complete, ?together, ?ordered, ?divided⟩
  · have hgroups := groupRows_eq_sieve hpath (List.finRange rows.length)
    rw [List.map_get_finRange] at hgroups
    rw [Transformer.transform, hgroups]
    refine congrArg Except.ok ((Grouping.toValue_map _ _ _).trans ?_)
    simp only [Function.comp_def, List.map_map]
    rfl
  case nonempty => exact fun group hgroup => Grouping.ne_nil_of_mem_groups hgroup
  case complete => exact hnumbers ▸ Grouping.flatten_groups_sieve items
  case together =>
    intro i j hne
    rw [← Path.same_iff (hpath i) (hpath j)]
    exact Grouping.mem_same_group_iff (hordered.imp ne_of_lt) (hitem i) (hitem j) hne
  case ordered =>
    exact fun group hgroup => hordered.sublist (Grouping.sublist_of_mem_groups hgroup)
  case divided =>
    refine Grouping.divided_sieve hordered fun item hmem => ?_
    obtain ⟨i, -, rfl⟩ := List.mem_map.1 hmem
    exact hpath i

/-- The number one is also the truth value and the decimal 1.0; a NaN is nothing but itself. -/
theorem transform_partitions_numbers :
    let row (size shape : Value) : Row := [(.text "size", size), (.text "shape", shape)]
    let rows := [row (.int 1) (.text "round"), row (.scalar (.float .nan)) (.text "round"),
      row (.scalar (.bool true)) (.int 2), row (.scalar (.decimal (.finite false 10 (-1))))
      (.text "round"), row (.scalar (.float .nan)) (.text "round")]
    (∀ row ∈ rows, row.Keyed ["size", "shape"]) ∧
    ∃ tree : Grouping (List (Fin rows.length)) 2,
      (Transformer.grouped "size" ["shape"] false).transform rows =
        .ok (tree.toValue fun group => .list (group.map fun i => .map (rows.get i))) ∧
      StablePartition rows.get ["size", "shape"] tree := by
  intro row rows
  have hrow {size shape : Value} {first second : Key} (hsize : size.key = .ok first)
      (hshape : shape.key = .ok second) : (row size shape).Keyed ["size", "shape"] :=
    List.forall_mem_cons.2 ⟨⟨_, _, rfl, hsize⟩, List.forall_mem_singleton.2 ⟨_, _, rfl, hshape⟩⟩
  have hkeyed : ∀ row ∈ rows, row.Keyed ["size", "shape"] := by
    simp only [rows, List.forall_mem_cons]
    exact ⟨hrow rfl rfl, hrow rfl rfl, hrow rfl rfl, hrow rfl rfl, hrow rfl rfl, nofun⟩
  exact ⟨hkeyed, transform_partitions "size" ["shape"] rows hkeyed⟩

end SqlTemplate
