import SqlTemplate.Proofs.Rows.Bins
import SqlTemplate.Proofs.Rows.Paths

/-!
# Groupings as sieves

Elements are grouped along their paths one after the other, and each of them changes the
grouping that the earlier ones have left.  The same grouping is found without any change,
level by level: the elements fall into bins by their first labels, and each bin is grouped by
what is left of the paths (`Grouping.sieve`, `foldl_insert_eq_sieve`).

So the facts about the groups follow from those about bins by induction on the levels.  Every
element is in one group (`flatten_groups_sieve`), the groups keep the order
(`sublist_of_mem_groups`) and are not empty (`ne_nil_of_mem_groups`), and two elements are in
one group exactly if their paths are the same (`mem_same_group_iff`).
-/

namespace SqlTemplate

variable {α : Type} {n : Nat}

/-- The elements under their first labels; what is left of its path stays with an element. -/
def headed (items : List (Path (n + 1) × α)) : List (Label × (Path n × α)) :=
  items.map fun item => (item.1.1, (item.1.2, item.2))

theorem mem_headed {items : List (Path (n + 1) × α)} {label : Label} {path : Path n} {x : α} :
    (label, (path, x)) ∈ headed items ↔ (((label, path) : Path (n + 1)), x) ∈ items := by
  refine List.mem_map.trans ⟨?_, fun hmem => ⟨_, hmem, rfl⟩⟩
  rintro ⟨⟨⟨_, _⟩, _⟩, hmem, heq⟩
  cases heq
  exact hmem

theorem map_headed (items : List (Path (n + 1) × α)) :
    ((headed items).map (·.2)).map (·.2) = items.map (·.2) := by
  rw [headed, List.map_map, List.map_map]
  rfl

namespace Grouping

/-- The contents of all groups, from the first label to the last. -/
def groups : {n : Nat} → Grouping α n → List α
  | 0, group => [group]
  | _ + 1, entries => List.flatMap (fun entry => groups entry.2) entries

/-- Whether an element is in some group. -/
def Holds {n : Nat} (tree : Grouping (List α) n) (x : α) : Prop :=
  ∃ group ∈ groups tree, x ∈ group

/-- The elements in groups, made level by level. -/
def sieve : {n : Nat} → List (Path n × α) → Grouping (List α) n
  | 0, items => items.map (·.2)
  | _ + 1, items => (bins (headed items)).map fun bin => (bin.label, sieve bin.members)

/-! ## Element by element and level by level -/

/-- No groups at all. -/
def empty : Grouping α (n + 1) :=
  ([] : List (Label × Grouping α n))

/-- A group with one more element at the end. -/
def append (x : α) (group : Option (List α)) : List α :=
  group.getD [] ++ [x]

theorem foldl_insert_of_inner
    (hinner : ∀ (first : Path n × α) (rest : List (Path n × α)),
      rest.foldl (fun tree item => insert (append item.2) item.1 (some tree))
        (insert (append first.2) first.1 none) = sieve (first :: rest))
    (items : List (Path (n + 1) × α)) :
    items.foldl (fun tree item => insert (append item.2) item.1 (some tree))
      empty = sieve items := by
  have hlevel := foldl_upsert
    (fun (item : Path n × α) old => insert (append item.2) item.1 old) (headed items)
  rw [headed, List.foldl_map] at hlevel
  refine hlevel.trans (List.map_congr_left fun bin _ => ?_)
  exact congrArg (Prod.mk bin.label) (hinner bin.opener bin.followers)

theorem foldl_insert_cons (first : Path n × α) (rest : List (Path n × α)) :
    rest.foldl (fun tree item => insert (append item.2) item.1 (some tree))
      (insert (append first.2) first.1 none) = sieve (first :: rest) := by
  induction n with
  | zero =>
      have hgroup : ∀ group : List α,
          rest.foldl (fun tree item => append item.2 (some tree)) group =
            group ++ rest.map (·.2) := by
        intro group
        induction rest generalizing group with
        | nil => exact (List.append_nil group).symm
        | cons item rest ih =>
            rw [List.foldl_cons, ih, append, Option.getD_some, List.append_assoc]
            rfl
      exact hgroup [first.2]
  | succ n ih => exact foldl_insert_of_inner ih (first :: rest)

/-- **A grouping that is made element by element is a sieve.** -/
theorem foldl_insert_eq_sieve (items : List (Path (n + 1) × α)) :
    items.foldl (fun tree item => insert (append item.2) item.1 (some tree))
      empty = sieve items :=
  foldl_insert_of_inner foldl_insert_cons items

/-! ## The groups of a sieve -/

theorem mem_groups_sieve {items : List (Path (n + 1) × α)} {group : List α} :
    group ∈ groups (sieve items) ↔
      ∃ bin ∈ bins (headed items), group ∈ groups (sieve bin.members) := by
  show group ∈ ((bins (headed items)).map fun bin => (bin.label, sieve bin.members)).flatMap
    (fun entry => groups entry.2) ↔ _
  rw [List.flatMap_map, List.mem_flatMap]

theorem flatten_groups_sieve (items : List (Path n × α)) :
    (groups (sieve items)).flatten.Perm (items.map (·.2)) := by
  induction n with
  | zero => exact .of_eq (List.append_nil _)
  | succ n ih =>
      have hgroups : groups (sieve items) =
          (bins (headed items)).flatMap fun bin => groups (sieve bin.members) :=
        List.flatMap_map ..
      have hmembers := (flatMap_members_bins (headed items)).map (·.2)
      rw [List.map_flatMap, map_headed] at hmembers
      rw [hgroups, ← List.flatMap_id, List.flatMap_assoc]
      simp only [List.flatMap_id]
      exact (List.Perm.flatMap_left _ fun bin _ => ih bin.members).trans hmembers

/-- An element is in some group exactly if it came. -/
theorem holds_sieve_iff {items : List (Path n × α)} {x : α} :
    (sieve items).Holds x ↔ x ∈ items.map (·.2) := by
  rw [← (flatten_groups_sieve items).mem_iff, List.mem_flatten]
  rfl

theorem sublist_of_mem_groups {items : List (Path n × α)} {group : List α}
    (h : group ∈ groups (sieve items)) : group.Sublist (items.map (·.2)) := by
  induction n with
  | zero =>
      obtain rfl := List.mem_singleton.1 h
      exact List.Sublist.refl _
  | succ n ih =>
      obtain ⟨bin, hbin, hgroup⟩ := mem_groups_sieve.1 h
      rw [← map_headed]
      exact (ih hgroup).trans ((members_sublist hbin).map _)

theorem ne_nil_of_mem_groups_cons {first : Path n × α} {rest : List (Path n × α)}
    {group : List α} (h : group ∈ groups (sieve (first :: rest))) : group ≠ [] := by
  induction n with
  | zero =>
      obtain rfl := List.mem_singleton.1 h
      exact List.cons_ne_nil _ _
  | succ n ih =>
      obtain ⟨bin, hbin, hgroup⟩ := mem_groups_sieve.1 h
      exact ih hgroup

/-- A group is not made before there is something to put into it. -/
theorem ne_nil_of_mem_groups {items : List (Path (n + 1) × α)} {group : List α}
    (h : group ∈ groups (sieve items)) : group ≠ [] := by
  obtain ⟨bin, hbin, hgroup⟩ := mem_groups_sieve.1 h
  exact ne_nil_of_mem_groups_cons hgroup

end Grouping

/-- Whether two paths are the same label by label. -/
def Path.Same : {n : Nat} → Path n → Path n → Prop
  | 0, _, _ => True
  | _ + 1, (first, path), (second, other) => first.same second ∧ Same path other

namespace Grouping

variable {items : List (Path (n + 1) × α)} {bin : Bin (Path n × α)}

theorem pairwise_headed {r : α → α → Prop} (h : (items.map (·.2)).Pairwise r) :
    ((headed items).map (·.2)).Pairwise fun a b => r a.2 b.2 := by
  rwa [← map_headed, List.pairwise_map] at h

theorem nodup_headed (h : (items.map (·.2)).Nodup) : ((headed items).map (·.2)).Nodup := by
  rw [← map_headed] at h
  exact h.of_map

theorem pairwise_members {r : α → α → Prop} (h : (items.map (·.2)).Pairwise r)
    (hbin : bin ∈ bins (headed items)) : (bin.members.map (·.2)).Pairwise r := by
  rw [← map_headed] at h
  exact h.sublist ((members_sublist hbin).map _)

theorem nodup_members (h : (items.map (·.2)).Nodup) (hbin : bin ∈ bins (headed items)) :
    (bin.members.map (·.2)).Nodup :=
  pairwise_members h hbin

/-- An element stands in a bin with what is left of its path. -/
theorem mem_members_of_mem_map (h : (items.map (·.2)).Nodup) (hbin : bin ∈ bins (headed items))
    {label : Label} {path : Path n} {x : α} (hx : (((label, path) : Path (n + 1)), x) ∈ items)
    (hmem : x ∈ bin.members.map (·.2)) : (path, x) ∈ bin.members := by
  obtain ⟨⟨other, y⟩, hother, rfl⟩ := List.mem_map.1 hmem
  have hpair : (path, y) ∈ (headed items).map (·.2) := List.mem_map_of_mem (mem_headed.2 hx)
  rw [← map_headed] at h
  rwa [List.inj_on_of_nodup_map h hpair ((members_sublist hbin).subset hother) rfl]

/-- **Two elements are in one group exactly if their paths are the same.** -/
theorem mem_same_group_iff {items : List (Path n × α)} (hnodup : (items.map (·.2)).Nodup)
    {p q : Path n} {x y : α} (hx : (p, x) ∈ items) (hy : (q, y) ∈ items) (hne : x ≠ y) :
    (∃ group ∈ groups (sieve items), x ∈ group ∧ y ∈ group) ↔ p.Same q := by
  induction n with
  | zero =>
      refine iff_of_true ⟨_, List.mem_singleton_self _, ?_, ?_⟩ trivial
      · exact List.mem_map_of_mem (f := Prod.snd) hx
      · exact List.mem_map_of_mem (f := Prod.snd) hy
  | succ n ih =>
      obtain ⟨first, p⟩ := p
      obtain ⟨second, q⟩ := q
      have hnePair : (p, x) ≠ (q, y) := fun heq => hne (Prod.mk.inj heq).2
      have hbins := mem_same_bin_iff (nodup_headed hnodup) (mem_headed.2 hx) (mem_headed.2 hy)
        hnePair
      constructor
      · rintro ⟨group, hgroup, hxgroup, hygroup⟩
        obtain ⟨bin, hbin, hinner⟩ := mem_groups_sieve.1 hgroup
        have hsub := (sublist_of_mem_groups hinner).subset
        have hxbin := mem_members_of_mem_map hnodup hbin hx (hsub hxgroup)
        have hybin := mem_members_of_mem_map hnodup hbin hy (hsub hygroup)
        exact ⟨hbins.1 ⟨bin, hbin, hxbin, hybin⟩,
          (ih (nodup_members hnodup hbin) hxbin hybin).1 ⟨group, hinner, hxgroup, hygroup⟩⟩
      · rintro ⟨hfirst, hrest⟩
        obtain ⟨bin, hbin, hxbin, hybin⟩ := hbins.2 hfirst
        obtain ⟨group, hgroup, hboth⟩ := (ih (nodup_members hnodup hbin) hxbin hybin).2 hrest
        exact ⟨group, mem_groups_sieve.2 ⟨bin, hbin, hgroup⟩, hboth⟩

end Grouping

end SqlTemplate
