import Mathlib.Data.List.Nodup
import SqlTemplate.Proofs.Rows.SameKey

/-!
# Bins

Elements that come one after the other, each under a label, fall into bins.  An element opens
a bin under its label unless a bin with the same label is open; in that case it falls into
that one.  To change what is under the label of each element in turn is to fold the elements
of each bin by themselves (`foldl_upsert`).

The bins are also told without looking at any change.  They hold every element once
(`flatMap_members_bins`), and each holds its elements in the order in which they came
(`members_sublist`).  The opener of a bin comes before all elements of the later bins
(`pairwise_bins`).  What belongs to a bin is its opener and every element with the same
label (`mem_members_iff`); the opener belongs to it even if its label is the same as no
label at all.
-/

namespace SqlTemplate

variable {β γ : Type}

/-- The elements that came under one label. -/
structure Bin (β : Type) where
  label : Label
  opener : β
  followers : List β

/-- All elements of a bin, in the order in which they came. -/
def Bin.members (bin : Bin β) : List β :=
  bin.opener :: bin.followers

/-- The elements with the given label. -/
def fellows (label : Label) (items : List (Label × β)) : List (Label × β) :=
  items.filter fun item => label.same item.1

/-- The elements with other labels than the given one. -/
def strangers (label : Label) (items : List (Label × β)) : List (Label × β) :=
  items.filter fun item => !label.same item.1

/-- The bins that elements fall into. -/
def bins : List (Label × β) → List (Bin β)
  | [] => []
  | (label, x) :: rest =>
      ⟨label, x, (fellows label rest).map (·.2)⟩ :: bins (strangers label rest)
termination_by items => items.length
decreasing_by exact Nat.lt_succ_of_le (List.length_filter_le ..)

section

variable {label other : Label} {x : β} {items : List (Label × β)}

theorem mem_fellows : (other, x) ∈ fellows label items ↔ (other, x) ∈ items ∧ label.same other :=
  List.mem_filter

theorem mem_strangers :
    (other, x) ∈ strangers label items ↔ (other, x) ∈ items ∧ ¬ label.same other := by
  rw [strangers, List.mem_filter, Bool.not_eq_true', Bool.not_eq_true]

theorem fellows_sublist (label : Label) (items : List (Label × β)) :
    ((fellows label items).map (·.2)).Sublist (items.map (·.2)) :=
  List.filter_sublist.map _

theorem strangers_sublist (label : Label) (items : List (Label × β)) :
    ((strangers label items).map (·.2)).Sublist (items.map (·.2)) :=
  List.filter_sublist.map _

end

/-! ## Folding bin by bin -/

/-- An open bin takes the elements with its label, and the others pass it by. -/
theorem foldl_upsert_cons (change : β → Option γ → γ) (items : List (Label × β)) (label : Label)
    (content : γ) (entries : List (Label × γ)) :
    items.foldl (fun entries item => upsert item.1 (change item.2) entries)
        ((label, content) :: entries) =
      (label, ((fellows label items).map (·.2)).foldl
        (fun content x => change x (some content)) content) ::
        (strangers label items).foldl
          (fun entries item => upsert item.1 (change item.2) entries) entries := by
  induction items generalizing content entries with
  | nil => rfl
  | cons item rest ih =>
      obtain ⟨other, x⟩ := item
      by_cases hsame : label.same other
      · have hfellows : fellows label ((other, x) :: rest) = (other, x) :: fellows label rest :=
          List.filter_cons_of_pos hsame
        have hstrangers : strangers label ((other, x) :: rest) = strangers label rest :=
          List.filter_cons_of_neg (by simp [hsame])
        rw [List.foldl_cons, upsert, if_pos hsame, ih, hfellows, hstrangers]
        rfl
      · have hfellows : fellows label ((other, x) :: rest) = fellows label rest :=
          List.filter_cons_of_neg hsame
        have hstrangers : strangers label ((other, x) :: rest) =
            (other, x) :: strangers label rest :=
          List.filter_cons_of_pos (by simp [hsame])
        rw [List.foldl_cons, upsert, if_neg hsame, ih, hfellows, hstrangers]
        rfl

theorem foldl_upsert (change : β → Option γ → γ) (items : List (Label × β)) :
    items.foldl (fun entries item => upsert item.1 (change item.2) entries) [] =
      (bins items).map fun bin => (bin.label,
        bin.followers.foldl (fun content x => change x (some content))
          (change bin.opener none)) := by
  fun_induction bins items with
  | case1 => rfl
  | case2 label x rest ih =>
      rw [List.foldl_cons, upsert, foldl_upsert_cons, ih]
      rfl

/-! ## The members of the bins -/

theorem flatMap_members_bins (items : List (Label × β)) :
    ((bins items).flatMap Bin.members).Perm (items.map (·.2)) := by
  fun_induction bins items with
  | case1 => exact .nil
  | case2 label x rest ih =>
      have hrest : (fellows label rest ++ strangers label rest).Perm rest :=
        List.filter_append_perm _ rest
      have hmembers := hrest.map (·.2)
      rw [List.map_append] at hmembers
      exact ((ih.append_left _).trans hmembers).cons x

variable {items : List (Label × β)} {bin : Bin β}

theorem members_sublist (h : bin ∈ bins items) : bin.members.Sublist (items.map (·.2)) := by
  fun_induction bins items with
  | case1 => cases h
  | case2 label x rest ih =>
      rcases List.mem_cons.1 h with rfl | hlater
      · exact (fellows_sublist label rest).cons_cons x
      · exact ((ih hlater).trans (strangers_sublist label rest)).cons x

/-- The opener of a bin came under the label of the bin. -/
theorem mem_of_mem_bins (h : bin ∈ bins items) : (bin.label, bin.opener) ∈ items := by
  fun_induction bins items with
  | case1 => cases h
  | case2 label x rest ih =>
      rcases List.mem_cons.1 h with rfl | hlater
      · exact List.mem_cons_self ..
      · exact List.mem_cons_of_mem _ (mem_strangers.1 (ih hlater)).1

/-- Whatever relates the earlier elements to the later ones relates the opener of a bin to the
elements of the later bins. -/
theorem pairwise_bins {r : β → β → Prop} (h : (items.map (·.2)).Pairwise r) :
    (bins items).Pairwise fun earlier later => ∀ x ∈ later.members, r earlier.opener x := by
  fun_induction bins items with
  | case1 => exact .nil
  | case2 label x rest ih =>
      obtain ⟨hfirst, hrest⟩ := List.pairwise_cons.1 h
      have hstrangers := strangers_sublist label rest
      refine List.pairwise_cons.2 ⟨fun later hlater y hy => ?_, ih (hrest.sublist hstrangers)⟩
      exact hfirst y (hstrangers.subset ((members_sublist hlater).subset hy))

/-- An element comes under one label only. -/
theorem label_unique (hnodup : (items.map (·.2)).Nodup) {first second : Label} {x : β}
    (hfirst : (first, x) ∈ items) (hsecond : (second, x) ∈ items) : first = second :=
  (Prod.mk.inj (List.inj_on_of_nodup_map hnodup hfirst hsecond rfl)).1

/-- **A bin holds its opener and all elements with the same label.** -/
theorem mem_members_iff (hnodup : (items.map (·.2)).Nodup) (h : bin ∈ bins items) {label : Label}
    {x : β} (hx : (label, x) ∈ items) :
    x ∈ bin.members ↔ x = bin.opener ∨ bin.label.same label := by
  fun_induction bins items with
  | case1 => cases h
  | case2 first opener rest ih =>
      obtain ⟨hopener, hrest⟩ := List.nodup_cons.1 hnodup
      rcases List.mem_cons.1 h with rfl | hlater
      · -- the first bin
        rcases List.mem_cons.1 hx with heq | hmem
        · obtain ⟨rfl, rfl⟩ := Prod.mk.inj heq
          exact iff_of_true (List.mem_cons_self ..) (.inl rfl)
        · refine List.mem_cons.trans (or_congr_right ⟨fun hfellow => ?_, fun hsame => ?_⟩)
          · obtain ⟨⟨other, y⟩, hother, rfl⟩ := List.mem_map.1 hfellow
            obtain ⟨hotherRest, hsame⟩ := mem_fellows.1 hother
            rwa [label_unique hrest hotherRest hmem] at hsame
          · exact List.mem_map_of_mem (f := Prod.snd) (mem_fellows.2 ⟨hmem, hsame⟩)
      · by_cases hstranger : (label, x) ∈ strangers first rest
        · exact ih (hrest.sublist (strangers_sublist first rest)) hlater hstranger
        · -- the element is in the first bin, and no later bin has the same label
          have hbin := mem_of_mem_bins hlater
          have hunique : ∀ {other}, (other, x) ∉ strangers first rest := by
            intro other hother
            have hmem := List.mem_cons_of_mem (first, opener) (mem_strangers.1 hother).1
            exact hstranger (label_unique hnodup hx hmem ▸ hother)
          refine iff_of_false (fun hmember => ?_) ?_
          · obtain ⟨⟨other, y⟩, hother, rfl⟩ :=
              List.mem_map.1 ((members_sublist hlater).subset hmember)
            exact hunique hother
          · rintro (rfl | hsame)
            · exact hunique hbin
            · refine (mem_strangers.1 hbin).2 ?_
              rcases List.mem_cons.1 hx with heq | hmem
              · obtain ⟨rfl, rfl⟩ := Prod.mk.inj heq
                exact Label.same_symm hsame
              · have hfellow : first.same label :=
                  not_not.1 fun hnot => hstranger (mem_strangers.2 ⟨hmem, hnot⟩)
                exact Label.same_trans hfellow (Label.same_symm hsame)

/-- Two elements fall into one bin exactly if their labels are the same. -/
theorem mem_same_bin_iff (hnodup : (items.map (·.2)).Nodup) {first second : Label} {x y : β}
    (hx : (first, x) ∈ items) (hy : (second, y) ∈ items) (hne : x ≠ y) :
    (∃ bin ∈ bins items, x ∈ bin.members ∧ y ∈ bin.members) ↔ first.same second := by
  constructor
  · rintro ⟨bin, hbin, hxbin, hybin⟩
    have hopener := mem_of_mem_bins hbin
    rcases (mem_members_iff hnodup hbin hx).1 hxbin with rfl | hxsame
    · obtain rfl := label_unique hnodup hx hopener
      exact ((mem_members_iff hnodup hbin hy).1 hybin).resolve_left hne.symm
    · rcases (mem_members_iff hnodup hbin hy).1 hybin with rfl | hysame
      · obtain rfl := label_unique hnodup hy hopener
        exact Label.same_symm hxsame
      · exact Label.same_trans (Label.same_symm hxsame) hysame
  · intro hsame
    have hmem : x ∈ (bins items).flatMap Bin.members :=
      (flatMap_members_bins items).mem_iff.2 (List.mem_map_of_mem (f := Prod.snd) hx)
    obtain ⟨bin, hbin, hxbin⟩ := List.mem_flatMap.1 hmem
    refine ⟨bin, hbin, hxbin, (mem_members_iff hnodup hbin hy).2 (.inr ?_)⟩
    rcases (mem_members_iff hnodup hbin hx).1 hxbin with rfl | hxsame
    · rwa [← label_unique hnodup hx (mem_of_mem_bins hbin)]
    · exact Label.same_trans hxsame hsame

end SqlTemplate
