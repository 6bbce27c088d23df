import SqlTemplate.Proofs.Expansion.Depth

/-!
# An expansion depends on the parameters it takes

An expansion takes some of its parameters from the front of the list, and the
others do not matter.  With the same front and anything behind it, the outcome is
the same; with a part of the front, the expansion ends at the first parameter
that is missing (`expand_of_consumed`).

## Strategy

`TakesOnly` says this about one run of a step, together with the parameters that
the run takes.  Every single step has such a list, and for two steps one after
the other the lists are joined (`compositional_determined`).  The runs that are
compared have different numbers of parameters, so they are taken at a depth that
is enough for both.
-/

namespace SqlTemplate

/-- A run takes certain parameters from the front of a supply, and nothing behind
them has any influence on it. -/
structure TakesOnly {α : Type} (step : Expansion α) (supply : Supply) (used : List Value)
    (outcome : Except Failure α) (after : Supply) : Prop where
  run : step supply = (outcome, after)
  pending : supply.pending = used ++ after.pending
  taken : after.taken = supply.taken + used.length
  /-- With anything else behind these parameters the run is the same. -/
  again : (∀ position supplied, outcome ≠ .error (.underflow position supplied)) →
    ∀ others, step { supply with pending := used ++ others } =
      (outcome, { after with pending := others })
  /-- With fewer parameters the run ends at the first one that is missing. -/
  fewer : ∀ front value back, used = front ++ value :: back →
    (step { supply with pending := front }).1 =
      .error (.underflow (supply.taken + front.length + 1) (supply.taken + front.length))
  /-- A parameter that is refused is the last one that was taken. -/
  refused : ∀ complaint tag position kind,
    outcome = .error (.unsuitable complaint tag position kind) → position = after.taken

/-- A step that depends on nothing but the parameters it takes. -/
def Determined (α : Type) (step : Expansion α) : Prop :=
  ∀ supply, ∃ used outcome after, TakesOnly step supply used outcome after

/-! ## The single steps -/

section

variable {α β : Type} {supply : Supply}

/-- A step that takes nothing and does not look at what is pending. -/
theorem takesOnly_nil {step : Expansion α} {outcome : Except Failure α} {raised : Bool}
    (hrun : ∀ pending, step { supply with pending := pending } =
      (outcome, ⟨pending, supply.taken, raised⟩))
    (hrefused : ∀ complaint tag position kind,
      outcome = .error (.unsuitable complaint tag position kind) → position = supply.taken) :
    TakesOnly step supply [] outcome ⟨supply.pending, supply.taken, raised⟩ where
  run := hrun supply.pending
  pending := rfl
  taken := rfl
  again _ := hrun
  fewer front value back h := by simp at h
  refused := hrefused

theorem determined_take : Determined Value Expansion.take := by
  intro supply
  cases hpending : supply.pending with
  | nil =>
      refine ⟨[], _, _, Expansion.take_of_pending_nil hpending, rfl, rfl, ?_, ?_, ?_⟩
      · exact fun hran => absurd rfl (hran _ _)
      · intro front value back h
        simp at h
      · simp
  | cons value rest =>
      refine ⟨[value], _, _, Expansion.take_of_pending_cons hpending, hpending, rfl, ?_, ?_, ?_⟩
      · exact fun _ others => Expansion.take_of_pending_cons rfl
      · intro front first back h
        obtain rfl : front = [] := by
          cases front with
          | nil => rfl
          | cons other more => simp at h
        exact congrArg Prod.fst (Expansion.take_of_pending_nil rfl)
      · simp

theorem determined_ofRule (tag : Tag) (outcome : Except Refusal α) :
    Determined α (Expansion.ofRule tag outcome) := by
  intro supply
  refine ⟨[], outcome.mapError (·.toFailure tag supply.taken),
    ⟨supply.pending, supply.taken, supply.skipRaised⟩, takesOnly_nil (fun _ => rfl) ?_⟩
  intro complaint name position kind h
  rcases outcome with refusal | value
  · cases refusal with
    | unsuitable reason other =>
        simp only [Except.mapError, Refusal.toFailure, Except.error.injEq,
          Failure.unsuitable.injEq] at h
        exact h.2.2.1.symm
    | tooManyDigits | hugeDecimal | beyondDouble =>
        simp [Except.mapError, Refusal.toFailure] at h
  · simp [Except.mapError] at h

theorem TakesOnly.isolateSkip {step : Expansion α} {used : List Value}
    {outcome : Except Failure α} {after : Supply}
    (h : TakesOnly step { supply with skipRaised := false } used outcome after) :
    TakesOnly (Expansion.isolateSkip step) supply used (outcome.map (·, after.skipRaised))
      { after with skipRaised := supply.skipRaised } where
  run := by rw [Expansion.isolateSkip, h.run]
  pending := h.pending
  taken := h.taken
  again hran others := by
    have hagain := h.again (fun position supplied houtcome => by
      rw [houtcome] at hran
      exact hran position supplied rfl) others
    rw [Expansion.isolateSkip, hagain]
  fewer front value back hused :=
    congrArg (Except.map fun value => (value, _)) (h.fewer front value back hused)
  refused complaint tag position kind hfailure := by
    rcases outcome with failure | value
    · exact h.refused complaint tag position kind (by rw [Except.error.inj hfailure])
    · simp [Except.map] at hfailure

/-! ## Two steps one after the other -/

section

variable {step : Expansion α} {next : α → Expansion β} {used more : List Value}
  {mid after : Supply}

/-- A first step that fails is all there is. -/
theorem TakesOnly.bind_of_error {failure : Failure}
    (h : TakesOnly step supply used (.error failure) after) :
    TakesOnly (step >>= next) supply used (.error failure) after where
  run := Expansion.bind_of_error h.run
  pending := h.pending
  taken := h.taken
  again hran others := Expansion.bind_of_error (h.again (by simpa using hran) others)
  fewer front value back hused := Expansion.fst_bind_of_error (h.fewer front value back hused)
  refused complaint tag position kind hfailure :=
    h.refused complaint tag position kind (by rw [Except.error.inj hfailure])

/-- The second step takes its parameters behind those of the first one. -/
theorem TakesOnly.bind_of_ok {value : α} {outcome : Except Failure β}
    (h : TakesOnly step supply used (.ok value) mid)
    (hnext : TakesOnly (next value) mid more outcome after) :
    TakesOnly (step >>= next) supply (used ++ more) outcome after := by
  have hresume : ∀ others, (step >>= next) { supply with pending := used ++ others } =
      next value { mid with pending := others } := fun others =>
    Expansion.bind_of_ok (h.again (by simp) others)
  refine ⟨?_, ?_, ?_, ?_, ?_, hnext.refused⟩
  · rw [Expansion.bind_of_ok h.run, hnext.run]
  · rw [List.append_assoc, ← hnext.pending, h.pending]
  · rw [hnext.taken, h.taken, List.length_append, Nat.add_assoc]
  · intro hran others
    rw [List.append_assoc, hresume, hnext.again hran]
  · intro front first back hused
    -- the first missing parameter is one of the second step or one of the first
    have hcut : (∃ behind, front = used ++ behind ∧ more = behind ++ first :: back) ∨
        ∃ behind, used = front ++ first :: behind := by
      rcases List.append_eq_append_iff.1 hused with
        ⟨behind, hfront, hmore⟩ | ⟨behind, hfront, hmore⟩
      · exact Or.inl ⟨behind, hfront, hmore⟩
      · cases behind with
        | nil => exact Or.inl ⟨[], by simpa using hfront.symm, hmore.symm⟩
        | cons other rest =>
            obtain ⟨rfl, -⟩ := List.cons.inj hmore
            exact Or.inr ⟨rest, hfront⟩
    rcases hcut with ⟨behind, rfl, hmore⟩ | ⟨behind, hfront⟩
    · have htaken : mid.taken + behind.length = supply.taken + (used ++ behind).length := by
        rw [h.taken, List.length_append, Nat.add_assoc]
      rw [hresume, hnext.fewer behind first back hmore, htaken]
    · exact Expansion.fst_bind_of_error (h.fewer front first behind hfront)

end

end

theorem compositional_determined : Compositional Determined where
  pure value supply := ⟨[], _, _, takesOnly_nil (fun _ => rfl) (fun _ _ _ _ h => nomatch h)⟩
  bind {_ _ step next} hstep hnext supply := by
    obtain ⟨used, failure | value, mid, h⟩ := hstep supply
    · exact ⟨used, _, _, h.bind_of_error⟩
    · obtain ⟨more, outcome, after, hmore⟩ := hnext value mid
      exact ⟨used ++ more, _, _, h.bind_of_ok hmore⟩
  malformed fault supply :=
    ⟨[], _, _, takesOnly_nil (fun _ => rfl) (fun _ _ _ _ h => nomatch h)⟩
  take := determined_take
  raiseSkip supply := ⟨[], _, _, takesOnly_nil (fun _ => rfl) (fun _ _ _ _ h => nomatch h)⟩
  ofRule := determined_ofRule
  isolateSkip {_ step} hstep supply := by
    obtain ⟨used, outcome, after, h⟩ := hstep { supply with skipRaised := false }
    exact ⟨used, _, _, h.isolateSkip⟩

/-! ## Cursors and supplies -/

/-- A supply whose pending parameters are those from a cursor on. -/
structure AtCursor (parameters : List Value) (supply : Supply) : Prop where
  le : supply.taken ≤ parameters.length
  pending : supply.pending = parameters.drop supply.taken

namespace AtCursor

variable {parameters : List Value} {supply : Supply}

theorem getElem?_taken (h : AtCursor parameters supply) :
    parameters[supply.taken]? = supply.pending.head? := by
  rw [h.pending, List.head?_drop]

theorem taken_eq_length (h : AtCursor parameters supply) (hnil : supply.pending = []) :
    supply.taken = parameters.length :=
  Nat.le_antisymm h.le (List.drop_eq_nil_iff.1 (h.pending.symm.trans hnil))

theorem getElem?_of_pending_cons {value : Value} {rest : List Value}
    (h : AtCursor parameters supply) (hpending : supply.pending = value :: rest) :
    parameters[supply.taken]? = some value := by
  rw [h.getElem?_taken, hpending, List.head?_cons]

/-- Steps take their parameters from the front. -/
theorem after {α : Type} {step : Expansion α} (h : AtCursor parameters supply)
    (hstep : Determined α step) : AtCursor parameters (step supply).2 := by
  obtain ⟨used, outcome, after, hrun⟩ := hstep supply
  have hlength : used.length + after.pending.length = parameters.length - supply.taken := by
    rw [← List.length_append, ← hrun.pending, h.pending, List.length_drop]
  have hle := h.le
  rw [hrun.run]
  refine ⟨?_, ?_⟩
  · rw [hrun.taken]
    omega
  · calc after.pending = (used ++ after.pending).drop used.length := (List.drop_left ..).symm
      _ = (parameters.drop supply.taken).drop used.length := by rw [← hrun.pending, h.pending]
      _ = parameters.drop after.taken := by rw [List.drop_drop, hrun.taken]

theorem of_pending_cons {value : Value} {rest : List Value} (h : AtCursor parameters supply)
    (hpending : supply.pending = value :: rest) :
    AtCursor parameters { supply with pending := rest, taken := supply.taken + 1 } := by
  have htake := h.after determined_take
  rwa [Expansion.take_of_pending_cons hpending] at htake

end AtCursor

theorem length_pending_le {α : Type} {step : Expansion α} (h : Determined α step)
    (supply : Supply) : (step supply).2.pending.length ≤ supply.pending.length := by
  obtain ⟨used, outcome, after, hrun⟩ := h supply
  rw [hrun.run, hrun.pending, List.length_append]
  exact Nat.le_add_left _ _

/-! ## Whole expansions -/

/-- An expansion takes as many of its parameters as it counts. -/
theorem takesOnly_expandWithin (quoter : Quoter) (depth : Nat) (text : List Char)
    (parameters : List Value) :
    ∃ outcome after, TakesOnly (expandWithin quoter depth text) (Supply.ofList parameters)
      (parameters.take after.taken) outcome after ∧ after.taken ≤ parameters.length := by
  obtain ⟨used, outcome, after, h⟩ :=
    compositional_determined.expandWithin depth text (Supply.ofList parameters)
  have hpending : parameters = used ++ after.pending := h.pending
  have htaken : after.taken = used.length := h.taken.trans (Nat.zero_add _)
  have hused : parameters.take after.taken = used := by
    rw [hpending, htaken, List.take_left]
  refine ⟨outcome, after, hused ▸ h, ?_⟩
  rw [hpending, htaken, List.length_append]
  exact Nat.le_add_right _ _

namespace Expander

variable {expander : Expander} {template : String} {parameters : List Value}

theorem consumed_le {expanded : Expanded}
    (h : expander.expand template parameters = .ok expanded) :
    expanded.consumed ≤ parameters.length := by
  obtain ⟨outcome, after, hrun, hcount⟩ := takesOnly_expandWithin expander.quoter
    parameters.length template.toList parameters
  obtain ⟨sql, -, rfl⟩ := (expand_eq_ok_iff (Nat.le_refl _)).1 h
  rw [hrun.run]
  exact hcount

/-- Other parameters behind the ones that were consumed change nothing. -/
theorem expand_take_append {expanded : Expanded}
    (h : expander.expand template parameters = .ok expanded) (others : List Value) :
    expander.expand template (parameters.take expanded.consumed ++ others) =
      .ok { expanded with supplied := expanded.consumed + others.length } := by
  obtain ⟨outcome, after, hrun, hcount⟩ := takesOnly_expandWithin expander.quoter
    (parameters.length + others.length) template.toList parameters
  obtain ⟨sql, hsql, rfl⟩ := (expand_eq_ok_iff (Nat.le_add_right _ others.length)).1 h
  rw [hrun.run] at hsql ⊢
  obtain rfl : outcome = .ok sql := hsql
  have hlength : (parameters.take after.taken ++ others).length = after.taken + others.length := by
    rw [List.length_append, List.length_take_of_le hcount]
  have hagain : expandWithin expander.quoter (parameters.length + others.length) template.toList
      (Supply.ofList (parameters.take after.taken ++ others)) =
        (.ok sql, { after with pending := others }) := hrun.again (by simp) others
  -- both lists of parameters are short enough for the depth of the run
  have hdepth := Nat.add_le_add_right hcount others.length
  refine (expand_eq_ok_iff (hlength ▸ hdepth)).2 ⟨sql, ?_, ?_⟩
  · rw [hagain]
  · rw [hagain, hlength]

/-- With some of the parameters that were consumed, the next one is missing. -/
theorem expand_take_of_lt {expanded : Expanded} {count : Nat}
    (h : expander.expand template parameters = .ok expanded) (hcount : count < expanded.consumed) :
    expander.expand template (parameters.take count) = .error (.underflow (count + 1) count) := by
  obtain ⟨outcome, after, hrun, htaken⟩ := takesOnly_expandWithin expander.quoter
    parameters.length template.toList parameters
  obtain ⟨sql, -, rfl⟩ := (expand_eq_ok_iff (Nat.le_refl _)).1 h
  rw [hrun.run] at hcount
  have hcount : count < after.taken := hcount
  have hshorter : count < parameters.length := Nat.lt_of_lt_of_le hcount htaken
  have hlength : (parameters.take count).length = count :=
    List.length_take_of_le (Nat.le_of_lt hshorter)
  have hinside : count < (parameters.take after.taken).length := by
    rwa [List.length_take_of_le htaken]
  have hfront : (parameters.take after.taken).take count = parameters.take count := by
    rw [List.take_take, Nat.min_eq_left (Nat.le_of_lt hcount)]
  -- the parameter at `count` is the first one that is missing
  have hused : parameters.take after.taken = parameters.take count ++
      (parameters.take after.taken)[count] :: (parameters.take after.taken).drop (count + 1) :=
    calc parameters.take after.taken
        = (parameters.take after.taken).take count ++ (parameters.take after.taken).drop count :=
          (List.take_append_drop ..).symm
      _ = parameters.take count ++ _ := by rw [hfront, List.drop_eq_getElem_cons hinside]
  have hfewer := hrun.fewer _ _ _ hused
  rw [hlength, Supply.ofList, Nat.zero_add] at hfewer
  exact (expand_eq_error_iff (List.length_take_le' ..)).2 hfewer

/-- A parameter that is refused is refused whatever stands behind it. -/
theorem expand_take_append_of_refused {complaint : Complaint} {tag : Tag} {position : Nat}
    {kind : Kind}
    (h : expander.expand template parameters = .error (.unsuitable complaint tag position kind))
    (others : List Value) :
    expander.expand template (parameters.take position ++ others) =
      .error (.unsuitable complaint tag position kind) := by
  obtain ⟨outcome, after, hrun, hcount⟩ := takesOnly_expandWithin expander.quoter
    (parameters.length + others.length) template.toList parameters
  have hfailure := (expand_eq_error_iff (Nat.le_add_right _ others.length)).1 h
  rw [hrun.run] at hfailure
  obtain rfl : outcome = .error (.unsuitable complaint tag position kind) := hfailure
  obtain rfl := hrun.refused complaint tag position kind rfl
  have hlength : (parameters.take after.taken ++ others).length ≤
      parameters.length + others.length := by
    rw [List.length_append, List.length_take_of_le hcount]
    exact Nat.add_le_add_right hcount others.length
  refine (expand_eq_error_iff hlength).2 ?_
  exact congrArg Prod.fst (hrun.again (by simp) others)

/-- **The parameters that were consumed decide everything.**  A successful expansion
is the same with other parameters behind the ones it consumed, and with fewer it
ends at the first one that is missing.  A refusal is the same with other parameters
behind the one that was refused. -/
theorem expand_of_consumed (expander : Expander) (template : String) (parameters : List Value) :
    (∀ expanded, expander.expand template parameters = .ok expanded →
      (∀ others, expander.expand template (parameters.take expanded.consumed ++ others) =
        .ok { expanded with supplied := expanded.consumed + others.length }) ∧
      ∀ count < expanded.consumed, expander.expand template (parameters.take count) =
        .error (.underflow (count + 1) count)) ∧
    ∀ complaint tag position kind,
      expander.expand template parameters = .error (.unsuitable complaint tag position kind) →
      ∀ others, expander.expand template (parameters.take position ++ others) =
        .error (.unsuitable complaint tag position kind) :=
  ⟨fun _ hexpanded => ⟨expand_take_append hexpanded, fun _ => expand_take_of_lt hexpanded⟩,
    fun _ _ _ _ hrefused => expand_take_append_of_refused hrefused⟩

/-- A nested template stands in an alternative that is not kept, behind the gate of
an inner block; at the end of it, a text is refused as an integer. -/
theorem expand_of_consumed_nested :
    (∀ others, (Expander.ofProfile {}).expand "a ?d {b ? | {? ?s}}"
        ([.int 5, .null, .int 1, .text "x ?# {?y}", .text "t", .skip] ++ others) =
      .ok ⟨"a 5  b NULL  ", 6, 6 + others.length, "mysql"⟩) ∧
    (Expander.ofProfile {}).expand "a ?d {b ? | {? ?s}}"
        [.int 5, .null, .int 1, .text "x ?# {?y}"] = .error (.underflow 5 4) ∧
    ∀ others, (Expander.ofProfile {}).expand "a ?d {b ? | {? ?s}}"
        ([.int 5, .null, .int 1, .text "x ?# {?y ?d}", .text "t", .int 2, .text "u"] ++ others) =
      .error (.unsuitable .notInteger .integer 7 .text) := by
  have hexpanded := (expand_of_consumed (Expander.ofProfile {}) "a ?d {b ? | {? ?s}}"
    [.int 5, .null, .int 1, .text "x ?# {?y}", .text "t", .skip, .foreign]).1
    ⟨"a 5  b NULL  ", 6, 7, "mysql"⟩ (by decide +kernel)
  have hrefused := (expand_of_consumed (Expander.ofProfile {}) "a ?d {b ? | {? ?s}}"
    [.int 5, .null, .int 1, .text "x ?# {?y ?d}", .text "t", .int 2, .text "u", .foreign]).2
    .notInteger .integer 7 .text (by decide +kernel)
  exact ⟨hexpanded.1, hexpanded.2 4 (by decide), hrefused⟩

end Expander

end SqlTemplate
