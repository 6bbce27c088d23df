import SqlTemplate.Proofs.Expansion.Discipline
import SqlTemplate.Proofs.Expansion.Reach

/-!
# When a block is emitted

A block is dropped if its gate takes the skip mark, or if the mark is taken anywhere in its
alternatives, inner blocks excepted and nested templates included; otherwise its text is that
of the first alternative, between two spaces (`block_emission`).

The block decides by looking at the skip flag after all alternatives have been scanned.  All
placeholders and inner blocks, at any depth, have worked on the same flag until then.  What
has to be shown is therefore what the flag stands for: it is raised if it was raised before,
or if a placeholder took the mark that is reached without going into a block
(`Runs.skipRaised_iff`).

## Strategy

By induction on the run.  A placeholder that takes the mark raises the flag, a block gives it
back as it was, and everything else leaves it to its calls, each of which goes on with the
flag that the one before has left.  So the placeholders that are reached are told in the same
way, by those that are reached from the calls (`takesSkip_iff`).
-/

namespace SqlTemplate

/-- Whether the skip mark is the next parameter. -/
def Supply.OffersSkip (supply : Supply) : Prop :=
  supply.pending.head? = some .skip

/-- Whether a placeholder takes the skip mark that is reached without going into a block. -/
def TakesSkip (quoter : Quoter) (start : Activity × Supply) : Prop :=
  ∃ tag later, Reaches quoter Activity.isResolve start (.dispatch tag, later) ∧ later.OffersSkip

/-! ## Which placeholders are reached -/

section

variable {quoter : Quoter} {supply : Supply} {text : List Char} {position next : Nat}

/-- A placeholder that is reached is the start itself, or it is reached from a call. -/
theorem takesSkip_iff {start : Activity × Supply} :
    TakesSkip quoter start ↔
      (∃ tag, start.1 = .dispatch tag ∧ start.2.OffersSkip) ∨
        (start.1.isResolve = false ∧
          ∃ callee, Calls quoter start callee ∧ TakesSkip quoter callee) := by
  constructor
  · rintro ⟨tag, later, hreach, hskip⟩
    rcases Relation.ReflTransGen.cases_head hreach with rfl | ⟨callee, ⟨hstart, hcall⟩, hbehind⟩
    · exact Or.inl ⟨tag, rfl, hskip⟩
    · exact Or.inr ⟨hstart, callee, hcall, tag, later, hbehind, hskip⟩
  · rintro (⟨tag, htag, hskip⟩ | ⟨hstart, callee, hcall, tag, later, hreach, hskip⟩)
    · obtain ⟨activity, supply⟩ := start
      obtain rfl : activity = .dispatch tag := htag
      exact ⟨tag, supply, .refl, hskip⟩
    · exact ⟨tag, later, hreach.head hcall hstart, hskip⟩

/-- A block keeps its placeholders to itself. -/
theorem not_takesSkip_resolve (content : List Char) :
    ¬ TakesSkip quoter (.resolve content, supply) := by
  rw [takesSkip_iff]
  rintro (⟨tag, htag, -⟩ | ⟨hresolve, -⟩)
  · cases htag
  · cases hresolve

theorem not_takesSkip_finished (hend : turnAt? text position = none) :
    ¬ TakesSkip quoter (.scan text position, supply) := by
  rw [takesSkip_iff]
  rintro (⟨tag, htag, -⟩ | ⟨-, callee, hcall, -⟩)
  · cases htag
  · cases hcall with
    | copied hturn | token hturn | behind hturn => cases hend.symm.trans hturn

theorem takesSkip_copied_iff {run : List Char}
    (hturn : turnAt? text position = some (.copied run, next)) :
    TakesSkip quoter (.scan text position, supply) ↔
      TakesSkip quoter (.scan text next, supply) := by
  rw [takesSkip_iff]
  constructor
  · rintro (⟨tag, htag, -⟩ | ⟨-, callee, hcall, hskip⟩)
    · cases htag
    · cases hcall with
      | copied hother =>
          cases hturn.symm.trans hother
          exact hskip
      | token hother hcallee | behind hother hcallee =>
          cases hturn.symm.trans hother
          cases hcallee
  · exact fun hskip => Or.inr ⟨rfl, _, .copied hturn, hskip⟩

/-- A scan reaches what the activity of its token reaches, and what the rest of it reaches on
the supply that is left. -/
theorem takesSkip_token_iff {token : Token} {activity : Activity} {inside : List Char}
    {mid : Supply} (hturn : turnAt? text position = some (token, next))
    (hcallee : token.callee? = some activity) (hrun : Runs quoter activity supply (.ok inside, mid)) :
    TakesSkip quoter (.scan text position, supply) ↔
      TakesSkip quoter (activity, supply) ∨ TakesSkip quoter (.scan text next, mid) := by
  rw [takesSkip_iff]
  constructor
  · rintro (⟨tag, htag, -⟩ | ⟨-, callee, hcall, hskip⟩)
    · cases htag
    · cases hcall with
      | copied hother =>
          cases hturn.symm.trans hother
          cases hcallee
      | token hother hactivity =>
          cases hturn.symm.trans hother
          cases hcallee.symm.trans hactivity
          exact Or.inl hskip
      | behind hother hactivity hagain =>
          cases hturn.symm.trans hother
          cases hcallee.symm.trans hactivity
          cases hrun.expansion_eq.symm.trans hagain.expansion_eq
          exact Or.inr hskip
  · rintro (hskip | hskip)
    · exact Or.inr ⟨rfl, _, .token hturn hcallee, hskip⟩
    · exact Or.inr ⟨rfl, _, .behind hturn hcallee hrun, hskip⟩

theorem not_offersSkip_of_take {value : Value} {after : Supply}
    (htake : Expansion.take supply = (.ok value, after)) (hskip : value ≠ .skip) :
    ¬ supply.OffersSkip := by
  obtain ⟨rest, hpending, -⟩ := exists_pending_of_take htake
  rw [Supply.OffersSkip, hpending, List.head?_cons]
  exact fun hvalue => hskip (Option.some.inj hvalue)

theorem not_takesSkip_literal {tag : Tag} {value : Value} {after : Supply} {literal : List Char}
    (htake : Expansion.take supply = (.ok value, after)) (hskip : value ≠ .skip)
    (hpresent : present quoter tag value = .ok (.literal literal)) :
    ¬ TakesSkip quoter (.dispatch tag, supply) := by
  rw [takesSkip_iff]
  rintro (⟨-, -, hoffers⟩ | ⟨-, callee, hcall, -⟩)
  · exact not_offersSkip_of_take htake hskip hoffers
  · cases hcall with
    | template hother _ htemplate =>
        cases htake.symm.trans hother
        cases hpresent.symm.trans htemplate

theorem takesSkip_template_iff {tag : Tag} {value : Value} {after : Supply}
    (htake : Expansion.take supply = (.ok value, after)) (hskip : value ≠ .skip)
    (hpresent : present quoter tag value = .ok (.template text)) :
    TakesSkip quoter (.dispatch tag, supply) ↔ TakesSkip quoter (.scan text 0, after) := by
  rw [takesSkip_iff]
  constructor
  · rintro (⟨-, -, hoffers⟩ | ⟨-, callee, hcall, hbehind⟩)
    · exact absurd hoffers (not_offersSkip_of_take htake hskip)
    · cases hcall with
      | template hother _ htemplate =>
          cases htake.symm.trans hother
          cases hpresent.symm.trans htemplate
          exact hbehind
  · exact fun hbehind => Or.inr ⟨rfl, _, .template htake hskip hpresent, hbehind⟩

theorem not_takesSkip_exhausted (kept : Option (List Char)) :
    ¬ TakesSkip quoter (.alternatives kept [], supply) := by
  rw [takesSkip_iff]
  rintro (⟨tag, htag, -⟩ | ⟨-, callee, hcall, -⟩)
  · cases htag
  · cases hcall

theorem takesSkip_alternatives_iff {kept : Option (List Char)} {piece : List Char}
    {others : List (List Char)} {mid : Supply}
    (hrun : Runs quoter (.scan piece 0) supply (.ok text, mid)) :
    TakesSkip quoter (.alternatives kept (piece :: others), supply) ↔
      TakesSkip quoter (.scan piece 0, supply) ∨
        TakesSkip quoter
          (.alternatives (some (kept.getD (' ' :: text ++ [' ']))) others, mid) := by
  rw [takesSkip_iff]
  constructor
  · rintro (⟨tag, htag, -⟩ | ⟨-, callee, hcall, hskip⟩)
    · cases htag
    · cases hcall with
      | piece => exact Or.inl hskip
      | others hagain =>
          cases hrun.expansion_eq.symm.trans hagain.expansion_eq
          exact Or.inr hskip
  · rintro (hskip | hskip)
    · exact Or.inr ⟨rfl, _, .piece, hskip⟩
    · exact Or.inr ⟨rfl, _, .others hrun, hskip⟩

end

/-! ## What the flag stands for -/

theorem exists_of_emit_eq_ok {text front : List Char} {result : Except Failure (List Char) × Supply}
    {after : Supply} (h : (.ok text, after) = emit front result) :
    ∃ rest, (.ok rest, after) = result := by
  obtain ⟨failure | rest, last⟩ := result
  · cases h
  · cases h
    exact ⟨rest, rfl⟩

/-- **The flag is raised by the placeholders that take the skip mark**, those inside of blocks
excepted. -/
theorem Runs.skipRaised_iff {quoter : Quoter} {activity : Activity} {supply after : Supply}
    {text : List Char} (h : Runs quoter activity supply (.ok text, after)) :
    after.skipRaised = true ↔
      supply.skipRaised = true ∨ TakesSkip quoter (activity, supply) := by
  generalize hresult : ((.ok text, after) : Except Failure (List Char) × Supply) = result at h
  induction h generalizing text after with
  | finished hend =>
      cases hresult
      rw [or_iff_left (not_takesSkip_finished hend)]
  | fault => cases hresult
  | copied hturn hrest ih =>
      obtain ⟨rest, hrest⟩ := exists_of_emit_eq_ok hresult
      rw [ih hrest, takesSkip_copied_iff hturn]
  | failed => cases hresult
  | emitted hturn hcallee hrun hrest ihcallee ih =>
      obtain ⟨rest, hrest⟩ := exists_of_emit_eq_ok hresult
      rw [ih hrest, ihcallee rfl, takesSkip_token_iff hturn hcallee hrun, or_assoc]
  | missing => cases hresult
  | @skipped tag supply mid htake =>
      cases hresult
      obtain ⟨rest, hpending, -⟩ := exists_pending_of_take htake
      have hoffers : supply.OffersSkip := by
        rw [Supply.OffersSkip, hpending, List.head?_cons]
      exact iff_of_true rfl (Or.inr ⟨tag, supply, .refl, hoffers⟩)
  | refused => cases hresult
  | literal htake hskip hpresent =>
      cases hresult
      obtain ⟨rest, -, rfl⟩ := exists_pending_of_take htake
      rw [or_iff_left (not_takesSkip_literal htake hskip hpresent)]
  | template htake hskip hpresent hrun ih =>
      rw [ih hresult, takesSkip_template_iff htake hskip hpresent]
      obtain ⟨rest, -, rfl⟩ := exists_pending_of_take htake
      exact Iff.rfl
  | locked => cases hresult
  | broken => cases hresult
  | @resolved content supply dropped mid text last hgate hrun ih =>
      cases hresult
      -- the flag is given back, and the placeholders of the block are not reached from outside
      have hflag := skipRaised_passGate (splitGate content).1 supply
      rw [hgate] at hflag
      rw [or_iff_left (not_takesSkip_resolve content)]
      exact Eq.congr_left hflag
  | exhausted =>
      cases hresult
      rw [or_iff_left (not_takesSkip_exhausted _)]
  | spoiled => cases hresult
  | expanded hpiece hothers ihpiece ih =>
      rw [ih hresult, ihpiece rfl, takesSkip_alternatives_iff hpiece, or_assoc]

/-! ## Blocks -/

section

variable {quoter : Quoter} {content text : List Char} {supply mid after : Supply} {dropped : Bool}

theorem dropped_iff (h : passGate (splitGate content).1 supply = (.ok dropped, mid)) :
    dropped = true ↔ content.head? = some '?' ∧ supply.OffersSkip := by
  unfold splitGate at h
  split at h
  · next rest =>
      cases hpending : supply.pending with
      | nil => rw [passGate_of_pending_nil hpending] at h; cases h
      | cons value others =>
          rw [passGate_of_pending_cons hpending] at h
          cases h
          rw [Supply.OffersSkip, hpending, List.head?_cons, List.head?_cons, Option.some.injEq,
            and_iff_right rfl]
          cases value <;> simp [Value.isSkip]
  · next hplain =>
      cases h
      refine iff_of_false Bool.false_ne_true ?_
      rintro ⟨hmark, -⟩
      obtain ⟨rest, rfl⟩ := List.head?_eq_some_iff.1 hmark
      exact hplain rest rfl

/-- Behind the gate there is one call, that of the alternatives. -/
theorem calls_resolve_iff {callee : Activity × Supply}
    (hgate : passGate (splitGate content).1 supply = (.ok dropped, mid)) :
    Calls quoter (.resolve content, supply) callee ↔
      callee = (.alternatives none (alternatives (splitGate content).2),
        { mid with skipRaised := false }) := by
  constructor
  · rintro (- | - | - | - | hother)
    cases hgate.symm.trans hother
    rfl
  · rintro rfl
    exact .content hgate

/-- What is kept of the first alternative is the text of the block. -/
theorem eq_of_runs_kept {kept : List Char} {pieces : List (List Char)}
    (h : Runs quoter (.alternatives (some kept) pieces) supply (.ok text, after)) :
    text = kept := by
  obtain ⟨texts, last, -, hreturn⟩ := Expansion.exists_of_bind_ok h.expansion_eq
  cases hreturn
  rfl

theorem exists_of_runs_alternatives {piece : List Char} {others : List (List Char)}
    (h : Runs quoter (.alternatives none (piece :: others)) supply (.ok text, after)) :
    ∃ first mid, expandText quoter piece supply = (.ok first, mid) ∧
      text = ' ' :: first ++ [' '] := by
  cases h with
  | @expanded _ _ _ _ first mid _ hpiece hothers =>
      exact ⟨first, mid, runs_scan_iff.1 hpiece, eq_of_runs_kept hothers⟩

end

/-- What becomes of a block, and of the skip flag. -/
structure Emission (quoter : Quoter) (content : List Char) (supply : Supply) (text : List Char)
    (after : Supply) : Prop where
  /-- The block leaves no text if its gate takes the skip mark, or if a placeholder in its
  alternatives does, which are scanned behind the gate. -/
  dropped : text = [] ↔ (content.head? = some '?' ∧ supply.OffersSkip) ∨
    ∃ start, Calls quoter (.resolve content, supply) start ∧ TakesSkip quoter start
  /-- Otherwise its text is that of the first alternative. -/
  emitted : text ≠ [] → ∃ piece others start first mid,
    alternatives (splitGate content).2 = piece :: others ∧
      Calls quoter (.resolve content, supply) (.alternatives none (piece :: others), start) ∧
      expandText quoter piece start = (.ok first, mid) ∧ text = ' ' :: first ++ [' ']
  /-- Whatever is in the block, the flag around it stays as it is. -/
  flag : after.skipRaised = supply.skipRaised

theorem emission_of_runs {quoter : Quoter} {content text : List Char} {supply after : Supply}
    (h : Runs quoter (.resolve content) supply (.ok text, after)) :
    Emission quoter content supply text after := by
  cases h with
  | @resolved _ _ dropped mid inside last hgate hrun =>
      obtain ⟨piece, others, hpieces⟩ :=
        List.exists_cons_of_ne_nil (piecesFrom_ne_nil 0 (lexemes (splitGate content).2))
      have halternatives : alternatives (splitGate content).2 = piece :: others := hpieces
      rw [halternatives] at hrun
      have hstart : ∀ callee, Calls quoter (.resolve content, supply) callee ↔
          callee = (.alternatives none (piece :: others), { mid with skipRaised := false }) := by
        rw [← halternatives]
        exact fun callee => calls_resolve_iff hgate
      obtain ⟨first, later, hfirst, rfl⟩ := exists_of_runs_alternatives hrun
      have hraised := hrun.skipRaised_iff
      rw [or_iff_right Bool.false_ne_true] at hraised
      have hflag := skipRaised_passGate (splitGate content).1 supply
      rw [hgate] at hflag
      refine ⟨?_, fun hkept => ?_, hflag⟩
      · simp only [hstart, exists_eq_left]
        rw [← dropped_iff hgate, ← hraised, ← Bool.or_eq_true]
        split
        · next hskip => exact iff_of_true rfl hskip
        · next hskip => exact iff_of_false (List.cons_ne_nil _ _) hskip
      · refine ⟨piece, others, _, first, later, halternatives, (hstart _).2 rfl, hfirst, ?_⟩
        split at hkept
        · exact absurd rfl hkept
        · next hskip => rw [if_neg hskip]

/-- **When a block is emitted.**  A block leaves no text exactly if its gate takes the skip
mark, or if a placeholder does that is reached in its alternatives without going into an inner
block; otherwise it leaves the text of its first alternative, between two spaces.  Behind any
scan the skip flag is raised exactly if it was raised before, or if a placeholder outside of
all blocks of the text has taken the mark. -/
theorem block_emission (quoter : Quoter) :
    (∀ content supply text after, expandContent quoter content supply = (.ok text, after) →
      Emission quoter content supply text after) ∧
    ∀ template supply text after, expandText quoter template supply = (.ok text, after) →
      (after.skipRaised = true ↔
        supply.skipRaised = true ∨ TakesSkip quoter (.scan template 0, supply)) :=
  ⟨fun _ _ _ _ h => emission_of_runs (runs_resolve_iff.2 h),
    fun _ _ _ _ h => (runs_scan_iff.2 h).skipRaised_iff⟩

/-- The inner block drops itself only.  What drops the outer one is the template in its second
alternative, if the placeholder in it takes the mark. -/
theorem block_emission_nested :
    let content := "a {b ?|c}|d ?s".toList
    let skipping := Supply.ofList [.skip, .text "e ?", .skip]
    let filling := Supply.ofList [.skip, .text "e ?", .int 1]
    (∃ after, Emission .mysql content skipping [] after) ∧
      (∃ start, Calls .mysql (.resolve content, skipping) start ∧ TakesSkip .mysql start) ∧
      (∃ after, Emission .mysql content filling " a  ".toList after) ∧
      ¬ ∃ start, Calls .mysql (.resolve content, filling) start ∧ TakesSkip .mysql start := by
  intro content skipping filling
  have hskipping : (expandContent .mysql content skipping).1 = .ok [] := by decide +kernel
  have hfilling : (expandContent .mysql content filling).1 = .ok " a  ".toList := by
    decide +kernel
  have hdropped := (block_emission .mysql).1 content skipping _ _ (Prod.ext hskipping rfl)
  have hemitted := (block_emission .mysql).1 content filling _ _ (Prod.ext hfilling rfl)
  have hungated : ¬ (content.head? = some '?' ∧ skipping.OffersSkip) :=
    fun hgate => absurd hgate.1 (by decide)
  refine ⟨⟨_, hdropped⟩, (hdropped.dropped.1 rfl).resolve_left hungated, ⟨_, hemitted⟩, ?_⟩
  intro htaken
  have hnil := hemitted.dropped.2 (Or.inr htaken)
  revert hnil
  decide

end SqlTemplate
