import SqlTemplate.Proofs.Expansion.Discipline
import SqlTemplate.Proofs.Expansion.Ledger
import SqlTemplate.Proofs.Literal.Oversized

/-!
# Who is to blame for a failure

An expansion fails because the template is malformed, because a parameter is missing,
or because a slot does not take the parameter that it got.  This file is about the last
case: the failure comes of the parameter that was taken last, and of no other one.

* Such a failure is a complaint, or the parameter is too great for its slot.  Which error
  is raised may then depend on the memory of the machine (`Expander.expand_outcomes`).
* A complaint states the position of the parameter that was taken last, and if that
  parameter is the skip mark instead, there is no complaint about it or about one in
  front of it (`Expander.expand_error_position`).

## Strategy

A slot that refuses its parameter ends the expansion on the spot, so it is the last entry
of the ledger.  `Blames` says this in both directions: the failure is the refusal of the
last entry, and no slot that was listed has refused its parameter without it.  Two steps
one after the other hand it on, because a ledger ends where a step fails.
-/

namespace SqlTemplate

open Number

/-- Whether a failure is about a parameter and the slot that it was taken for. -/
def Failure.blamesSlot : Failure → Bool
  | malformed _ | underflow _ _ => false
  | unsuitable _ _ _ _ | tooManyDigits | hugeDecimal _ | beyondDouble => true

/-- A failure that is a complaint comes of a complaint. -/
theorem Refusal.eq_of_toFailure_eq {refusal : Refusal} {complaint : Complaint} {tag name : Tag}
    {position place : Nat} {kind : Kind}
    (h : refusal.toFailure name place = .unsuitable complaint tag position kind) :
    refusal = .unsuitable complaint kind ∧ name = tag ∧ place = position := by
  cases refusal <;> cases h
  exact ⟨rfl, rfl, rfl⟩

/-- A slot does not take a parameter. -/
structure Rejects (quoter : Quoter) (tag : Tag) (value : Value) (refusal : Refusal) : Prop where
  ne_skip : value ≠ .skip
  present : present quoter tag value = .error refusal

/-! ## Failures and ledgers -/

/-- The failures of a step are the refusals of the slots in its ledger. -/
structure Blames {α : Type} (quoter : Quoter) (step : Expansion α)
    (ledger : Supply → List Intake) : Prop where
  /-- A failure about a slot is about the last one. -/
  last : ∀ supply failure, (step supply).1 = .error failure → failure.blamesSlot = true →
    ∃ front tag value refusal, ledger supply = front ++ [.slot tag value] ∧
      Rejects quoter tag value refusal ∧ failure = refusal.toFailure tag (step supply).2.taken
  /-- Whatever slot does not take its parameter, the step fails for it. -/
  mem : ∀ supply tag value refusal, .slot tag value ∈ ledger supply →
    Rejects quoter tag value refusal →
    (step supply).1 = .error (refusal.toFailure tag (step supply).2.taken)

namespace Blames

variable {α β : Type} {quoter : Quoter} {step : Expansion α} {ledger : Supply → List Intake}

/-- A step that neither takes parameters for slots nor fails for one. -/
theorem of_no_slot (hledger : ∀ supply tag value, .slot tag value ∉ ledger supply)
    (hfailure : ∀ supply failure, (step supply).1 = .error failure →
      failure.blamesSlot = false) : Blames quoter step ledger where
  last supply failure herror hslot := by
    rw [hfailure supply failure herror] at hslot
    cases hslot
  mem supply tag value _ hmem _ := absurd hmem (hledger supply tag value)

theorem bind {next : α → Expansion β} {following : Supply → List Intake}
    (hstep : Blames quoter step ledger) (hnext : ∀ value, Blames quoter (next value) following) :
    Blames quoter (step >>= next) fun supply =>
      ledger supply ++ ledgerAfter (step supply) following where
  last supply failure herror hslot := by
    rcases hrun : step supply with ⟨first | value, after⟩
    · rw [Expansion.bind_of_error hrun] at herror ⊢
      obtain rfl := Except.error.inj herror
      rw [ledgerAfter_of_error rfl, List.append_nil]
      have hlast := hstep.last supply first (congrArg Prod.fst hrun) hslot
      rwa [hrun] at hlast
    · rw [Expansion.bind_of_ok hrun] at herror ⊢
      rw [ledgerAfter_of_ok rfl]
      obtain ⟨front, tag, taken, refusal, hledger, hrest⟩ :=
        (hnext value).last after failure herror hslot
      refine ⟨ledger supply ++ front, tag, taken, refusal, ?_, hrest⟩
      rw [hledger, List.append_assoc]
  mem supply tag taken refusal hmem hrejects := by
    rcases List.mem_append.1 hmem with hfirst | hsecond
    · have herror := hstep.mem supply tag taken refusal hfirst hrejects
      rw [Expansion.bind_of_error (Prod.ext herror rfl)]
    · rcases hrun : step supply with ⟨first | value, after⟩
      · rw [ledgerAfter_of_error hrun] at hsecond
        cases hsecond
      · rw [ledgerAfter_of_ok hrun] at hsecond
        rw [Expansion.bind_of_ok hrun]
        exact (hnext value).mem after tag taken refusal hsecond hrejects

theorem isolateSkip (hstep : Blames quoter step ledger) :
    Blames quoter (Expansion.isolateSkip step) fun supply =>
      ledger { supply with skipRaised := false } where
  last supply failure herror hslot := by
    refine hstep.last { supply with skipRaised := false } failure ?_ hslot
    exact eq_error_of_map (f := fun value => (value, _)) herror
  mem supply tag value refusal hmem hrejects :=
    congrArg (Except.map fun value => (value, _))
      (hstep.mem { supply with skipRaised := false } tag value refusal hmem hrejects)

end Blames

section

variable {quoter : Quoter} {expandNested : List Char → Expansion (List Char)}
  {nestedLedger : List Char → Supply → List Intake}

theorem blames_passGate (gated : Bool) : Blames quoter (passGate gated) (gateLedger gated) := by
  refine .of_no_slot ?_ ?_
  · intro supply tag value hmem
    cases gated with
    | false => cases hmem
    | true =>
        obtain ⟨taken, -, heq⟩ := List.mem_map.1 hmem
        cases heq
  · intro supply failure herror
    cases gated with
    | false => cases herror
    | true =>
        cases hpending : supply.pending with
        | nil =>
            rw [passGate_of_pending_nil hpending] at herror
            cases herror
            rfl
        | cons value rest =>
            rw [passGate_of_pending_cons hpending] at herror
            cases herror

theorem blames_expandPlaceholder (tag : Tag)
    (h : ∀ text, Blames quoter (expandNested text) (nestedLedger text)) :
    Blames quoter (expandPlaceholder quoter expandNested tag)
      (placeholderLedger quoter nestedLedger tag) where
  last supply failure herror hslot := by
    have hcases := placeholderRun quoter expandNested tag supply
    generalize expandPlaceholder quoter expandNested tag supply = run at hcases herror ⊢
    cases hcases with
    | missing hpending =>
        cases herror
        cases hslot
    | skipped hpending => cases herror
    | @refused value rest refusal hpending hskip hpresent =>
        rw [placeholderLedger_of_literal hpending (by simp [hpresent])]
        exact ⟨[], tag, value, refusal, rfl, ⟨hskip, hpresent⟩, (Except.error.inj herror).symm⟩
    | literal hpending hskip hpresent => cases herror
    | @template value rest text hpending hskip hpresent =>
        rw [placeholderLedger_of_template hpending hpresent]
        obtain ⟨front, name, taken, refusal, hledger, hrest⟩ := (h text).last _ failure herror hslot
        exact ⟨.slot tag value :: front, name, taken, refusal, by rw [hledger]; rfl, hrest⟩
  mem supply name taken other hmem hrejects := by
    have hcases := placeholderRun quoter expandNested tag supply
    generalize expandPlaceholder quoter expandNested tag supply = run at hcases ⊢
    cases hcases with
    | missing hpending => simp [placeholderLedger, hpending] at hmem
    | skipped hpending =>
        rw [placeholderLedger_of_literal hpending (present_skip_ne_template tag)] at hmem
        cases List.mem_singleton.1 hmem
        exact absurd rfl hrejects.ne_skip
    | refused hpending hskip hpresent =>
        rw [placeholderLedger_of_literal hpending (by simp [hpresent])] at hmem
        cases List.mem_singleton.1 hmem
        obtain rfl := Except.error.inj (hrejects.present.symm.trans hpresent)
        rfl
    | literal hpending hskip hpresent =>
        rw [placeholderLedger_of_literal hpending (by simp [hpresent])] at hmem
        cases List.mem_singleton.1 hmem
        cases hrejects.present.symm.trans hpresent
    | template hpending hskip hpresent =>
        rw [placeholderLedger_of_template hpending hpresent] at hmem
        rcases List.mem_cons.1 hmem with heq | hnested
        · cases heq
          cases hrejects.present.symm.trans hpresent
        · exact (h _).mem _ name taken other hnested hrejects

end

theorem ledgered_blames (quoter : Quoter) :
    Ledgered quoter fun _ step ledger => Blames quoter step ledger where
  pure _ := .of_no_slot (fun _ _ _ => List.not_mem_nil) (fun _ _ herror => nomatch herror)
  malformed _ := by
    refine .of_no_slot (fun _ _ _ => List.not_mem_nil) ?_
    rintro supply failure ⟨⟩
    rfl
  bind hstep hnext := hstep.bind hnext
  isolateSkip hstep := hstep.isolateSkip
  passGate gated := blames_passGate gated
  placeholder tag h := blames_expandPlaceholder tag h

/-! ## Whole expansions -/

/-- Parameters that are too great for their slots are not skip marks, so they are refused. -/
theorem Oversized.rejects {room : Nat} {tag : Tag} {value : Value} {raised : Raised}
    (h : Oversized room tag value raised) (quoter : Quoter) :
    ∃ refusal, Rejects quoter tag value refusal ∧
      ∀ position, (refusal.toFailure tag position).raised room = raised := by
  obtain ⟨refusal, hpresent, hraised⟩ :
      ∃ refusal, present quoter tag value = .error refusal ∧
        ∀ position, (refusal.toFailure tag position).raised room = raised :=
    present_of_oversized h
  refine ⟨refusal, ⟨?_, hpresent⟩, hraised⟩
  cases h <;> nofun

namespace Expander

variable {expander : Expander} {template : String} {parameters : List Value}

/-- An expansion that fails for a slot fails for the last one. -/
theorem last_of_expand_error {failure : Failure}
    (h : expander.expand template parameters = .error failure)
    (hslot : failure.blamesSlot = true) :
    ∃ front tag value refusal, expander.ledger template parameters = front ++ [.slot tag value] ∧
      Rejects expander.quoter tag value refusal ∧
      failure = refusal.toFailure tag (expander.ledger template parameters).length := by
  obtain ⟨front, tag, value, refusal, hledger, hrejects, hfailure⟩ :=
    ((ledgered_blames expander.quoter).expandWithin parameters.length template.toList).last
      (Supply.ofList parameters) failure ((expand_eq_error_iff (Nat.le_refl _)).1 h) hslot
  refine ⟨front, tag, value, refusal, hledger, hrejects, hfailure.trans ?_⟩
  rw [(expander.length_ledger template parameters).1, expandText_eq_within]

/-- An expansion that takes a parameter for a slot that refuses it fails for that slot. -/
theorem expand_error_of_rejects {tag : Tag} {value : Value} {refusal : Refusal}
    (hmem : .slot tag value ∈ expander.ledger template parameters)
    (hrejects : Rejects expander.quoter tag value refusal) :
    expander.expand template parameters =
      .error (refusal.toFailure tag (expander.ledger template parameters).length) := by
  rw [(expander.length_ledger template parameters).1, expandText_eq_within]
  exact (expand_eq_error_iff (Nat.le_refl _)).2
    (((ledgered_blames expander.quoter).expandWithin parameters.length template.toList).mem
      (Supply.ofList parameters) tag value refusal hmem hrejects)

/-- A failure about a slot is a complaint, or the slot is the last one and its parameter is too
great for it. -/
theorem complains_or_oversized {failure : Failure}
    (h : expander.expand template parameters = .error failure)
    (hslot : failure.blamesSlot = true) (room : Nat) :
    (∃ complaint tag position kind, failure = .unsuitable complaint tag position kind) ∨
      ∃ front tag value, Oversized room tag value (failure.raised room) ∧
        expander.ledger template parameters = front ++ [.slot tag value] := by
  obtain ⟨front, tag, value, refusal, hledger, hrejects, rfl⟩ := last_of_expand_error h hslot
  rcases oversized_of_present hrejects.present with ⟨complaint, kind, rfl⟩ | hoversized
  · exact .inl ⟨complaint, tag, _, kind, rfl⟩
  · exact .inr ⟨front, tag, value, hoversized room _, hledger⟩

/-- A parameter that is too great for its slot is not let through. -/
theorem raised_of_oversized {room : Nat} {tag : Tag} {value : Value} {raised : Raised}
    (hmem : .slot tag value ∈ expander.ledger template parameters)
    (h : Oversized room tag value raised) :
    (expander.expand template parameters).mapError (·.raised room) = .error raised := by
  obtain ⟨refusal, hrejects, hraised⟩ := h.rejects expander.quoter
  rw [expand_error_of_rejects hmem hrejects]
  exact congrArg Except.error (hraised _)

/-- What may come of an expansion with a ledger, where there is room for integers of up to `room`
digits: a statement, or an error of the three kinds that tell of the template and the
parameters, or one that tells of the size of the last parameter. -/
inductive Foreseen (room : Nat) (ledger : List Intake) : Except Raised Expanded → Prop
  | expanded (expanded : Expanded) : Foreseen room ledger (.ok expanded)
  | malformed (fault : Fault) :
      Foreseen room ledger (.error (.report (.malformed fault.message fault.offset)))
  | unsuitable (complaint : Complaint) (tag : Tag) (position : Nat) (kind : Kind) :
      Foreseen room ledger
        (.error (.report (.unsuitable complaint.message tag.name position kind)))
  | underflow (position supplied : Nat) :
      Foreseen room ledger (.error (.report (.underflow position supplied)))
  | oversized {front : List Intake} {tag : Tag} {value : Value} {raised : Raised}
      (hoversized : Oversized room tag value raised) (hledger : ledger = front ++ [.slot tag value]) :
      Foreseen room ledger (.error raised)

theorem expand_foreseen (room : Nat) (expander : Expander) (template : String)
    (parameters : List Value) :
    Foreseen room (expander.ledger template parameters)
      ((expander.expand template parameters).mapError (·.raised room)) := by
  cases hrun : expander.expand template parameters with
  | ok expanded => exact .expanded expanded
  | error failure =>
      cases hslot : failure.blamesSlot with
      | false =>
          cases failure with
          | malformed fault => exact .malformed fault
          | underflow position supplied => exact .underflow position supplied
          | _ => cases hslot
      | true =>
          rcases complains_or_oversized hrun hslot room with
            ⟨complaint, tag, position, kind, rfl⟩ | ⟨front, tag, value, hoversized, hledger⟩
          · exact .unsuitable complaint tag position kind
          · exact .oversized hoversized hledger

/-- **What can come of an expansion.**  It gives a statement, or the template is malformed, or a
parameter is missing, or one does not fit its slot.  Apart from these it fails only for a
parameter that is too great for its slot, which is the last one that was taken, and then it
does: no such parameter is ever let through.  It runs out of memory just for a decimal in an
integer slot whose integer part has no room. -/
theorem expand_outcomes (room : Nat) (expander : Expander) (template : String)
    (parameters : List Value) :
    let outcome := (expander.expand template parameters).mapError (·.raised room)
    let ledger := expander.ledger template parameters
    Foreseen room ledger outcome ∧
      (∀ tag value raised, .slot tag value ∈ ledger → Oversized room tag value raised →
        outcome = .error raised) ∧
      (outcome = .error .outOfMemory ↔ ∃ tag negative coefficient exponent,
        .slot tag (.scalar (.decimal (.finite negative coefficient exponent))) ∈ ledger ∧
          (tag = .integer ∨ tag = .integerOrNull) ∧
          10 ^ digitLimit ≤ Decimal.integerPart coefficient exponent ∧
          10 ^ room ≤ Decimal.integerPart coefficient exponent) := by
  intro outcome ledger
  have hforeseen : Foreseen room ledger outcome :=
    expand_foreseen room expander template parameters
  have hraises : ∀ tag value raised, .slot tag value ∈ ledger → Oversized room tag value raised →
      outcome = .error raised := fun _ _ _ hmem => raised_of_oversized hmem
  refine ⟨hforeseen, hraises, ?_, ?_⟩
  · intro hmemory
    rw [hmemory] at hforeseen
    cases hforeseen with
    | @oversized front tag value raised hoversized hledger =>
        cases hoversized with
        | @decimal _ negative coefficient exponent htag hgreat hroom =>
            refine ⟨tag, negative, coefficient, exponent, ?_, htag, hgreat, hroom⟩
            rw [hledger]
            exact List.mem_append_right front (List.mem_singleton_self _)
  · rintro ⟨tag, negative, coefficient, exponent, hmem, htag, hgreat, hroom⟩
    exact hraises _ _ _ hmem (.decimal htag hgreat hroom)

/-- A nested template in a block takes the least integer that no double is near, and nothing
behind it is taken. -/
theorem expand_outcomes_beyondDouble :
    let parameters : List Value := [.null, .text "x ?f", .int overflowThreshold, .skip]
    ((Expander.ofProfile {}).expand "a {b ?|?s ?}" parameters).mapError (·.raised (10 ^ 9)) =
        .error .beyondDouble ∧
      ∃ front tag value, Oversized (10 ^ 9) tag value .beyondDouble ∧
        (Expander.ofProfile {}).ledger "a {b ?|?s ?}" parameters =
          front ++ [.slot tag value] := by
  intro parameters
  have hrun : (Expander.ofProfile {}).expand "a {b ?|?s ?}" parameters = .error .beyondDouble := by
    decide +kernel
  have hraised : ((Expander.ofProfile {}).expand "a {b ?|?s ?}" parameters).mapError
      (·.raised (10 ^ 9)) = .error .beyondDouble := congrArg (Except.mapError _) hrun
  have hforeseen := (expand_outcomes (10 ^ 9) (Expander.ofProfile {}) "a {b ?|?s ?}" parameters).1
  rw [hraised] at hforeseen
  refine ⟨hraised, ?_⟩
  cases hforeseen with
  | @oversized front tag value _ hoversized hledger => exact ⟨front, tag, value, hoversized, hledger⟩

/-- The integer part of the greatest power of ten among decimals has more digits than there is
room for, and what is raised is neither about its digits nor about its kind. -/
theorem expand_outOfMemory :
    ((Expander.ofProfile {}).expand "?d"
        [.scalar (.decimal (.finite false 1 999999999999999999))]).mapError (·.raised (10 ^ 15)) =
      .error .outOfMemory := by
  have hrun : (Expander.ofProfile {}).expand "?d"
      [.scalar (.decimal (.finite false 1 999999999999999999))] =
        .error (.hugeDecimal (10 ^ 18)) := by decide +kernel
  rw [hrun]
  rfl

/-! ## Positions -/

/-- A complaint is about the parameter that was taken last, which is not the skip mark. -/
theorem last_of_unsuitable {complaint : Complaint} {tag : Tag} {position : Nat} {kind : Kind}
    (h : expander.expand template parameters = .error (.unsuitable complaint tag position kind)) :
    position = (expander.ledger template parameters).length ∧ 1 ≤ position ∧
      ∃ value, parameters[position - 1]? = some value ∧
        Rejects expander.quoter tag value (.unsuitable complaint kind) := by
  obtain ⟨front, name, value, refusal, hledger, hrejects, hfailure⟩ := last_of_expand_error h rfl
  obtain ⟨rfl, rfl, rfl⟩ := Refusal.eq_of_toFailure_eq hfailure.symm
  have hlength : (expander.ledger template parameters).length = front.length + 1 := by
    rw [hledger, List.length_append, List.length_singleton]
  refine ⟨rfl, by omega, value, ?_, hrejects⟩
  -- the ledger lists the parameters up to this one
  have hvalues := expander.values_ledger template parameters
  rw [← (expander.length_ledger template parameters).1, hlength, hledger, List.map_append] at hvalues
  have hlast : (parameters.take (front.length + 1))[front.length]? = some value := by
    rw [← hvalues, List.getElem?_append_right (Nat.le_of_eq (List.length_map ..)), List.length_map,
      Nat.sub_self]
    rfl
  rw [List.getElem?_take_of_lt (Nat.lt_succ_self _)] at hlast
  rw [hlength]
  exact hlast

/-- With the skip mark in the place of a parameter that did not fit, a complaint is about one
behind it. -/
theorem lt_position_of_set_skip {complaint other : Complaint} {tag name : Tag}
    {position place : Nat} {kind sort : Kind}
    (h : expander.expand template parameters = .error (.unsuitable complaint tag position kind))
    (hskip : expander.expand template (parameters.set (position - 1) .skip) =
      .error (.unsuitable other name place sort)) : position < place := by
  obtain ⟨-, hpositive, value, hvalue, -⟩ := last_of_unsuitable h
  obtain ⟨-, hplace, taken, htaken, hrejects⟩ := last_of_unsuitable hskip
  obtain ⟨hbound, -⟩ := List.getElem?_eq_some_iff.1 hvalue
  rcases Nat.lt_trichotomy place position with hlt | rfl | hgt
  · -- the parameters in front are as they were, and with them so is the complaint
    have hfront : (parameters.set (position - 1) .skip).take place = parameters.take place :=
      List.take_set_of_le (by omega)
    have hagain := expand_take_append_of_refused hskip (parameters.drop place)
    rw [hfront, List.take_append_drop, h] at hagain
    cases hagain
    exact absurd hlt (Nat.lt_irrefl _)
  · rw [List.getElem?_set_self hbound] at htaken
    exact absurd (Option.some.inj htaken).symm hrejects.ne_skip
  · exact hgt

/-- **The position of a failure is that of the offending parameter.**  A complaint states the
position of the parameter that was taken last, and it is that parameter which its slot does
not take; with the skip mark in its place, a complaint is about a parameter behind it.  A
missing parameter is the one behind all of those that were supplied. -/
theorem expand_error_position (expander : Expander) (template : String)
    (parameters : List Value) :
    (∀ complaint tag position kind,
      expander.expand template parameters = .error (.unsuitable complaint tag position kind) →
      1 ≤ position ∧ position ≤ parameters.length ∧
        (expandText expander.quoter template.toList (Supply.ofList parameters)).2.taken =
          position ∧
        (∃ value, parameters[position - 1]? = some value ∧
          Rejects expander.quoter tag value (.unsuitable complaint kind)) ∧
        ∀ other name place sort,
          expander.expand template (parameters.set (position - 1) .skip) =
            .error (.unsuitable other name place sort) → position < place) ∧
    ∀ position supplied,
      expander.expand template parameters = .error (.underflow position supplied) →
      supplied = parameters.length ∧ position = parameters.length + 1 := by
  obtain ⟨htaken, hle⟩ := expander.length_ledger template parameters
  refine ⟨?_, ?_⟩
  · intro complaint tag position kind h
    obtain ⟨rfl, hpositive, hvalue⟩ := last_of_unsuitable h
    exact ⟨hpositive, hle, htaken.symm, hvalue, fun _ _ _ _ => lt_position_of_set_skip h⟩
  · intro position supplied h
    have hcursor : AtCursor parameters (Supply.ofList parameters) := ⟨Nat.zero_le _, rfl⟩
    have hkeeps : Keeps (Supply.ofList parameters)
        (expandWithin expander.quoter parameters.length template.toList
          (Supply.ofList parameters)) := compositional_keeps.expandWithin _ _ _
    obtain ⟨hnil, hposition, hsupplied⟩ :=
      hkeeps.underflow position supplied ((expand_eq_error_iff (Nat.le_refl _)).1 h)
    have hdetermined : Determined _
        (expandWithin expander.quoter parameters.length template.toList) :=
      compositional_determined.expandWithin _ _
    have hend := (hcursor.after hdetermined).taken_eq_length hnil
    exact ⟨hsupplied.trans hend, hposition.trans (congrArg (· + 1) hend)⟩

/-- A nested template in an alternative meets a text where an integer is due.  With the skip mark
there the next text is met behind the block, and with one parameter less it is missing. -/
theorem expand_error_position_nested :
    let expander := Expander.ofProfile {}
    let template := "a ?{b ?|?s} ?d"
    let parameters : List Value :=
      [.null, .int 1, .text "x {?f ?d}", .skip, .text "u", .text "v"]
    expander.expand template parameters = .error (.unsuitable .notInteger .integer 5 .text) ∧
      (expandText expander.quoter template.toList (Supply.ofList parameters)).2.taken = 5 ∧
      expander.expand template (parameters.set 4 .skip) =
        .error (.unsuitable .notInteger .integer 6 .text) ∧
      5 < 6 ∧
      expander.expand template ((parameters.set 4 .skip).take 5) = .error (.underflow 6 5) ∧
      5 = ((parameters.set 4 .skip).take 5).length := by
  intro expander template parameters
  have hfailure : expander.expand template parameters =
      .error (.unsuitable .notInteger .integer 5 .text) := by decide +kernel
  have hnext : expander.expand template (parameters.set 4 .skip) =
      .error (.unsuitable .notInteger .integer 6 .text) := by decide +kernel
  have hmissing : expander.expand template ((parameters.set 4 .skip).take 5) =
      .error (.underflow 6 5) := by decide +kernel
  obtain ⟨-, -, htaken, -, hbehind⟩ :=
    (expand_error_position expander template parameters).1 _ _ _ _ hfailure
  exact ⟨hfailure, htaken, hnext, hbehind _ _ _ _ hnext, hmissing,
    ((expand_error_position expander template ((parameters.set 4 .skip).take 5)).2 _ _ hmissing).1⟩

end Expander

end SqlTemplate
