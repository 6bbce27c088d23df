import SqlTemplate.Proofs.Session.Cursors
import SqlTemplate.Proofs.Session.Transactions

/-!
# Expanded first, executed then

A step that executes a statement expands its template before it does anything else
(`Step.expandedFirst`).  If the expansion fails, however late, the step fails with the
failure of the expansion and leaves the channel exactly as it found it: no call, no reply
used up, no record.  If the expansion succeeds, its text is what is executed, once, through
a cursor of its own.

Inside a transaction the same is seen from outside.  The steps before have their own
events, and the failed one stands between the beginning and the rollback without any.

## Strategy

All of these steps have one form (`Session.Executes`).  They expand a template, execute
it, and calculate with what was read, and a calculation neither adds to the channel nor
repairs a failure.
-/

namespace SqlTemplate

open Exchange

/-! ## Calculations behind a statement -/

namespace Session.Executes

variable {session : Session} {template : String} {parameters : List Value} {α β : Type}
  {step : Exchange α}

theorem map (h : session.Executes template parameters step) (f : α → β) :
    session.Executes template parameters (f <$> step) := by
  rw [map_eq_pure_bind]
  exact h.bind fun value => .pure (f value)

/-- A statement that cannot be expanded is not even begun. -/
theorem of_expand_error (h : session.Executes template parameters step) {failure : Failure}
    (hexpand : session.expander.expand template parameters = .error failure)
    (channel : Channel) : step channel = (.error (.expansion failure), channel) := by
  cases h with
  | @intro γ read next hread hnext =>
      exact bind_of_error (withResult_of_expand_error read hexpand channel)

/-- What is calculated in the end is not seen on the channel. -/
theorem exists_withResult (h : session.Executes template parameters step) :
    ∃ (γ : Type) (read : Result → Exchange γ), (∀ result, session.Reads (read result)) ∧
      ∀ channel, (step channel).2 = (session.withResult template parameters read channel).2 := by
  cases h with
  | @intro γ read next hread hnext =>
      refine ⟨γ, read, hread, fun channel => ?_⟩
      rcases hrun : session.withResult template parameters read channel
        with ⟨failure | value, after⟩
      · rw [bind_of_error hrun]
      · obtain ⟨outcome, hcalculated⟩ := hnext value
        rw [bind_of_ok hrun, hcalculated]

theorem exists_log (h : session.Executes template parameters step) (channel : Channel) :
    ∃ added, (step channel).2.events = channel.events ++ added ∧
      StatementLog session template parameters added := by
  obtain ⟨γ, read, hread, hsame⟩ := h.exists_withResult
  rw [hsame]
  exact events_withResult template parameters hread channel

end Session.Executes

namespace Step

/-! ## Steps that execute a statement -/

/-- The template and the parameters of a step that executes a statement.  The transformer of a
selection is made before the statement, and without it there is no statement. -/
def statement? : Step → Option (String × List Value)
  | .query template parameters | .selectRow template parameters
  | .selectColumn template parameters | .selectPairs template parameters
  | .selectCell template parameters => some (template, parameters)
  | .select template parameters shape =>
      match shape.transformer with
      | .ok _ => some (template, parameters)
      | .error _ => none
  | .expand .. | .begin | .commit | .rollback | .abandon _ | .transaction _ => none

theorem executes_of_statement {session : Session} {step : Step} {template : String}
    {parameters : List Value} (h : step.statement? = some (template, parameters)) :
    session.Executes template parameters (step.run session) := by
  cases step with
  | query => cases h; exact Session.executes_query template parameters
  | select text values shape =>
      rw [run]
      cases hshape : shape.transformer with
      | error failure => simp only [statement?, hshape, reduceCtorEq] at h
      | ok transformer =>
          simp only [statement?, hshape, Option.some.injEq, Prod.mk.injEq] at h
          obtain ⟨rfl, rfl⟩ := h
          exact Session.executes_select text values transformer
  | selectRow => cases h; exact Session.executes_selectRow template parameters
  | selectColumn => cases h; exact (Session.executes_selectCells template parameters).map _
  | selectPairs => cases h; exact Session.executes_selectPairs template parameters
  | selectCell => cases h; exact Session.executes_selectCell template parameters
  | expand | begin | commit | rollback | abandon | transaction => cases h

/-- Steps run up to the first one that fails, and the channel is the one that it leaves. -/
theorem runAll_of_error {session : Session} {front : List Step} {step : Step}
    {values : List Value} {failure : SessionFailure} {channel mid left : Channel}
    (hfront : runAll session front channel = (.ok values, mid))
    (hstep : step.run session mid = (.error failure, left)) (rest : List Step) :
    runAll session (front ++ step :: rest) channel = (.error failure, left) := by
  induction front generalizing channel values with
  | nil =>
      cases hfront
      exact bind_of_error hstep
  | cons first others ih =>
      rw [runAll] at hfront
      rw [List.cons_append, runAll]
      rcases hfirst : first.run session channel with ⟨other | value, after⟩
      · rw [bind_of_error hfirst] at hfront
        cases hfront
      · rw [bind_of_ok hfirst] at hfront ⊢
        rcases hothers : runAll session others after with ⟨other | behind, final⟩
        · rw [bind_of_error hothers] at hfront
          cases hfront
        · rw [bind_of_ok hothers] at hfront
          cases hfront
          exact bind_of_error (ih hothers)

/-! ## Nothing reaches the connection without an expansion -/

/-- How a step depends on the expansion of its statement. -/
structure ExpandedFirst (session : Session) (template : String) (parameters : List Value)
    (step : Step) : Prop where
  /-- If the expansion fails, so does the step, and nothing else happens. -/
  refused : ∀ failure, session.expander.expand template parameters = .error failure →
    ∀ channel, step.run session channel = (.error (.expansion failure), channel)
  /-- In a transaction a failed expansion is followed by the rollback, right behind what the
  beginning and the steps before have left. -/
  rolledBack : ∀ failure, session.expander.expand template parameters = .error failure →
    ∀ front rest channel opened values mid,
      session.begin channel = (.ok (), opened) → runAll session front opened = (.ok values, mid) →
      opened.events = channel.events ++ session.opening ∧
        (Step.transaction (front ++ step :: rest)).run session channel =
          (.error (if .rollback ∈ session.connection.failing then .driver "rollback failed"
            else .expansion failure),
            { mid with events := mid.events ++ [{ operation := .rollback }] })
  /-- If the expansion succeeds, one cursor is asked for, and if it is handed out, the expansion
  is what is executed through it, once. -/
  executed : ∀ expanded, session.expander.expand template parameters = .ok expanded →
    ∀ channel, ∃ added, (step.run session channel).2.events = channel.events ++ added ∧
      ((.cursor ∈ session.connection.failing ∧ added = [{ operation := .cursor }]) ∨
        .cursor ∉ session.connection.failing ∧
          ∃ fetch, Fetch fetch ∧ added = cursorRound expanded.sql fetch)

/-- **Nothing reaches the connection before the expansion has succeeded, and then exactly the
expansion does**, whichever of the steps executes the statement and whatever the connection
does. -/
theorem expandedFirst {session : Session} {step : Step} {template : String}
    {parameters : List Value} (h : step.statement? = some (template, parameters)) :
    ExpandedFirst session template parameters step := by
  have hexecutes : session.Executes template parameters (step.run session) :=
    executes_of_statement h
  refine ⟨fun failure hexpand => hexecutes.of_expand_error hexpand, ?rolledBack, ?executed⟩
  case rolledBack =>
    intro failure hexpand front rest channel opened values mid hbegin hfront
    have hopened := session.events_begin channel
    rw [hbegin] at hopened
    have hbody := runAll_of_error hfront (hexecutes.of_expand_error hexpand mid) rest
    refine ⟨hopened, ?_⟩
    rw [run, map_apply, Session.transaction_of_error hbegin hbody]
    rfl
  case executed =>
    intro expanded hexpand channel
    obtain ⟨added, hevents, hlog⟩ := hexecutes.exists_log channel
    refine ⟨added, hevents, ?_⟩
    cases hlog with
    | unexpanded hother => cases hexpand.symm.trans hother
    | refused hother hcursor => exact Or.inl ⟨hcursor, rfl⟩
    | @served other fetch hother hcursor hfetch =>
        obtain rfl := Except.ok.inj (hexpand.symm.trans hother)
        exact Or.inr ⟨hcursor, fetch, hfetch, rfl⟩

/-- The second alternative of a block has no statement to offer, which is found out behind the
first one, and the statement in front of it has been executed already. -/
theorem expandedFirst_late_failure :
    let session : Session := ⟨⟨false, [.rollback]⟩, .ofProfile {}⟩
    let failing : Step := .selectPairs "b {c ?|?d}" [.null, .text "u"]
    failing.statement? = some ("b {c ?|?d}", [.null, .text "u"]) ∧
      (∃ failure,
        session.expander.expand "b {c ?|?d}" [.null, .text "u"] = .error failure) ∧
      ExpandedFirst session "b {c ?|?d}" [.null, .text "u"] failing ∧
      ((Step.transaction [.selectCell "a ?d" [.int 1], failing, .commit]).perform session
        []).1.events = cursorRound "BEGIN" [] ++ cursorRound "a 1" [⟨.fetchAll, none⟩] ++
          [⟨.rollback, none⟩] := by
  intro session failing
  refine ⟨rfl, ?_, expandedFirst rfl, by decide +kernel⟩
  exact ⟨.unsuitable .notInteger .integer 2 .text, by decide +kernel⟩

end Step

end SqlTemplate
