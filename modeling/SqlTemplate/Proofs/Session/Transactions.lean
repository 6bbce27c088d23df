import SqlTemplate.Proofs.Session.Cursors
import SqlTemplate.Proofs.Session.Records

/-!
# Transactions

A transaction is its beginning, its steps up to the first one that fails, and one mark at
the end: a commit if all steps succeeded, and a rollback if one of them failed.  If it does
not begin, there is nothing else (`Step.transaction_bracketed`).

The steps of a transaction are what they are elsewhere.  They are performed here each on
its own, one after the other, with the replies that the steps before have left
(`Step.performUntilFailure`); a step may be a transaction itself, and then the same holds
of it.

## Strategy

The transaction runs its steps on the channel that its beginning has left, with all that
stands on record there, and the performances start with an empty record.  That makes no
difference to a step (`Session.closed_oblivious`), so the two runs are compared along the
steps (`Step.performUntilFailure_spec`).
-/

namespace SqlTemplate

open Exchange

namespace Session

/-! ## The end of a transaction -/

section

variable {session : Session} {α : Type} {body : Exchange α} {channel opened left : Channel}

theorem transaction_of_begin_error {failure : SessionFailure}
    (h : session.begin channel = (.error failure, opened)) :
    session.transaction body channel = (.error failure, opened) := by
  rw [transaction, bind_of_error h]

/-- A body that succeeds is followed by a commit, which may fail. -/
theorem transaction_of_ok {value : α} (h : session.begin channel = (.ok (), opened))
    (hbody : body opened = (.ok value, left)) :
    session.transaction body channel =
      (if .commit ∈ session.connection.failing then .error (.driver "commit failed")
        else .ok value,
        { left with events := left.events ++ [{ operation := .commit }] }) := by
  rw [transaction, bind_of_ok h, bind_of_ok (onFailure_of_ok hbody _), commit]
  by_cases hcommit : .commit ∈ session.connection.failing
  · rw [bind_of_error (call_of_failing hcommit _), if_pos hcommit]
    rfl
  · rw [bind_of_ok (call_of_not_failing hcommit _), if_neg hcommit]
    rfl

/-- A body that fails is followed by a rollback, and by no commit. -/
theorem transaction_of_error {failure : SessionFailure}
    (h : session.begin channel = (.ok (), opened)) (hbody : body opened = (.error failure, left)) :
    session.transaction body channel =
      (.error (if .rollback ∈ session.connection.failing then .driver "rollback failed"
        else failure),
        { left with events := left.events ++ [{ operation := .rollback }] }) := by
  rw [transaction, rollback, bind_of_ok h]
  by_cases hrollback : .rollback ∈ session.connection.failing
  · rw [bind_of_error (onFailure_of_unrepaired hbody (call_of_failing hrollback _)),
      if_pos hrollback]
    rfl
  · rw [bind_of_error (onFailure_of_repaired hbody (call_of_not_failing hrollback _)),
      if_neg hrollback]

end

end Session

/-! ## The steps of a transaction -/

namespace Step

/-- Performs steps one after the other, up to the first one that fails, and tells which replies
are left. -/
def performUntilFailure (session : Session) :
    List Step → List Reply → List Performance × List Reply
  | [], replies => ([], replies)
  | step :: rest, replies =>
      let (performance, left) := step.perform session replies
      match performance.outcome with
      | .ok _ =>
          let (others, last) := performUntilFailure session rest left
          (performance :: others, last)
      | .error _ => ([performance], left)

/-- What the performances of steps come to, if the steps are performed up to the first one that
fails. -/
inductive BodyOutcome (steps : List Step) (body : List Performance) :
    Except SessionFailure (List Value) → Prop
  /-- All of the steps are performed, and all of them succeed. -/
  | completed {values : List Value} (hlength : body.length = steps.length)
      (hvalues : body.map (·.outcome) = values.map .ok) : BodyOutcome steps body (.ok values)
  /-- The step that is performed last fails, and no other one does. -/
  | brokenOff {front : List Performance} {last : Performance} {failure : SessionFailure}
      (hbody : body = front ++ [last])
      (hfront : ∀ performance ∈ front, ∃ value, performance.outcome = .ok value)
      (hlast : last.outcome = .error failure) : BodyOutcome steps body (.error failure)

namespace BodyOutcome

variable {steps : List Step} {body : List Performance}

theorem exists_ok {values : List Value} (h : body.map (·.outcome) = values.map .ok)
    {performance : Performance} (hmem : performance ∈ body) :
    ∃ value, performance.outcome = .ok value := by
  have houtcome : performance.outcome ∈ values.map Except.ok :=
    h ▸ List.mem_map_of_mem hmem
  obtain ⟨value, -, hvalue⟩ := List.mem_map.1 houtcome
  exact ⟨value, hvalue.symm⟩

/-- The performances leave no choice. -/
theorem unique {first second : Except SessionFailure (List Value)}
    (hfirst : BodyOutcome steps body first) (hsecond : BodyOutcome steps body second) :
    first = second := by
  have hmixed : ∀ {values : List Value} {front : List Performance} {last : Performance}
      {failure : SessionFailure}, body.map (·.outcome) = values.map .ok →
      body = front ++ [last] → last.outcome ≠ .error failure := by
    intro values front last failure hvalues hbody hlast
    obtain ⟨value, hvalue⟩ := exists_ok hvalues (hbody ▸ List.mem_append_right front
      (List.mem_singleton_self last))
    cases hvalue.symm.trans hlast
  cases hfirst with
  | completed hlength hvalues =>
      cases hsecond with
      | completed hother hothers =>
          have hsame := (List.map_inj_right fun _ _ => Except.ok.inj).1
            (hvalues.symm.trans hothers)
          rw [hsame]
      | brokenOff hbody hfront hlast => exact absurd hlast (hmixed hvalues hbody)
  | brokenOff hbody hfront hlast =>
      cases hsecond with
      | completed hlength hvalues => exact absurd hlast (hmixed hvalues hbody)
      | brokenOff hother hothers hend =>
          obtain ⟨-, hsame⟩ := List.append_inj' (hbody.symm.trans hother) rfl
          obtain rfl := List.singleton_inj.1 hsame
          exact congrArg Except.error (Except.error.inj (hlast.symm.trans hend))

/-- A step that fails is the last one. -/
theorem singleton {performance : Performance} {failure : SessionFailure}
    (h : performance.outcome = .error failure) :
    BodyOutcome steps [performance] (.error failure) :=
  .brokenOff (List.nil_append _).symm (List.forall_mem_nil _) h

/-- A step that succeeds in front of the others. -/
theorem cons {outcome : Except SessionFailure (List Value)} {performance : Performance}
    {value : Value} (h : BodyOutcome steps body outcome) (hvalue : performance.outcome = .ok value)
    (step : Step) :
    BodyOutcome (step :: steps) (performance :: body) (outcome.map (value :: ·)) := by
  cases h with
  | completed hlength hvalues =>
      refine .completed (congrArg (· + 1) hlength) ?_
      rw [List.map_cons, List.map_cons, hvalue, hvalues]
  | @brokenOff front last failure hbody hfront hlast =>
      have hcons : performance :: body = (performance :: front) ++ [last] := by
        rw [hbody, List.cons_append]
      refine .brokenOff hcons ?_ hlast
      intro other hmem
      rcases List.mem_cons.1 hmem with rfl | hmem
      · exact ⟨value, hvalue⟩
      · exact hfront other hmem

end BodyOutcome

section

variable {session : Session} {step : Step} {rest : List Step} {replies left : List Reply}
  {performance : Performance}

theorem perform_of_run {outcome : Except SessionFailure Value} {after : Channel}
    (h : step.run session (.fresh replies) = (outcome, after)) :
    step.perform session replies = (⟨outcome, after.events, after.records⟩, after.replies) := by
  have hrun : step.run session ⟨replies, [], []⟩ = (outcome, after) := h
  simp only [perform, hrun]

theorem perform_transaction {steps : List Step} {outcome : Except SessionFailure (List Value)}
    {after : Channel}
    (h : session.transaction (runAll session steps) (.fresh replies) = (outcome, after)) :
    (Step.transaction steps).perform session replies =
      (⟨outcome.map .list, after.events, after.records⟩, after.replies) := by
  refine perform_of_run ?_
  rw [run, map_apply, h]

/-- The log of a beginning, whether it succeeds or fails. -/
theorem events_perform_begin (session : Session) (replies : List Reply) :
    (Step.begin.perform session replies).1.events = session.opening := by
  have hevents := session.events_begin (.fresh replies)
  rcases hbegin : session.begin (.fresh replies) with ⟨failure | ⟨⟩, opened⟩
  · rw [hbegin] at hevents
    rw [perform_of_run (bind_of_error hbegin)]
    exact hevents
  · rw [hbegin] at hevents
    rw [perform_of_run (bind_of_ok hbegin)]
    exact hevents

theorem performUntilFailure_of_ok {value : Value}
    (h : step.perform session replies = (performance, left))
    (hok : performance.outcome = .ok value) :
    performUntilFailure session (step :: rest) replies =
      (performance :: (performUntilFailure session rest left).1,
        (performUntilFailure session rest left).2) := by
  simp only [performUntilFailure, h, hok]

theorem performUntilFailure_of_error {failure : SessionFailure}
    (h : step.perform session replies = (performance, left))
    (herror : performance.outcome = .error failure) :
    performUntilFailure session (step :: rest) replies = ([performance], left) := by
  simp only [performUntilFailure, h, herror]

end

/-- Steps inside a transaction are what they are when each of them is performed on its own. -/
theorem performUntilFailure_spec {session : Session} {steps : List Step} {replies : List Reply}
    {outcome : Except SessionFailure (List Value)} {after : Channel}
    (h : runAll session steps (.fresh replies) = (outcome, after)) :
    let body := performUntilFailure session steps replies
    BodyOutcome steps body.1 outcome ∧
      after = ⟨body.2, body.1.flatMap (·.events), body.1.flatMap (·.records)⟩ := by
  induction steps generalizing replies outcome after with
  | nil =>
      cases h
      exact ⟨.completed rfl rfl, rfl⟩
  | cons step rest ih =>
      intro body
      have hbody : body = performUntilFailure session (step :: rest) replies := rfl
      clear_value body
      rw [runAll] at h
      rcases hstep : step.run session (.fresh replies) with ⟨failure | value, mid⟩
      · rw [bind_of_error hstep] at h
        cases h
        rw [performUntilFailure_of_error (perform_of_run hstep) rfl] at hbody
        subst hbody
        refine ⟨.singleton rfl, ?_⟩
        simp only [List.flatMap_cons, List.flatMap_nil, List.append_nil]
      · rw [bind_of_ok hstep] at h
        rw [performUntilFailure_of_ok (perform_of_run hstep) rfl] at hbody
        subst hbody
        rcases hrest : runAll session rest (.fresh mid.replies) with ⟨other, final⟩
        obtain ⟨houtcome, hfinal⟩ := ih hrest
        -- the rest is run behind the record of the first step
        have hbehind : runAll session rest mid = (other, mid.extend final) :=
          (session.closed_oblivious.runAll rest).run hrest rfl
        have hboth : (outcome, after) = (other.map (value :: ·), mid.extend final) := by
          rw [← h]
          cases other with
          | error failure => exact bind_of_error hbehind
          | ok others => exact bind_of_ok hbehind
        cases hboth
        exact ⟨houtcome.cons rfl step, by rw [hfinal]; rfl⟩

/-! ## Whole transactions -/

/-- How a transaction is made up of its beginning, its steps and the mark at its end.  Each of
the three comes with the replies that it leaves, and so does the whole. -/
structure Bracketed (connection : Connection) (steps : List Step)
    (opening : Performance × List Reply) (body : List Performance × List Reply)
    (whole : Performance × List Reply) : Prop where
  /-- A transaction that does not begin is its beginning and nothing else. -/
  unopened : ∀ failure, opening.1.outcome = .error failure → whole = opening
  /-- Either all steps succeed, or one of them fails and is the last one. -/
  decided : ∃ outcome, BodyOutcome steps body.1 outcome
  /-- If all steps succeed, one commit comes last; if it fails, so does the transaction. -/
  committed : ∀ start values, opening.1.outcome = .ok start →
    BodyOutcome steps body.1 (.ok values) →
    whole.1.events =
        opening.1.events ++ body.1.flatMap (·.events) ++ [{ operation := .commit }] ∧
      whole.1.outcome = if .commit ∈ connection.failing then .error (.driver "commit failed")
        else .ok (.list values)
  /-- If a step fails, one rollback comes last; the failure is the step's, unless the rollback
  fails as well. -/
  rolledBack : ∀ start failure, opening.1.outcome = .ok start →
    BodyOutcome steps body.1 (.error failure) →
    whole.1.events =
        opening.1.events ++ body.1.flatMap (·.events) ++ [{ operation := .rollback }] ∧
      whole.1.outcome = .error
        (if .rollback ∈ connection.failing then .driver "rollback failed" else failure)
  /-- A transaction succeeds with the values of its steps, if it begins, all steps succeed and
  the commit does. -/
  succeeds : ∀ value, whole.1.outcome = .ok value ↔
    (∃ start, opening.1.outcome = .ok start) ∧
      (∃ values, BodyOutcome steps body.1 (.ok values) ∧ value = .list values) ∧
      .commit ∉ connection.failing
  /-- The replies are used up by the beginning and by the steps. -/
  left : ∀ start, opening.1.outcome = .ok start → whole.2 = body.2

namespace Bracketed

variable {connection : Connection} {steps : List Step} {opening whole : Performance × List Reply}
  {body : List Performance × List Reply}

theorem of_unopened {failure : SessionFailure} (hopening : opening.1.outcome = .error failure)
    {outcome : Except SessionFailure (List Value)} (hbody : BodyOutcome steps body.1 outcome)
    (hwhole : whole = opening) : Bracketed connection steps opening body whole where
  unopened _ _ := hwhole
  decided := ⟨outcome, hbody⟩
  committed _ _ hstart := nomatch hopening.symm.trans hstart
  rolledBack _ _ hstart := nomatch hopening.symm.trans hstart
  succeeds value := by
    refine ⟨?_, ?_⟩
    · intro hvalue
      rw [hwhole, hopening] at hvalue
      cases hvalue
    · rintro ⟨⟨start, hstart⟩, -⟩
      cases hopening.symm.trans hstart
  left _ hstart := nomatch hopening.symm.trans hstart

section

variable {start : Value} (hopening : opening.1.outcome = .ok start) (hleft : whole.2 = body.2)

include hopening hleft

theorem of_completed {values : List Value} (hbody : BodyOutcome steps body.1 (.ok values))
    (hevents : whole.1.events =
      opening.1.events ++ body.1.flatMap (·.events) ++ [{ operation := .commit }])
    (houtcome : whole.1.outcome =
      if .commit ∈ connection.failing then .error (.driver "commit failed")
      else .ok (.list values)) : Bracketed connection steps opening body whole where
  unopened _ hfailure := nomatch hopening.symm.trans hfailure
  decided := ⟨_, hbody⟩
  committed _ others _ hother := by
    obtain rfl := Except.ok.inj (hbody.unique hother)
    exact ⟨hevents, houtcome⟩
  rolledBack _ _ _ hother := nomatch hbody.unique hother
  succeeds value := by
    refine ⟨?_, ?_⟩
    · intro hvalue
      rw [hvalue] at houtcome
      split at houtcome
      · cases houtcome
      · next hcommit => exact ⟨⟨start, hopening⟩, ⟨values, hbody, Except.ok.inj houtcome⟩, hcommit⟩
    · rintro ⟨-, ⟨others, hother, rfl⟩, hcommit⟩
      obtain rfl := Except.ok.inj (hbody.unique hother)
      rw [houtcome, if_neg hcommit]
  left _ _ := hleft

theorem of_brokenOff {failure : SessionFailure} (hbody : BodyOutcome steps body.1 (.error failure))
    (hevents : whole.1.events =
      opening.1.events ++ body.1.flatMap (·.events) ++ [{ operation := .rollback }])
    (houtcome : whole.1.outcome = .error
      (if .rollback ∈ connection.failing then .driver "rollback failed" else failure)) :
    Bracketed connection steps opening body whole where
  unopened _ hfailure := nomatch hopening.symm.trans hfailure
  decided := ⟨_, hbody⟩
  committed _ _ _ hother := nomatch hbody.unique hother
  rolledBack _ other _ hother := by
    obtain rfl := Except.error.inj (hbody.unique hother)
    exact ⟨hevents, houtcome⟩
  succeeds value := by
    refine ⟨?_, ?_⟩
    · intro hvalue
      rw [houtcome] at hvalue
      cases hvalue
    · rintro ⟨-, ⟨others, hother, -⟩, -⟩
      cases hbody.unique hother
  left _ _ := hleft

end

end Bracketed

/-- **Transactions are bracketed.**  Whatever fails in a transaction, its log is the one of its
beginning, then that of its steps, each of them as if it were performed on its own, up to the
first one that fails, and then one commit or one rollback.  The log of the beginning is the same
for all transactions on a connection. -/
theorem transaction_bracketed (session : Session) (steps : List Step) (replies : List Reply) :
    let opening := Step.begin.perform session replies
    opening.1.events = session.opening ∧
      Bracketed session.connection steps opening (performUntilFailure session steps opening.2)
        ((Step.transaction steps).perform session replies) := by
  refine ⟨events_perform_begin session replies, ?_⟩
  rcases hbegin : session.begin (.fresh replies) with ⟨failure | ⟨⟩, opened⟩
  · have hopening : Step.begin.perform session replies =
        (⟨.error failure, opened.events, opened.records⟩, opened.replies) :=
      perform_of_run (bind_of_error hbegin)
    rw [hopening, perform_transaction (Session.transaction_of_begin_error hbegin)]
    exact .of_unopened rfl (performUntilFailure_spec rfl).1 rfl
  · have hopening : Step.begin.perform session replies =
        (⟨.ok .null, opened.events, opened.records⟩, opened.replies) :=
      perform_of_run (bind_of_ok hbegin)
    rcases hbody : runAll session steps (.fresh opened.replies) with ⟨outcome, after⟩
    obtain ⟨houtcome, hafter⟩ := performUntilFailure_spec hbody
    -- the steps are run behind the record of the beginning
    have hbehind : runAll session steps opened = (outcome, opened.extend after) :=
      (session.closed_oblivious.runAll steps).run hbody rfl
    subst hafter
    cases outcome with
    | ok values =>
        rw [hopening, perform_transaction (Session.transaction_of_ok hbegin hbehind)]
        refine .of_completed rfl rfl houtcome rfl ?_
        split <;> rfl
    | error failure =>
        rw [hopening, perform_transaction (Session.transaction_of_error hbegin hbehind)]
        exact .of_brokenOff rfl rfl houtcome rfl rfl

/-- Two transactions that are rolled back, the inner one first. -/
example :
    ((Step.transaction [.commit, .transaction [.selectCell "a ?d" [.int 1], .abandon "b"]]).perform
      ⟨⟨true, [.rollback, .fetchOne]⟩, .ofProfile {}⟩ []).1.events =
        [⟨.begin, none⟩, ⟨.commit, none⟩, ⟨.begin, none⟩, ⟨.cursor, none⟩,
          ⟨.execute, some "a 1"⟩, ⟨.fetchAll, none⟩, ⟨.close, none⟩, ⟨.rollback, none⟩,
          ⟨.rollback, none⟩] := by
  decide +kernel

end Step

end SqlTemplate
