import SqlTemplate.Proofs.Expansion.Depth
import SqlTemplate.Proofs.Session.Statements

/-!
# What the log shows

The log shows how many parameters there were and how many of them the template took, and
nothing else of them.  So two lists of parameters that have these numbers in common leave the
same records, in an expansion and in every step that executes a statement
(`records_show_counts`).  The expansions may differ, and with them all that the connection
does: what it is asked for, what it answers, and where it fails.

A failed expansion leaves no record at all.  One that succeeds has been logged completely
before the connection is asked for a cursor, which is why the connection has no say in it.

## Strategy

Behind the expansion nothing is logged any more, so the records of a statement are known as
soon as its expansion is (`Session.Executes.records_eq`).  What is left is to see that the
records of an expansion are made of its counts (`Expander.records_congr`).
-/

namespace SqlTemplate

open Exchange

/-! ## The records of a statement -/

namespace Session

variable {session : Session} {template : String} {parameters : List Value} {α : Type}

/-- A statement is logged before the connection is asked for anything, and not any more
afterwards. -/
theorem records_withResult {read : Result → Exchange α}
    (hread : ∀ result, session.Reads (read result)) {expanded : Expanded}
    (hexpand : session.expander.expand template parameters = .ok expanded) (channel : Channel) :
    (session.withResult template parameters read channel).2.records =
      channel.records ++ session.statementRecords expanded parameters := by
  rw [withResult_of_expand_ok read hexpand]
  by_cases hcursor : .cursor ∈ session.connection.failing
  · rw [bind_of_error (call_of_failing hcursor _)]
  · rw [bind_of_ok (call_of_not_failing hcursor _)]
    obtain ⟨fetch, -, hafter⟩ := snd_serve expanded.sql hread _
    rw [hafter]

theorem Executes.records_eq {step : Exchange α} (h : session.Executes template parameters step)
    {expanded : Expanded} (hexpand : session.expander.expand template parameters = .ok expanded)
    (channel : Channel) :
    (step channel).2.records =
      channel.records ++ session.statementRecords expanded parameters := by
  obtain ⟨β, read, hread, hsame⟩ := h.exists_withResult
  rw [hsame, records_withResult hread hexpand]

end Session

/-! ## Records and counts -/

namespace Expander

variable {expander : Expander} {template : String} {parameters : List Value}

theorem supplied_eq {expanded : Expanded}
    (h : expander.expand template parameters = .ok expanded) :
    expanded.supplied = parameters.length := by
  obtain ⟨sql, -, rfl⟩ := (expand_eq_ok_iff (Nat.le_refl _)).1 h
  rfl

/-- Unless the statement itself is logged, only the counts are. -/
theorem records_congr {profile : Profile} (hprofile : profile.logExpanded = false)
    {first second : Expanded} (hconsumed : first.consumed = second.consumed)
    (hsupplied : first.supplied = second.supplied) :
    records profile first = records profile second := by
  have hunconsumed : first.unconsumed = second.unconsumed :=
    congrArg₂ (· - ·) hsupplied hconsumed
  rw [records, records, hunconsumed, hconsumed, hsupplied, hprofile]
  rfl

end Expander

/-! ## Steps of a session -/

namespace Step

variable {session : Session} {step : Step} {template : String} {parameters : List Value}

theorem records_perform (session : Session) (step : Step) (replies : List Reply) :
    (step.perform session replies).1.records = (step.run session (.fresh replies)).2.records :=
  rfl

theorem records_perform_expand (replies : List Reply) :
    ((Step.expand template parameters).perform session replies).1.records =
      (session.expander.expandLogged template parameters).2 := by
  rw [records_perform, run, map_apply]
  cases hexpand : session.expander.expand template parameters with
  | error failure =>
      rw [Session.expand_of_error hexpand, Expander.expandLogged_of_error hexpand]
      rfl
  | ok expanded =>
      rw [Session.expand_of_ok hexpand, Expander.expandLogged_of_ok hexpand]
      rfl

/-- What the log shows of a list of parameters, whatever the connection does. -/
structure Leaves (expander : Expander) (template : String) (parameters : List Value)
    (expansion statement : List LogRecord) : Prop where
  /-- An expansion without a session. -/
  logged : (expander.expandLogged template parameters).2 = expansion
  /-- A session that is asked for the expansion and for nothing else. -/
  shown : ∀ (connection : Connection) (replies : List Reply),
    ((Step.expand template parameters).perform ⟨connection, expander⟩ replies).1.records =
      expansion
  /-- A statement, whichever of the steps executes it. -/
  executed : ∀ step : Step, step.statement? = some (template, parameters) →
    ∀ (connection : Connection) (replies : List Reply),
      (step.perform ⟨connection, expander⟩ replies).1.records = statement

variable {expander : Expander}

/-- All steps that execute a statement are known by what they have in common. -/
theorem leaves_of_executes {expansion statement : List LogRecord}
    (hlogged : (expander.expandLogged template parameters).2 = expansion)
    (hexecuted : ∀ (connection : Connection) (step : Exchange Value),
      Session.Executes ⟨connection, expander⟩ template parameters step →
      ∀ replies, (step (.fresh replies)).2.records = statement) :
    Leaves expander template parameters expansion statement := by
  refine ⟨hlogged, ?shown, ?executed⟩
  case shown =>
    intro connection replies
    rw [records_perform_expand, hlogged]
  case executed =>
    intro step hstep connection replies
    rw [records_perform]
    exact hexecuted connection _ (executes_of_statement hstep) replies

theorem leaves_of_ok {expanded : Expanded}
    (h : expander.expand template parameters = .ok expanded) :
    Leaves expander template parameters (Expander.records expander.profile expanded)
      (Expander.records expander.profile expanded ++
        [⟨.debug, "Executing statement (" ++ toString parameters.length ++ " params)"⟩]) := by
  have hlogged := congrArg Prod.snd (Expander.expandLogged_of_ok h)
  refine leaves_of_executes hlogged fun connection step hexecutes replies => ?_
  rw [hexecutes.records_eq h]
  rfl

/-- An expansion that fails leaves no records, nor does a statement that cannot be expanded. -/
theorem leaves_of_error {failure : Failure}
    (h : expander.expand template parameters = .error failure) :
    Leaves expander template parameters [] [] := by
  have hlogged := congrArg Prod.snd (Expander.expandLogged_of_error h)
  refine leaves_of_executes hlogged fun connection step hexecutes replies => ?_
  rw [hexecutes.of_expand_error h]
  rfl

/-- **The log shows counts and no values.**  If the expanded statement is not to be logged, two
lists of parameters of one length, of which the template takes equally many, leave the same
records.  A list of parameters with which the expansion fails leaves none. -/
theorem records_show_counts (expander : Expander) (template : String) :
    (expander.profile.logExpanded = false → ∀ first second a b, first.length = second.length →
      expander.expand template first = .ok a → expander.expand template second = .ok b →
      a.consumed = b.consumed →
      ∃ expansion statement, Leaves expander template first expansion statement ∧
        Leaves expander template second expansion statement) ∧
    ∀ parameters failure, expander.expand template parameters = .error failure →
      Leaves expander template parameters [] [] := by
  refine ⟨?counts, fun parameters failure => leaves_of_error⟩
  case counts =>
    intro hprofile first second a b hlength hfirst hsecond hconsumed
    have hsupplied : a.supplied = b.supplied := by
      rw [Expander.supplied_eq hfirst, Expander.supplied_eq hsecond, hlength]
    have hsame := leaves_of_ok hsecond
    rw [← Expander.records_congr hprofile hconsumed hsupplied, ← hlength] at hsame
    exact ⟨_, _, leaves_of_ok hfirst, hsame⟩

/-- One parameter is a template that takes another one, and one parameter is left over; the
expansion fails if all but the first are missing. -/
theorem records_show_counts_nested :
    let expander : Expander := .ofProfile {}
    let template := "select ?d {and ?s}"
    let first : List Value := [.int 1, .text "a = ?", .text "secret", .null]
    let second : List Value := [.null, .text "b = ?f", .skip, .foreign]
    (expander.profile.logExpanded = false ∧ first.length = second.length ∧
      (∃ a b, expander.expand template first = .ok a ∧ expander.expand template second = .ok b ∧
        a.consumed = b.consumed) ∧
      ∃ expansion statement, Leaves expander template first expansion statement ∧
        Leaves expander template second expansion statement) ∧
    (∃ failure, expander.expand template [.int 1] = .error failure) ∧
      Leaves expander template [.int 1] [] [] := by
  intro expander template first second
  have hfirst : expander.expand template first =
      .ok ⟨"select 1  and a = 'secret' ", 3, 4, "mysql"⟩ := by decide +kernel
  have hsecond : expander.expand template second = .ok ⟨"select NULL ", 3, 4, "mysql"⟩ := by
    decide +kernel
  have hshort : expander.expand template [.int 1] = .error (.underflow 2 1) := by decide +kernel
  obtain ⟨hcounts, hfails⟩ := records_show_counts expander template
  exact ⟨⟨rfl, rfl, ⟨_, _, hfirst, hsecond, rfl⟩, hcounts rfl _ _ _ _ rfl hfirst hsecond rfl⟩,
    ⟨_, hshort⟩, hfails _ _ hshort⟩

end Step

end SqlTemplate
