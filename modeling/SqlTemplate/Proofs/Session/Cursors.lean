import SqlTemplate.Proofs.Session.Steps

/-!
# Every cursor is closed

The log of a session consists of *rounds*: the mark of a transaction, a cursor that the
connection did not hand out, or a cursor that it did hand out together with all that is
done with it.  The last kind of round is always the same, whatever fails in it: one
statement is executed, the result is fetched at most once, and the cursor is closed.
Nothing else happens in between, and no step executes, fetches or closes anything outside
of such a round (`Step.performAll_orderly`).

## Strategy

A step only ever adds to the log (`Leaves`).  For the parts of a session the added events
are listed, case by case; a statement has four places where it may stop, and the cursor is
closed by one mechanism before the result is there and by another one behind it.  What is
put together from these parts adds the rounds of its parts, one after the other.
-/

namespace SqlTemplate

open Exchange

/-! ## Rounds -/

/-- What may be fetched through one cursor. -/
inductive Fetch : List Event → Prop
  | nothing : Fetch []
  | all : Fetch [{ operation := .fetchAll }]
  | one : Fetch [{ operation := .fetchOne }]

/-- All that is done with a cursor, from the call that hands it out to the one that closes it. -/
def cursorRound (sql : String) (fetch : List Event) : List Event :=
  { operation := .cursor } :: { operation := .execute, statement := some sql } ::
    fetch ++ [{ operation := .close }]

/-- Events that belong together on a connection. -/
inductive Round (connection : Connection) : List Event → Prop
  /-- The mark of a transaction. -/
  | mark {operation : Operation}
      (h : operation = .begin ∨ operation = .commit ∨ operation = .rollback) :
      Round connection [{ operation }]
  /-- A cursor that is not handed out, so that nothing is done with it. -/
  | refused (h : .cursor ∈ connection.failing) : Round connection [{ operation := .cursor }]
  /-- A cursor that is handed out. -/
  | served (h : .cursor ∉ connection.failing) (sql : String) {fetch : List Event}
      (hfetch : Fetch fetch) : Round connection (cursorRound sql fetch)

/-- A log that consists of whole rounds. -/
def Orderly (connection : Connection) (events : List Event) : Prop :=
  ∃ rounds : List (List Event), (∀ round ∈ rounds, Round connection round) ∧
    events = rounds.flatten

namespace Orderly

variable {connection : Connection} {first second : List Event}

theorem nil : Orderly connection [] :=
  ⟨[], nofun, rfl⟩

theorem of_round (h : Round connection first) : Orderly connection first := by
  refine ⟨[first], ?_, (List.append_nil first).symm⟩
  intro round hmem
  rwa [List.mem_singleton.1 hmem]

theorem append (hfirst : Orderly connection first) (hsecond : Orderly connection second) :
    Orderly connection (first ++ second) := by
  obtain ⟨before, hbefore, rfl⟩ := hfirst
  obtain ⟨behind, hbehind, rfl⟩ := hsecond
  refine ⟨before ++ behind, ?_, List.flatten_append.symm⟩
  intro round hmem
  rcases List.mem_append.1 hmem with hmem | hmem
  · exact hbefore round hmem
  · exact hbehind round hmem

theorem flatMap {α : Type} {events : α → List Event} {xs : List α}
    (h : ∀ x ∈ xs, Orderly connection (events x)) : Orderly connection (xs.flatMap events) := by
  induction xs with
  | nil => exact nil
  | cons x rest ih =>
      rw [List.flatMap_cons]
      exact (h x (List.mem_cons_self ..)).append
        (ih fun other hmem => h other (List.mem_cons_of_mem _ hmem))

end Orderly

/-! ## What a step adds to the log -/

/-- A step that adds whole rounds to the log, whether it succeeds or fails. -/
def AddsRounds {α : Type} (connection : Connection) (step : Exchange α) : Prop :=
  ∀ channel, ∃ added, (step channel).2.events = channel.events ++ added ∧
    Orderly connection added

namespace AddsRounds

variable {α β : Type} {step : Exchange α} {connection : Connection}

/-- A step that does not touch the log. -/
theorem of_events_eq (h : ∀ channel, (step channel).2.events = channel.events) :
    AddsRounds connection step :=
  fun channel => ⟨[], by rw [h, List.append_nil], .nil⟩

theorem bind {next : α → Exchange β} (hstep : AddsRounds connection step)
    (hnext : ∀ value, AddsRounds connection (next value)) :
    AddsRounds connection (step >>= next) := by
  intro channel
  obtain ⟨added, hevents, hadded⟩ := hstep channel
  rcases hrun : step channel with ⟨failure | value, after⟩
  · rw [hrun] at hevents
    rw [bind_of_error hrun]
    exact ⟨added, hevents, hadded⟩
  · rw [hrun] at hevents
    rw [bind_of_ok hrun]
    obtain ⟨more, hmore, horderly⟩ := hnext value after
    refine ⟨added ++ more, ?_, hadded.append horderly⟩
    rw [hmore, hevents, List.append_assoc]

theorem onFailure {repair : Exchange Unit} (hstep : AddsRounds connection step)
    (hrepair : AddsRounds connection repair) : AddsRounds connection (onFailure step repair) := by
  intro channel
  obtain ⟨added, hevents, hadded⟩ := hstep channel
  rcases hrun : step channel with ⟨failure | value, after⟩
  · rw [hrun] at hevents
    obtain ⟨other, hrepaired⟩ := exists_onFailure_of_error hrun repair
    obtain ⟨more, hmore, horderly⟩ := hrepair after
    rw [hrepaired]
    refine ⟨added ++ more, ?_, hadded.append horderly⟩
    rw [hmore, hevents, List.append_assoc]
  · rw [hrun] at hevents
    rw [onFailure_of_ok hrun]
    exact ⟨added, hevents, hadded⟩

/-- The mark of a transaction is a round of its own. -/
theorem mark {operation : Operation}
    (h : operation = .begin ∨ operation = .commit ∨ operation = .rollback) :
    AddsRounds connection (call connection operation) :=
  fun channel => ⟨_, by rw [call_apply], .of_round (.mark h)⟩

end AddsRounds

namespace Session

variable {session : Session} {α : Type}

/-! ## Statements -/

/-- A reading adds a fetch to the log, and the rest of the channel stays as it is. -/
theorem Reads.exists_fetch {step : Exchange α} (h : session.Reads step) (channel : Channel) :
    ∃ fetch, Fetch fetch ∧
      (step channel).2 = { channel with events := channel.events ++ fetch } := by
  cases h with
  | unfetched h =>
      obtain ⟨outcome, hrun⟩ := h
      exact ⟨[], .nothing, by rw [hrun, List.append_nil]⟩
  | @fetched operation next hfetch h =>
      refine ⟨[{ operation }], ?_, ?_⟩
      · rcases hfetch with rfl | rfl
        · exact .all
        · exact .one
      · rcases hcall : call session.connection operation channel with ⟨failure | answer, after⟩
        · rw [bind_of_error hcall, ← congrArg Prod.snd hcall, call_apply]
        · obtain ⟨outcome, hrun⟩ := h answer
          rw [bind_of_ok hcall, hrun, ← congrArg Prod.snd hcall, call_apply]

/-- What a statement adds to the log. -/
inductive StatementLog (session : Session) (template : String) (parameters : List Value) :
    List Event → Prop
  /-- Without an expansion the connection is left alone. -/
  | unexpanded {failure : Failure}
      (hexpand : session.expander.expand template parameters = .error failure) :
      StatementLog session template parameters []
  | refused {expanded : Expanded}
      (hexpand : session.expander.expand template parameters = .ok expanded)
      (hcursor : .cursor ∈ session.connection.failing) :
      StatementLog session template parameters [{ operation := .cursor }]
  | served {expanded : Expanded} {fetch : List Event}
      (hexpand : session.expander.expand template parameters = .ok expanded)
      (hcursor : .cursor ∉ session.connection.failing) (hfetch : Fetch fetch) :
      StatementLog session template parameters (cursorRound expanded.sql fetch)

theorem StatementLog.orderly {template : String} {parameters : List Value} {events : List Event}
    (h : StatementLog session template parameters events) :
    Orderly session.connection events := by
  cases h with
  | unexpanded hexpand => exact .nil
  | refused hexpand hcursor => exact .of_round (.refused hcursor)
  | served hexpand hcursor hfetch => exact .of_round (.served hcursor _ hfetch)

/-- A cursor that was handed out is closed in front of the reading if there is no result, and
behind it otherwise.  Either way one reply is used up, and nothing is logged. -/
theorem snd_serve (sql : String) {read : Result → Exchange α}
    (hread : ∀ result, session.Reads (read result)) (channel : Channel) :
    ∃ fetch, Fetch fetch ∧ (session.serve sql read channel).2 =
      { channel with
        replies := channel.replies.tail
        events := channel.events ++ { operation := .execute, statement := some sql } :: fetch ++
          [{ operation := .close }] } := by
  have hexecute := snd_execute session.connection sql channel
  rcases hrun : execute session.connection sql channel with ⟨failure | result, after⟩
  · rw [hrun] at hexecute
    obtain ⟨other, hclosed⟩ := exists_onFailure_of_error hrun (call session.connection .close)
    refine ⟨[], .nothing, ?_⟩
    rw [serve, bind_of_error hclosed, snd_call]
    subst hexecute
    rfl
  · rw [hrun] at hexecute
    obtain ⟨fetch, hfetch, hafter⟩ := (hread result).exists_fetch after
    refine ⟨fetch, hfetch, ?_⟩
    rw [serve, bind_of_ok (onFailure_of_ok hrun _), snd_followedBy, snd_call, hafter]
    subst hexecute
    simp only [List.append_assoc, List.cons_append, List.nil_append]

/-- Whatever fails in a statement, what it adds to the log is one of the three logs. -/
theorem events_withResult (template : String) (parameters : List Value)
    {read : Result → Exchange α} (hread : ∀ result, session.Reads (read result))
    (channel : Channel) :
    ∃ added, (session.withResult template parameters read channel).2.events =
        channel.events ++ added ∧
      StatementLog session template parameters added := by
  cases hexpand : session.expander.expand template parameters with
  | error failure =>
      rw [withResult_of_expand_error read hexpand]
      exact ⟨[], (List.append_nil _).symm, .unexpanded hexpand⟩
  | ok expanded =>
      rw [withResult_of_expand_ok read hexpand]
      by_cases hcursor : .cursor ∈ session.connection.failing
      · rw [bind_of_error (call_of_failing hcursor _)]
        exact ⟨_, rfl, .refused hexpand hcursor⟩
      · rw [bind_of_ok (call_of_not_failing hcursor _)]
        obtain ⟨fetch, hfetch, hafter⟩ := snd_serve expanded.sql hread _
        refine ⟨cursorRound expanded.sql fetch, ?_, .served hexpand hcursor hfetch⟩
        rw [hafter]
        simp only [cursorRound, List.append_assoc, List.cons_append, List.nil_append]

/-! ## Marks of transactions -/

/-- What the beginning of a transaction adds to the log. -/
def opening (session : Session) : List Event :=
  if session.connection.hasBegin then [{ operation := .begin }]
  else if .cursor ∈ session.connection.failing then [{ operation := .cursor }]
  else cursorRound "BEGIN" []

theorem events_begin (session : Session) (channel : Channel) :
    (session.begin channel).2.events = channel.events ++ session.opening := by
  rw [Session.begin, opening]
  split
  · rw [snd_call]
  · by_cases hcursor : .cursor ∈ session.connection.failing
    · rw [bind_of_error (call_of_failing hcursor _), if_pos hcursor]
    · rw [bind_of_ok (call_of_not_failing hcursor _), if_neg hcursor, snd_followedBy, snd_call,
        snd_discard, snd_execute]
      simp only [cursorRound, List.append_assoc, List.cons_append, List.nil_append]

/-- A transaction starts with a round, whichever way the connection starts transactions. -/
theorem addsRounds_begin (session : Session) :
    AddsRounds session.connection session.begin := by
  refine fun channel => ⟨session.opening, session.events_begin channel, ?_⟩
  rw [opening]
  split
  · exact .of_round (.mark (Or.inl rfl))
  · split
    · next hcursor => exact .of_round (.refused hcursor)
    · next hcursor => exact .of_round (.served hcursor "BEGIN" .nothing)

/-! ## Whole sessions -/

theorem closed_addsRounds (session : Session) :
    session.Closed fun _ step => AddsRounds session.connection step where
  calculation h := by
    obtain ⟨outcome, hrun⟩ := h
    exact .of_events_eq fun channel => by rw [hrun]
  bind hstep hnext := hstep.bind hnext
  onFailure hstep hrepair := hstep.onFailure hrepair
  begin := addsRounds_begin session
  commit := .mark (Or.inr (Or.inl rfl))
  rollback := .mark (Or.inr (Or.inr rfl))
  expand template parameters := by
    refine .of_events_eq fun channel => ?_
    cases hexpand : session.expander.expand template parameters with
    | error failure => rw [expand_of_error hexpand]
    | ok expanded => rw [expand_of_ok hexpand]
  statement template parameters read hread channel := by
    obtain ⟨added, hevents, hlog⟩ := events_withResult template parameters hread channel
    exact ⟨added, hevents, hlog.orderly⟩

end Session

namespace Step

/-- One step, with all steps in it, performs whole rounds. -/
theorem perform_orderly (session : Session) (step : Step) (replies : List Reply) :
    Orderly session.connection (step.perform session replies).1.events := by
  obtain ⟨added, hevents, hadded⟩ := session.closed_addsRounds.run step ⟨replies, [], []⟩
  have hperformed : (step.perform session replies).1.events = added := hevents
  rwa [hperformed]

/-- **Every cursor is closed, once and before anything else happens.**  The whole log of a
session consists of rounds: whatever steps are performed and whatever fails, a cursor that is
handed out is followed by one statement, at most one fetch, and its closing, and nothing is
executed, fetched or closed anywhere else. -/
theorem performAll_orderly (session : Session) (steps : List Step) (replies : List Reply) :
    Orderly session.connection ((performAll session steps replies).flatMap (·.events)) := by
  refine .flatMap fun performance hmem => ?_
  induction steps generalizing replies with
  | nil => cases hmem
  | cons step rest ih =>
      rcases List.mem_cons.1 hmem with rfl | hmem
      · exact perform_orderly session step replies
      · exact ih _ hmem

/-- Two rounds that end with a cursor that cannot be closed; the first one begins a
transaction, and in the second one the fetch fails as well. -/
example :
    (performAll ⟨⟨false, [.fetchAll, .close]⟩, .ofProfile {}⟩ [.begin, .selectColumn "a" []]
      []).flatMap (·.events) = cursorRound "BEGIN" [] ++ cursorRound "a" [⟨.fetchAll, none⟩] := by
  decide +kernel

end Step

end SqlTemplate
