import Mathlib.Control.Monad.Basic
import SqlTemplate.Session.Step

/-!
# Properties of all steps of a session

Whatever a session does is put together from a few parts: the marks of a transaction,
expansions, statements whose result is read before the cursor is closed, and calculations
that have nothing to do with the connection.  A property that these have and that two
steps one after the other inherit is a property of every step, however deeply transactions
are nested in it (`Session.Closed.run`).

The statements are alike as well (`Session.Executes`): each of them expands a template,
executes it, fetches once or not at all, and calculates with what it has got.
-/

namespace SqlTemplate

namespace Exchange

/-! ## Two steps one after the other -/

section

variable {α β : Type} {step : Exchange α} {next : α → Exchange β} {channel after : Channel}

theorem bind_of_ok {value : α} (h : step channel = (.ok value, after)) :
    (step >>= next) channel = next value after := by
  rw [bind_apply, h]

theorem bind_of_error {failure : SessionFailure} (h : step channel = (.error failure, after)) :
    (step >>= next) channel = (.error failure, after) := by
  rw [bind_apply, h]

/-- Whatever is done with the value, the channel is the same. -/
theorem map_apply (f : α → β) (step : Exchange α) (channel : Channel) :
    (f <$> step) channel = ((step channel).1.map f, (step channel).2) := by
  rw [map_eq_pure_bind, bind_apply]
  rcases step channel with ⟨failure | value, after⟩ <;> rfl

theorem snd_discard (step : Exchange α) (channel : Channel) :
    (discard step channel).2 = (step channel).2 :=
  congrArg Prod.snd (map_apply (fun _ => ()) step channel)

theorem onFailure_of_ok {value : α} (h : step channel = (.ok value, after))
    (repair : Exchange Unit) : onFailure step repair channel = (.ok value, after) := by
  rw [onFailure, h]

/-- A failure stays the same if the second step succeeds. -/
theorem onFailure_of_repaired {failure : SessionFailure} {repair : Exchange Unit} {final : Channel}
    (h : step channel = (.error failure, after)) (hrepair : repair after = (.ok (), final)) :
    onFailure step repair channel = (.error failure, final) := by
  simp only [onFailure, h, hrepair]

theorem onFailure_of_unrepaired {failure other : SessionFailure} {repair : Exchange Unit}
    {final : Channel} (h : step channel = (.error failure, after))
    (hrepair : repair after = (.error other, final)) :
    onFailure step repair channel = (.error other, final) := by
  simp only [onFailure, h, hrepair]

/-- A step that fails does so in any case, and the second step decides what the channel looks
like. -/
theorem exists_onFailure_of_error {failure : SessionFailure}
    (h : step channel = (.error failure, after)) (repair : Exchange Unit) :
    ∃ other, onFailure step repair channel = (.error other, (repair after).2) := by
  rcases hrepair : repair after with ⟨other | value, final⟩
  · exact ⟨other, onFailure_of_unrepaired h hrepair⟩
  · exact ⟨failure, onFailure_of_repaired h hrepair⟩

/-- The last step decides what the channel looks like in the end. -/
theorem snd_followedBy (step : Exchange α) (last : Exchange Unit) (channel : Channel) :
    (followedBy step last channel).2 = (last (step channel).2).2 := by
  rcases hrun : step channel with ⟨outcome, mid⟩
  rcases hlast : last mid with ⟨failure | answer, final⟩
  · simp only [followedBy, hrun, hlast]
  · simp only [followedBy, hrun, hlast]

end

/-! ## Calls -/

theorem call_apply (connection : Connection) (operation : Operation) (channel : Channel) :
    call connection operation channel =
      (if operation ∈ connection.failing then .error (.driver (operation.name ++ " failed"))
        else .ok (),
        { channel with events := channel.events ++ [{ operation }] }) := by
  by_cases hfailing : operation ∈ connection.failing
  · rw [call_of_failing hfailing, if_pos hfailing]
  · rw [call_of_not_failing hfailing, if_neg hfailing]

theorem snd_call (connection : Connection) (operation : Operation) (channel : Channel) :
    (call connection operation channel).2 =
      { channel with events := channel.events ++ [{ operation := operation }] } := by
  rw [call_apply]

theorem log_apply (records : List LogRecord) (channel : Channel) :
    log records channel = (.ok (), { channel with records := channel.records ++ records }) := rfl

/-- A statement is written down and uses up a reply, whatever becomes of it. -/
theorem execute_apply (connection : Connection) (sql : String) (channel : Channel) :
    execute connection sql channel =
      (if .execute ∈ connection.failing then .error (.driver "execute failed")
        else match channel.replies.headD (.result .empty) with
          | .result result => .ok result
          | .refusal message => .error (.driver message),
        { channel with
          replies := channel.replies.tail
          events := channel.events ++ [{ operation := .execute, statement := some sql }] }) := by
  obtain ⟨replies, events, records⟩ := channel
  by_cases hfailing : .execute ∈ connection.failing
  · cases replies <;> simp only [execute, bind_apply, demand, if_pos hfailing] <;> rfl
  · rcases replies with _ | ⟨result | message, rest⟩ <;>
      simp only [execute, bind_apply, demand, if_neg hfailing] <;> rfl

theorem snd_execute (connection : Connection) (sql : String) (channel : Channel) :
    (execute connection sql channel).2 =
      { channel with
        replies := channel.replies.tail
        events := channel.events ++ [{ operation := .execute, statement := some sql }] } := by
  rw [execute_apply]

/-! ## Calculations -/

/-- A step that has nothing to do with the channel. -/
def Calculates {α : Type} (step : Exchange α) : Prop :=
  ∃ outcome, ∀ channel, step channel = (outcome, channel)

namespace Calculates

variable {α β : Type}

theorem pure (value : α) : Calculates (pure value) :=
  ⟨.ok value, fun _ => rfl⟩

theorem throw (failure : SessionFailure) : Calculates (throw failure : Exchange α) :=
  ⟨.error failure, fun _ => rfl⟩

theorem bind {step : Exchange α} {next : α → Exchange β} (hstep : Calculates step)
    (hnext : ∀ value, Calculates (next value)) : Calculates (step >>= next) := by
  obtain ⟨failure | value, hrun⟩ := hstep
  · exact ⟨.error failure, fun channel => bind_of_error (hrun channel)⟩
  · obtain ⟨outcome, hafter⟩ := hnext value
    exact ⟨outcome, fun channel => (bind_of_ok (hrun channel)).trans (hafter channel)⟩

theorem mapM {f : α → Exchange β} (h : ∀ x, Calculates (f x)) (xs : List α) :
    Calculates (xs.mapM f) := by
  induction xs with
  | nil => exact .pure []
  | cons first rest ih =>
      rw [List.mapM_cons]
      exact (h first).bind fun value => ih.bind fun others => .pure (value :: others)

theorem foldlM {f : β → α → Exchange β} (h : ∀ b x, Calculates (f b x)) (xs : List α) (start : β) :
    Calculates (xs.foldlM f start) := by
  induction xs generalizing start with
  | nil => exact .pure start
  | cons first rest ih =>
      rw [List.foldlM_cons]
      exact (h start first).bind ih

end Calculates

end Exchange

open Exchange

theorem calculates_cellAt (place : Nat) (cells : List Value) : Calculates (cellAt place cells) := by
  unfold cellAt
  split
  · exact .pure _
  · exact .throw _

theorem calculates_addPair (pairs : List (Label × Value)) (cells : List Value) :
    Calculates (addPair pairs cells) := by
  refine (calculates_cellAt 0 cells).bind fun first => ?_
  refine (calculates_cellAt 1 cells).bind fun second => ?_
  split
  · exact .pure _
  · exact .throw _

theorem calculates_pairCells (rows : List (List Value)) : Calculates (pairCells rows) :=
  .bind (.foldlM calculates_addPair rows []) fun _ => .pure _

/-! ## Expansions -/

namespace Expander

variable {expander : Expander} {template : String} {parameters : List Value}

theorem expandLogged_of_ok {expanded : Expanded}
    (h : expander.expand template parameters = .ok expanded) :
    expander.expandLogged template parameters =
      (.ok expanded, records expander.profile expanded) := by
  simp only [expandLogged, h]

/-- An expansion that fails is not logged. -/
theorem expandLogged_of_error {failure : Failure}
    (h : expander.expand template parameters = .error failure) :
    expander.expandLogged template parameters = (.error failure, []) := by
  simp only [expandLogged, h]

end Expander

namespace Session

section

variable {session : Session} {template : String} {parameters : List Value}

theorem expand_of_ok {expanded : Expanded}
    (h : session.expander.expand template parameters = .ok expanded) (channel : Channel) :
    session.expand template parameters channel =
      (.ok expanded.sql, { channel with
        records := channel.records ++ Expander.records session.expander.profile expanded }) := by
  simp only [expand, Expander.expandLogged_of_ok h]
  rfl

/-- An expansion that fails leaves nothing behind. -/
theorem expand_of_error {failure : Failure}
    (h : session.expander.expand template parameters = .error failure) (channel : Channel) :
    session.expand template parameters channel = (.error (.expansion failure), channel) := by
  simp only [expand, Expander.expandLogged_of_error h]
  show (_, { channel with records := channel.records ++ [] }) = _
  rw [List.append_nil]

end

/-! ## Readings of a result -/

/-- A step that fetches at most once and calculates with what it has got. -/
inductive Reads (session : Session) {α : Type} : Exchange α → Prop
  | unfetched {step : Exchange α} (h : Calculates step) : Reads session step
  | fetched {operation : Operation} {next : Unit → Exchange α}
      (hfetch : operation = .fetchAll ∨ operation = .fetchOne)
      (h : ∀ answer, Calculates (next answer)) :
      Reads session (call session.connection operation >>= next)

namespace Reads

variable {session : Session} {α : Type}

theorem fetchAll (result : Result) {next : List (List Value) → Exchange α}
    (h : ∀ rows, Calculates (next rows)) : Reads session (session.fetchAll result >>= next) := by
  rw [Session.fetchAll, bind_assoc]
  exact .fetched (Or.inl rfl) fun _ => h result.rows

theorem fetchOne (result : Result) {next : Option (List Value) → Exchange α}
    (h : ∀ row, Calculates (next row)) : Reads session (session.fetchOne result >>= next) := by
  rw [Session.fetchOne, bind_assoc]
  exact .fetched (Or.inr rfl) fun _ => h result.rows.head?

end Reads

/-! ## Statements -/

/-- What is done with a cursor that was handed out. -/
def serve {α : Type} (session : Session) (sql : String) (read : Result → Exchange α) :
    Exchange α := do
  let close := call session.connection .close
  let result ← onFailure (execute session.connection sql) close
  followedBy (read result) close

/-- What is logged about a statement that is going to be executed. -/
def statementRecords (session : Session) (expanded : Expanded) (parameters : List Value) :
    List LogRecord :=
  Expander.records session.expander.profile expanded ++
    [⟨.debug, "Executing statement (" ++ toString parameters.length ++ " params)"⟩]

section

variable {session : Session} {template : String} {parameters : List Value} {α : Type}
  (read : Result → Exchange α)

theorem withResult_of_expand_ok {expanded : Expanded}
    (h : session.expander.expand template parameters = .ok expanded) (channel : Channel) :
    session.withResult template parameters read channel =
      (call session.connection .cursor >>= fun _ => session.serve expanded.sql read)
        { channel with
          records := channel.records ++ session.statementRecords expanded parameters } := by
  rw [withResult, bind_of_ok (expand_of_ok h channel), bind_of_ok (log_apply _ _),
    statementRecords, ← List.append_assoc]
  rfl

theorem withResult_of_expand_error {failure : Failure}
    (h : session.expander.expand template parameters = .error failure) (channel : Channel) :
    session.withResult template parameters read channel =
      (.error (.expansion failure), channel) := by
  rw [withResult, bind_of_error (expand_of_error h channel)]

end

/-! ### The statements of a session

All of them have one form, and differ in what they read and in what they make of it. -/

/-- A step that executes one statement, and calculates with what is read before the cursor
is closed. -/
inductive Executes (session : Session) (template : String) (parameters : List Value)
    {α : Type} : Exchange α → Prop
  | intro {β : Type} {read : Result → Exchange β} {next : β → Exchange α}
      (hread : ∀ result, Reads session (read result)) (hnext : ∀ value, Calculates (next value)) :
      Executes session template parameters
        (session.withResult template parameters read >>= next)

namespace Executes

variable {session : Session} {template : String} {parameters : List Value} {α β : Type}

theorem of_reads {read : Result → Exchange α} (h : ∀ result, Reads session (read result)) :
    Executes session template parameters (session.withResult template parameters read) := by
  rw [← bind_pure (session.withResult template parameters read)]
  exact .intro h fun value => .pure value

theorem bind {step : Exchange α} {next : α → Exchange β}
    (h : Executes session template parameters step) (hnext : ∀ value, Calculates (next value)) :
    Executes session template parameters (step >>= next) := by
  cases h with
  | intro hread hfirst =>
      rw [bind_assoc]
      exact .intro hread fun value => (hfirst value).bind hnext

end Executes

section

variable {session : Session} (template : String) (parameters : List Value)

theorem executes_query :
    session.Executes template parameters (session.query template parameters) := by
  refine .of_reads fun result => .unfetched ?_
  split
  · exact .pure _
  · split
    · exact .pure _
    · exact .pure _

theorem executes_select (transformer : Option Transformer) :
    session.Executes template parameters
      (session.select template parameters transformer) := by
  refine (Executes.of_reads fun result => ?_).bind fun rows => ?_
  · split
    · exact .unfetched (.pure [])
    · exact .fetchAll result fun rows => .pure _
  · split
    · exact .pure _
    · split
      · exact .pure _
      · exact .throw _

theorem executes_selectRow :
    session.Executes template parameters (session.selectRow template parameters) := by
  refine .of_reads fun result => .fetchOne result fun row => ?_
  split
  · exact .pure _
  · split
    · exact .throw _
    · exact .pure _

theorem executes_selectCells :
    session.Executes template parameters (session.selectCells template parameters) :=
  .of_reads fun result => .fetchAll result fun rows => .mapM (calculates_cellAt 0) rows

theorem executes_selectPairs :
    session.Executes template parameters (session.selectPairs template parameters) := by
  refine .of_reads fun result => .fetchAll result fun rows => ?_
  split
  · exact .throw _
  · exact calculates_pairCells rows

theorem executes_selectCell :
    session.Executes template parameters (session.selectCell template parameters) :=
  (executes_selectCells template parameters).bind fun _ => .pure _

end

/-! ## Properties that carry over to steps -/

/-- A property that the parts of a session have and that two of them one after the other
inherit. -/
structure Closed (session : Session) (Good : ∀ α : Type, Exchange α → Prop) : Prop where
  calculation : ∀ {α : Type} {step : Exchange α}, Calculates step → Good α step
  bind : ∀ {α β : Type} {step : Exchange α} {next : α → Exchange β},
    Good α step → (∀ value, Good β (next value)) → Good β (step >>= next)
  onFailure : ∀ {α : Type} {step : Exchange α} {repair : Exchange Unit},
    Good α step → Good Unit repair → Good α (onFailure step repair)
  begin : Good Unit session.begin
  commit : Good Unit session.commit
  rollback : Good Unit session.rollback
  expand : ∀ template parameters, Good String (session.expand template parameters)
  statement : ∀ {α : Type} (template : String) (parameters : List Value)
    {read : Result → Exchange α}, (∀ result, Reads session (read result)) →
    Good α (session.withResult template parameters read)

namespace Closed

variable {session : Session} {Good : ∀ α : Type, Exchange α → Prop}
  (hclosed : session.Closed Good)

include hclosed

theorem map {α β : Type} {step : Exchange α} (h : Good α step) (f : α → β) :
    Good β (f <$> step) := by
  rw [map_eq_pure_bind]
  exact hclosed.bind h fun value => hclosed.calculation (.pure (f value))

theorem transaction {α : Type} {body : Exchange α} (h : Good α body) :
    Good α (session.transaction body) :=
  hclosed.bind hclosed.begin fun _ => hclosed.bind (hclosed.onFailure h hclosed.rollback)
    fun value => hclosed.bind hclosed.commit fun _ => hclosed.calculation (.pure value)

/-- A step that executes a statement has the property whatever it makes of the result. -/
theorem executes {α : Type} {step : Exchange α} {template : String} {parameters : List Value}
    (h : session.Executes template parameters step) : Good α step := by
  cases h with
  | intro hread hnext =>
      exact hclosed.bind (hclosed.statement template parameters hread) fun value =>
        hclosed.calculation (hnext value)

end Closed

mutual

/-- **What the parts of a session do, every step does.** -/
theorem Closed.run {session : Session} {Good : ∀ α : Type, Exchange α → Prop}
    (hclosed : session.Closed Good) (step : Step) : Good Value (step.run session) := by
  have hmark : ∀ {mark : Exchange Unit}, Good Unit mark →
      Good Value (mark >>= fun _ => pure .null) :=
    fun h => hclosed.bind h fun _ => hclosed.calculation (.pure _)
  match step with
  | .query template parameters => exact hclosed.executes (executes_query template parameters)
  | .select template parameters shape =>
      rw [Step.run]
      split
      · exact hclosed.executes (executes_select template parameters _)
      · exact hclosed.calculation (.throw _)
  | .selectRow template parameters =>
      exact hclosed.executes (executes_selectRow template parameters)
  | .selectColumn template parameters =>
      exact hclosed.map (hclosed.executes (executes_selectCells template parameters)) _
  | .selectPairs template parameters =>
      exact hclosed.executes (executes_selectPairs template parameters)
  | .selectCell template parameters =>
      exact hclosed.executes (executes_selectCell template parameters)
  | .expand template parameters => exact hclosed.map (hclosed.expand template parameters) _
  | .begin => exact hmark hclosed.begin
  | .commit => exact hmark hclosed.commit
  | .rollback => exact hmark hclosed.rollback
  | .abandon message => exact hclosed.calculation (.throw _)
  | .transaction steps => exact hclosed.map (hclosed.transaction (Closed.runAll hclosed steps)) _

theorem Closed.runAll {session : Session} {Good : ∀ α : Type, Exchange α → Prop}
    (hclosed : session.Closed Good) (steps : List Step) :
    Good (List Value) (Step.runAll session steps) := by
  match steps with
  | [] => exact hclosed.calculation (.pure [])
  | step :: rest =>
      exact hclosed.bind (Closed.run hclosed step) fun value =>
        hclosed.bind (Closed.runAll hclosed rest) fun others =>
          hclosed.calculation (.pure (value :: others))

end

end Session

end SqlTemplate
