import SqlTemplate.Expander
import SqlTemplate.Report
import SqlTemplate.Rows.Transformer

/-!
# Connections

A connection is known by the calls that are made on it and by the replies that it gives.  Every call
is written down as an event before anything else happens, so the events tell the whole story even if
a call fails.

A step that talks to a connection is an `Exchange`.  It may fail, and what happened until then stays
on record.
-/

namespace SqlTemplate

/-! ## Calls -/

/-- What can be asked of a connection or of a cursor on it. -/
inductive Operation where
  | cursor | execute | fetchAll | fetchOne | close | begin | commit | rollback
deriving DecidableEq, Repr

def Operation.all : List Operation :=
  [cursor, execute, fetchAll, fetchOne, close, begin, commit, rollback]

def Operation.name : Operation → String
  | cursor => "cursor"
  | execute => "execute"
  | fetchAll => "fetchall"
  | fetchOne => "fetchone"
  | close => "close"
  | begin => "begin"
  | commit => "commit"
  | rollback => "rollback"

/-- A call on the connection; only executing has something to hand over. -/
structure Event where
  operation : Operation
  statement : Option String := none
deriving DecidableEq, Repr

/-! ## Replies -/

/-- What a connection answers to a statement. -/
structure Result where
  /-- The names of the columns; a statement that changes data has none. -/
  columns : Option (List String)
  rows : List (List Value)
  lastRowId : Value
  rowCount : Value

/-- The answer to a statement about which nothing is known. -/
def Result.empty : Result :=
  ⟨none, [], .null, .int (-1)⟩

/-- How a connection meets a statement. -/
inductive Reply where
  | result (result : Result)
  | refusal (message : String)

/-- What stays the same about a connection. -/
structure Connection where
  /-- Whether the connection starts transactions by an operation of its own. -/
  hasBegin : Bool
  /-- The operations that always fail. -/
  failing : List Operation

/-! ## Exchanges -/

/-- Why a step of a session failed. -/
inductive SessionFailure where
  | expansion (failure : Failure)
  | rows (failure : RowFailure)
  /-- A grouping was asked for without any column. -/
  | noKeyColumns
  | tooFewColumns
  /-- A row has no cell at a place where one was asked for. -/
  | missingCell
  /-- A row was fetched from a result without columns. -/
  | rowWithoutColumns
  | driver (message : String)
  | application (message : String)
deriving DecidableEq, Repr

/-- The text of a failure on a machine that has room for integers of up to `room` digits. -/
def SessionFailure.message (room : Nat) : SessionFailure → String
  | expansion failure => failure.message room
  | rows failure => failure.message
  | noKeyColumns => Transformer.noKeysMessage
  | tooFewColumns => "Key-pair fetch needs at least two columns."
  | missingCell => "tuple index out of range"
  | rowWithoutColumns => "'NoneType' object is not iterable"
  | driver message | application message => message

/-- What changes while a session talks to a connection. -/
structure Channel where
  /-- The replies to come, one for each statement. -/
  replies : List Reply
  events : List Event
  records : List LogRecord

/-- A step that talks to a connection. -/
abbrev Exchange (α : Type) : Type :=
  ExceptT SessionFailure (StateM Channel) α

namespace Exchange

/-- Writes down a call. -/
def note (event : Event) : Exchange Unit :=
  modify fun channel => { channel with events := channel.events ++ [event] }

def log (records : List LogRecord) : Exchange Unit :=
  modify fun channel => { channel with records := channel.records ++ records }

/-- Fails if the connection does not carry out the operation. -/
def demand (connection : Connection) (operation : Operation) : Exchange Unit :=
  if operation ∈ connection.failing then throw (.driver (operation.name ++ " failed")) else pure ()

/-- Makes a call that has no answer. -/
def call (connection : Connection) (operation : Operation) : Exchange Unit := do
  note { operation }
  demand connection operation

/-- Takes the next reply; a connection that has none left answers that it knows nothing. -/
def nextReply : Exchange Reply := fun channel =>
  match channel.replies with
  | [] => (.ok (.result .empty), channel)
  | reply :: rest => (.ok reply, { channel with replies := rest })

/-- Executes a statement.  The reply is used up even if the operation fails. -/
def execute (connection : Connection) (sql : String) : Exchange Result := do
  note { operation := .execute, statement := some sql }
  let reply ← nextReply
  demand connection .execute
  match reply with
  | .result result => return result
  | .refusal message => throw (.driver message)

/-- Runs a step and then another one, whether the first one failed or not.  A failure of the second
step takes the place of one of the first. -/
def followedBy {α : Type} (step : Exchange α) (last : Exchange Unit) : Exchange α := fun channel =>
  let (outcome, after) := step channel
  match last after with
  | (.ok (), final) => (outcome, final)
  | (.error failure, final) => (.error failure, final)

/-- Runs a step, and another one only if the first one failed.  A failure of the second step takes
the place of the first one's. -/
def onFailure {α : Type} (step : Exchange α) (repair : Exchange Unit) : Exchange α := fun channel =>
  match step channel with
  | (.ok value, after) => (.ok value, after)
  | (.error failure, after) =>
      match repair after with
      | (.ok (), last) => (.error failure, last)
      | (.error other, last) => (.error other, last)

/-! ### What each step does to the channel -/

variable {α β : Type}

theorem pure_apply (value : α) (channel : Channel) :
    (pure value : Exchange α) channel = (.ok value, channel) := rfl

theorem throw_apply (failure : SessionFailure) (channel : Channel) :
    (throw failure : Exchange α) channel = (.error failure, channel) := rfl

theorem bind_apply (step : Exchange α) (next : α → Exchange β) (channel : Channel) :
    (step >>= next) channel =
      match step channel with
      | (.ok value, after) => next value after
      | (.error failure, after) => (.error failure, after) := by
  show (ExceptT.bindCont next (step channel).1) (step channel).2 = _
  rcases step channel with ⟨outcome, after⟩
  cases outcome <;> rfl

theorem call_of_failing {connection : Connection} {operation : Operation}
    (h : operation ∈ connection.failing) (channel : Channel) :
    call connection operation channel =
      (.error (.driver (operation.name ++ " failed")),
        { channel with events := channel.events ++ [{ operation }] }) := by
  simp only [call, bind_apply, demand, if_pos h]
  rfl

theorem call_of_not_failing {connection : Connection} {operation : Operation}
    (h : operation ∉ connection.failing) (channel : Channel) :
    call connection operation channel =
      (.ok (), { channel with events := channel.events ++ [{ operation }] }) := by
  simp only [call, bind_apply, demand, if_neg h]
  rfl

end Exchange

end SqlTemplate
