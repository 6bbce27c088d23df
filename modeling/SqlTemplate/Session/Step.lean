import SqlTemplate.Session.Statement

/-!
# Steps of a session

Everything that can be done with a session, as data: single statements, the marks of a transaction,
and whole transactions with steps inside.  The steps of a transaction run until one of them fails.
-/

namespace SqlTemplate

/-- The shape that a caller asks for. -/
inductive Shape where
  | rows
  | keyed (name : String)
  | grouped (names : List String) (lastOnly : Bool)
deriving DecidableEq, Repr

/-- The transformer that gives a shape, if a transformer is needed. -/
def Shape.transformer : Shape → Except SessionFailure (Option Transformer)
  | rows => .ok none
  | keyed name => .ok (some (.keyed name))
  | grouped names lastOnly =>
      match Transformer.ofColumns? names lastOnly with
      | some transformer => .ok (some transformer)
      | none => .error .noKeyColumns

inductive Step where
  | query (template : String) (parameters : List Value)
  | select (template : String) (parameters : List Value) (shape : Shape)
  | selectRow (template : String) (parameters : List Value)
  | selectColumn (template : String) (parameters : List Value)
  | selectPairs (template : String) (parameters : List Value)
  | selectCell (template : String) (parameters : List Value)
  | expand (template : String) (parameters : List Value)
  | begin
  | commit
  | rollback
  /-- Gives up with a message of the application's own. -/
  | abandon (message : String)
  | transaction (steps : List Step)

mutual

def Step.run (session : Session) : Step → Exchange Value
  | .query template parameters => session.query template parameters
  | .select template parameters shape =>
      match shape.transformer with
      | .ok transformer => session.select template parameters transformer
      | .error failure => throw failure
  | .selectRow template parameters => session.selectRow template parameters
  | .selectColumn template parameters => .list <$> session.selectCells template parameters
  | .selectPairs template parameters => session.selectPairs template parameters
  | .selectCell template parameters => session.selectCell template parameters
  | .expand template parameters => .text <$> session.expand template parameters
  | .begin => do
      session.begin
      return .null
  | .commit => do
      session.commit
      return .null
  | .rollback => do
      session.rollback
      return .null
  | .abandon message => throw (.application message)
  | .transaction steps => .list <$> session.transaction (Step.runAll session steps)

/-- Runs steps until one of them fails. -/
def Step.runAll (session : Session) : List Step → Exchange (List Value)
  | [] => return []
  | step :: rest => do
      let value ← Step.run session step
      let others ← Step.runAll session rest
      return value :: others

end

/-- What a step came to, with all that happened on the way. -/
structure Performance where
  outcome : Except SessionFailure Value
  events : List Event
  records : List LogRecord

/-- Runs a step on a connection with the given replies to come, and tells which replies are left. -/
def Step.perform (session : Session) (step : Step) (replies : List Reply) :
    Performance × List Reply :=
  let (outcome, channel) := step.run session ⟨replies, [], []⟩
  (⟨outcome, channel.events, channel.records⟩, channel.replies)

/-- Runs steps one after the other, each of them whatever became of those before. -/
def Step.performAll (session : Session) : List Step → List Reply → List Performance
  | [], _ => []
  | step :: rest, replies =>
      let (performance, left) := step.perform session replies
      performance :: Step.performAll session rest left

end SqlTemplate
