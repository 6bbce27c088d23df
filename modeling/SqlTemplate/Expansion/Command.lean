import SqlTemplate.Expansion.Evaluation

/-!
# Commands on one supply

Whoever holds a supply of parameters may expand several templates, placeholders and blocks against it,
one after the other, take parameters by hand and set the skip flag.  A command that fails does not stop
those after it; they go on with whatever it left.
-/

namespace SqlTemplate

/-- Something to do with a supply. -/
inductive Command where
  | scan (template : List Char)
  | dispatch (tag : Tag)
  /-- Expands a block with the given content. -/
  | resolve (content : List Char)
  | take
  | setSkip (raised : Bool)
deriving DecidableEq, Repr

private def textValue (text : List Char) : Value :=
  .text (String.ofList text)

/-- Carries out a command.  The answer is a text, the parameter that was taken, or nothing. -/
def Command.run (quoter : Quoter) : Command → Expansion Value
  | scan template => textValue <$> expandText quoter template
  | dispatch tag => textValue <$> expandTag quoter tag
  | resolve content => textValue <$> expandContent quoter content
  | take => Expansion.take
  | setSkip raised => do
      Expansion.setSkip raised
      return .null

/-- What a command came to, and the supply that it left. -/
structure Observation where
  outcome : Except Failure Value
  supply : Supply

/-- Carries out commands one after the other. -/
def Command.runAll (quoter : Quoter) : List Command → Supply → List Observation
  | [], _ => []
  | command :: rest, supply =>
      let (outcome, after) := command.run quoter supply
      ⟨outcome, after⟩ :: Command.runAll quoter rest after

end SqlTemplate
