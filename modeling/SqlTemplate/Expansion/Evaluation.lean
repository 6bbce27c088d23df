import SqlTemplate.Expansion.Supply
import SqlTemplate.Literal.Presentation
import SqlTemplate.Template.Tree

/-!
# Expanding a template

The nodes of a template are expanded from left to right.  A block expands all of its alternatives, so
that every placeholder takes its parameter, and keeps the text of the first one; it is dropped if its
gate takes the skip mark or if the mark is taken anywhere inside, inner blocks excepted.

A parameter may itself be a template.  Since it has to be taken first, the templates nested inside
each other can be no more than the parameters still pending, and that number bounds the recursion;
`expandText` chooses it.
-/

namespace SqlTemplate

/-- A placeholder: takes a parameter and renders it.  The skip mark leaves no text and raises the
skip flag. -/
def expandPlaceholder (quoter : Quoter) (expandNested : List Char → Expansion (List Char))
    (tag : Tag) : Expansion (List Char) := do
  match ← Expansion.take with
  | .skip =>
      Expansion.setSkip true
      return []
  | value =>
      match ← Expansion.ofRule tag (present quoter tag value) with
      | .literal text => return text
      | .template text => expandNested text

/-- The gate of a block: takes a parameter if the block has a gate, and tells whether the block is
dropped. -/
def passGate (gated : Bool) : Expansion Bool := do
  if gated then
    match ← Expansion.take with
    | .skip => return true
    | _ => return false
  else return false

/-- The text of a block that is kept. -/
def blockText : List (List Char) → List Char
  | [] => []
  | first :: _ => ' ' :: first ++ [' ']

/-- A block whose alternatives are expanded by the given step. -/
def expandBlock (gated : Bool) (alternatives : Expansion (List (List Char))) :
    Expansion (List Char) := do
  let dropped ← passGate gated
  let (texts, raised) ← Expansion.isolateSkip alternatives
  return if dropped || raised then [] else blockText texts

mutual

def Node.expand (quoter : Quoter) (expandNested : List Char → Expansion (List Char)) :
    Node → Expansion (List Char)
  | .verbatim text => return text
  | .placeholder tag => expandPlaceholder quoter expandNested tag
  | .block gated alternatives =>
      expandBlock gated (Template.expandAll quoter expandNested alternatives)
  | .fault fault => throw (.malformed fault)

def Template.expand (quoter : Quoter) (expandNested : List Char → Expansion (List Char)) :
    List Node → Expansion (List Char)
  | [] => return []
  | node :: rest => do
      let text ← Node.expand quoter expandNested node
      let others ← Template.expand quoter expandNested rest
      return text ++ others

def Template.expandAll (quoter : Quoter) (expandNested : List Char → Expansion (List Char)) :
    List (List Node) → Expansion (List (List Char))
  | [] => return []
  | template :: rest => do
      let text ← Template.expand quoter expandNested template
      let others ← Template.expandAll quoter expandNested rest
      return text :: others

end

/-- Expands a template in which at most `depth` templates are nested inside each other. -/
def expandWithin (quoter : Quoter) : Nat → List Char → Expansion (List Char)
  | 0, text => Template.expand quoter (fun _ => return []) (Template.read text)
  | depth + 1, text => Template.expand quoter (expandWithin quoter depth) (Template.read text)

/-- Runs a step that may expand nested templates, with as many levels as there are parameters. -/
def withNesting {α : Type} (step : Nat → Expansion α) : Expansion α := fun supply =>
  step supply.pending.length supply

def expandText (quoter : Quoter) (text : List Char) : Expansion (List Char) :=
  withNesting fun depth => expandWithin quoter depth text

def expandTag (quoter : Quoter) (tag : Tag) : Expansion (List Char) :=
  withNesting fun depth => expandPlaceholder quoter (expandWithin quoter depth) tag

/-- Expands a block with the given content. -/
def expandContent (quoter : Quoter) (content : List Char) : Expansion (List Char) :=
  withNesting fun depth => (Node.ofContent content).expand quoter (expandWithin quoter depth)

end SqlTemplate
