import SqlTemplate.Rows.Key

/-!
# Grouping

Things are put into groups under labels, one label for each level.  The levels are part of the type:
a grouping of depth `n + 1` is a list of groupings of depth `n`, each under its own label, and a
grouping of depth zero is the content of one group.

Labels stand in the order in which they were first met.  A label that is met again under another
form keeps its first form.
-/

namespace SqlTemplate

/-- A value together with what it stands for as a key. -/
structure Label where
  value : Value
  key : Key
deriving Repr

/-- Whether two labels name the same group. -/
def Label.same (a b : Label) : Bool :=
  a.key.same b.key

/-- Groups within groups, `n` levels deep. -/
def Grouping (α : Type) : Nat → Type
  | 0 => α
  | n + 1 => List (Label × Grouping α n)

/-- What stands under a label, if anything does. -/
def content? {β : Type} (label : Label) (entries : List (Label × β)) : Option β :=
  (entries.find? fun entry => entry.1.same label).map (·.2)

/-- Changes what stands under a label; a label that is new comes last. -/
def upsert {β : Type} (label : Label) (change : Option β → β) : List (Label × β) → List (Label × β)
  | [] => [(label, change none)]
  | (known, content) :: rest =>
      if known.same label then (known, change (some content)) :: rest
      else (known, content) :: upsert label change rest

namespace Grouping

variable {α : Type}

/-- The grouping as a mapping of mappings. -/
def toValue (content : α → Value) : {n : Nat} → Grouping α n → Value
  | 0, group => content group
  | _ + 1, groups =>
      .map (groups.map fun (label, inner) => (label.value, toValue content inner))

end Grouping

end SqlTemplate
