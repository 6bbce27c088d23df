import SqlTemplate.Literal.Collection
import SqlTemplate.Literal.Numeric
import SqlTemplate.Template.Tag

/-!
# What a placeholder makes of its parameter

Each tag has a rule of its own, and all but those that look at structure write `NULL` for a missing
value.  A tag without a rule quotes the text of a scalar.  The tag for templates is the only one that
does not finish the job: it hands out the text of a template that is still to be expanded.
-/

namespace SqlTemplate

/-- What a parameter turns into. -/
inductive Presentation where
  | literal (text : List Char)
  /-- A template that takes the place of the placeholder. -/
  | template (text : List Char)
deriving DecidableEq, Repr

def renderPlain (quoter : Quoter) : Value → Except Refusal (List Char)
  | .scalar s => s.literalOrComplain quoter
  | value => .error (.unsuitable .notScalar value.kind)

def renderAsText (quoter : Quoter) : Value → Except Refusal (List Char)
  | .scalar s =>
      match s.text? with
      | .ok text => .ok (quoter.quote text)
      | .error _ => .error .tooManyDigits
  | value => .error (.unsuitable .notScalar value.kind)

/-- Applies a rule to every value but a missing one, which is written `NULL`. -/
def orNull (rule : Value → Except Refusal (List Char)) : Value → Except Refusal (List Char)
  | .null => .ok nullLiteral
  | value => rule value

/-- What a placeholder with the given tag makes of a parameter other than the skip mark. -/
def present (quoter : Quoter) (tag : Tag) (value : Value) : Except Refusal Presentation :=
  match tag with
  | .template =>
      match value with
      | .scalar (.text template) => .ok (.template template.toList)
      | _ => .error (.unsuitable .notTemplate value.kind)
  | .array => .literal <$> renderArray quoter value
  | .identifiers => .literal <$> renderIdentifiers value
  | .integerOrNull => .literal <$> renderIntegerOrNull value
  | .plain => .literal <$> orNull (renderPlain quoter) value
  | .integer => .literal <$> orNull renderInteger value
  | .float => .literal <$> orNull renderFloat value
  | .other _ => .literal <$> orNull (renderAsText quoter) value

end SqlTemplate
