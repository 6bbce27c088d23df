import SqlTemplate.Expansion.Failure
import SqlTemplate.Value

/-!
# Reports

A report is what a caller sees of an error: a text, and for the errors of expansion a code and the
details that say where it happened, in a form that can be sent on as it stands.
-/

namespace SqlTemplate

/-- An error as a caller sees it. -/
inductive Report where
  /-- An error of expansion without a form of its own. -/
  | expansion (message code : String) (details : List (Value × Value))
  | malformed (message : String) (offset : Int)
  | unsuitable (message tag : String) (position : Int) (kind : Kind)
  | underflow (position supplied : Int)
  | configuration (message : String)
  | resultShape (message : String) (key : Option String)

namespace Report

/-- The text of a report. -/
def text : Report → String
  | expansion message _ _ | malformed message _ | configuration message | resultShape message _ =>
      message
  | unsuitable message _ position _ => message ++ " - param " ++ toString position
  | underflow position supplied =>
      "Template needs parameter " ++ toString position ++ " but only " ++ toString supplied ++
        " supplied."

/-- The code of an error of expansion. -/
def code? : Report → Option String
  | expansion _ code _ => some code
  | malformed .. => some "MALFORMED_TEMPLATE"
  | unsuitable .. => some "INVALID_PLACEHOLDER_TYPE"
  | underflow .. => some "PARAMETER_UNDERFLOW"
  | configuration _ | resultShape .. => none

/-- Where an error of expansion happened. -/
def details : Report → List (Value × Value)
  | expansion _ _ details => details
  | malformed _ offset => [(.text "offset", .int offset)]
  | unsuitable _ tag position kind =>
      [(.text "tag", .text tag), (.text "position", .int position),
        (.text "value_type", .text kind.label)]
  | underflow position supplied =>
      [(.text "position", .int position), (.text "supplied", .int supplied)]
  | configuration _ | resultShape .. => []

/-- An error of expansion as a mapping that can be sent on. -/
def response? (report : Report) : Option Value :=
  report.code?.map fun code =>
    .map [(.text "error", .text code), (.text "message", .text report.text),
      (.text "details", .map report.details)]

end Report

/-! ## Failed expansions -/

/-- What the caller of an expansion meets when it fails: a report, or an error of arithmetic, which
has a text and nothing else. -/
inductive Raised where
  | report (told : Report)
  /-- An integer has more digits than may be written. -/
  | tooManyDigits
  /-- No double is near an integer. -/
  | beyondDouble
  /-- Memory has no room for an integer. -/
  | outOfMemory

def Raised.text : Raised → String
  | report told => told.text
  | tooManyDigits => NoLiteral.tooManyDigits.message
  | beyondDouble => "int too large to convert to float"
  | outOfMemory => ""

namespace Failure

/-- What a failed expansion raises on a machine that has room for integers of up to `room` digits.
Whatever the machine, an integer with more than `digitLimit` digits is not written in the end. -/
def raised (room : Nat) : Failure → Raised
  | malformed fault => .report (.malformed fault.message fault.offset)
  | unsuitable complaint tag position kind =>
      .report (.unsuitable complaint.message tag.name position kind)
  | underflow position supplied => .report (.underflow position supplied)
  | tooManyDigits => .tooManyDigits
  | hugeDecimal digits => if digits ≤ room then .tooManyDigits else .outOfMemory
  | beyondDouble => .beyondDouble

/-- The text of a failed expansion. -/
def message (room : Nat) (failure : Failure) : String :=
  (failure.raised room).text

end Failure

end SqlTemplate
