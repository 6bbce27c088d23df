import SqlTemplate.Profile
import SqlTemplate.Value

/-!
# Fields of profiles

A profile is made from named fields; every field that does not fit is reported, in the order of the
fields' names, and a finished profile does not change any more.

The fields are checked by a third-party package, pydantic.  What stands here restates its rules: which
values it takes for a switch, and by which codes it reports the others.  A switch may be given as a
truth value, as a zero or a one of any type of number, or as one of the usual words in letters of
either case, be it a text or the bytes of one.  An expander starts from a finished profile, and what is
known of expansions does not rest on how it was made.
-/

namespace SqlTemplate

open SqlTemplate.Number

/-! ## Problems -/

/-- What is wrong with a field. -/
inductive FieldProblem where
  /-- The value is none of the allowed words. -/
  | notAllowed
  /-- The value could be a switch, but its content is none of the two settings. -/
  | notASwitch
  /-- The value is of a kind that no switch has, or a number that is no integer of 64 bits. -/
  | wrongKind
  /-- There is no such field. -/
  | unknownField
  /-- The profile is finished. -/
  | frozen
deriving DecidableEq, Repr

/-- The code of a problem. -/
def FieldProblem.code : FieldProblem → String
  | notAllowed => "literal_error"
  | notASwitch => "bool_parsing"
  | wrongKind => "bool_type"
  | unknownField => "extra_forbidden"
  | frozen => "frozen_instance"

/-- A field and what is wrong with it. -/
structure FieldError where
  field : String
  problem : FieldProblem
deriving DecidableEq, Repr

/-! ## Values of fields -/

/-- The target that a value names. -/
def Target.ofValue : Value → Except FieldProblem Target
  | .scalar (.text "mysql") => .ok .mysql
  | .scalar (.text "sqlite") => .ok .sqlite
  | _ => .error .notAllowed

/-- The words that turn a switch off. -/
def offWords : List String := ["0", "off", "f", "false", "n", "no"]

/-- The words that turn a switch on. -/
def onWords : List String := ["1", "on", "t", "true", "y", "yes"]

/-- The setting that a word stands for, in ASCII letters of either case. -/
def switchOfWord (word : String) : Except FieldProblem Bool :=
  let word := word.toLower
  if word ∈ offWords then .ok false
  else if word ∈ onWords then .ok true
  else .error .notASwitch

/-- The setting that a number with no fraction stands for. -/
def switchOfInt (i : Int) : Except FieldProblem Bool :=
  if i = 0 then .ok false else if i = 1 then .ok true else .error .notASwitch

/-- The least integer that is too great for 64 bits with a sign. -/
def integerLimit : Int := Nat.pow 2 63

/-- The setting that a double stands for.  A double with a fraction is not taken for a setting at
all, nor is one that reaches the limits of 64 bits with a sign. -/
def switchOfDouble (x : Binary64) : Except FieldProblem Bool :=
  match x.toInt? with
  | some i => if -integerLimit < i ∧ i < integerLimit then switchOfInt i else .error .wrongKind
  | none => .error .wrongKind

/-- The setting of a switch that a value stands for.  Bytes are read one character each; since all
words are ASCII, no other way to read them finds more words. -/
def switchOfValue : Value → Except FieldProblem Bool
  | .scalar (.bool b) => .ok b
  | .scalar (.int i) =>
      if -integerLimit ≤ i ∧ i < integerLimit then switchOfInt i else .error .wrongKind
  | .scalar (.float x) => switchOfDouble x
  | .scalar (.decimal d) => switchOfDouble d.toBinary64
  | .scalar (.text word) => switchOfWord word
  | .bytes octets => switchOfWord (String.ofList (octets.map fun octet => Char.ofNat octet.toNat))
  | _ => .error .wrongKind

/-! ## Profiles from fields -/

namespace Profile

/-- The profile with one field set. -/
def setField (profile : Profile) (field : String) (value : Value) : Except FieldProblem Profile :=
  match field with
  | "target" => (Target.ofValue value).map fun target => { profile with target }
  | "log_expanded_sql" =>
      (switchOfValue value).map fun logExpanded => { profile with logExpanded }
  | "warn_unconsumed_params" =>
      (switchOfValue value).map fun warnUnconsumed => { profile with warnUnconsumed }
  | _ => .error .unknownField

/-- The fields that a profile cannot be given, with their problems. -/
def fieldErrors (fields : List (String × Value)) : List FieldError :=
  fields.filterMap fun (field, value) =>
    match ({} : Profile).setField field value with
    | .ok _ => none
    | .error problem => some ⟨field, problem⟩

/-- The profile with the given fields and the usual settings for all others. -/
def ofFields (fields : List (String × Value)) : Except (List FieldError) Profile :=
  match fieldErrors fields with
  | [] =>
      .ok (fields.foldl (fun profile (field, value) =>
        match profile.setField field value with
        | .ok changed => changed
        | .error _ => profile) {})
  | errors => .error (errors.mergeSort fun a b => decide (a.field ≤ b.field))

/-- An attempt to change a finished profile. -/
def assign (_profile : Profile) (field : String) (_value : Value) : Except (List FieldError) Profile :=
  .error [⟨field, .frozen⟩]

end Profile

end SqlTemplate
