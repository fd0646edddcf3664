import Formwright.Text.Utf8
import Formwright.Value.Display

/-!
Issues found while descriptors are read. An issue has a place, a cause and the
value it was found in; a rejection is the list of all of them, in the order of
the descriptors and of their declared fields, under the title of what was read.
-/

namespace Formwright

/-- A step from a value to a part of it. -/
inductive Step where
  | key (name : Text)
  | index (n : Nat)
  deriving DecidableEq

inductive Cause where
  | missing
  | notRecord (className : Text)
  | notText
  | notUnicode
  | notInteger
  | integerSyntax
  | integerSize
  | fraction
  | notFinite
  | notReal
  | realSyntax
  | notFlag
  | flagSyntax
  | notList
  | otherLiteral (expected : Text)
  | frozen
  deriving DecidableEq

namespace Cause

def code : Cause → Text
  | missing => lit "missing"
  | notRecord _ => lit "model_type"
  | notText => lit "string_type"
  | notUnicode => lit "string_unicode"
  | notInteger => lit "int_type"
  | integerSyntax => lit "int_parsing"
  | integerSize => lit "int_parsing_size"
  | fraction => lit "int_from_float"
  | notFinite => lit "finite_number"
  | notReal => lit "float_type"
  | realSyntax => lit "float_parsing"
  | notFlag => lit "bool_type"
  | flagSyntax => lit "bool_parsing"
  | notList => lit "list_type"
  | otherLiteral _ => lit "literal_error"
  | frozen => lit "frozen_instance"

def message : Cause → Text
  | missing => lit "Field required"
  | notRecord className => lit "Input should be a valid dictionary or instance of " ++ className
  | notText => lit "Input should be a valid string"
  | notUnicode =>
    lit "Input should be a valid string, unable to parse raw data as a unicode string"
  | notInteger => lit "Input should be a valid integer"
  | integerSyntax =>
    lit "Input should be a valid integer, unable to parse string as an integer"
  | integerSize => lit "Unable to parse input string as an integer, exceeded maximum size"
  | fraction => lit "Input should be a valid integer, got a number with a fractional part"
  | notFinite => lit "Input should be a finite number"
  | notReal => lit "Input should be a valid number"
  | realSyntax => lit "Input should be a valid number, unable to parse string as a number"
  | notFlag => lit "Input should be a valid boolean"
  | flagSyntax => lit "Input should be a valid boolean, unable to interpret input"
  | notList => lit "Input should be a valid list"
  | otherLiteral expected => lit "Input should be " ++ expected.quoted
  | frozen => lit "Instance is frozen"

end Cause

structure Issue where
  place : List Step
  cause : Cause
  /-- The value at the place, or for a missing member the mapping that lacks it. -/
  input : Value

/-- All issues of one reading. -/
structure Rejection where
  title : Text
  issues : List Issue

namespace Step

def written : Step → Text
  | key name => name
  | index n => Text.ofNat n

end Step

namespace Issue

def within (step : Step) (issue : Issue) : Issue :=
  { issue with place := step :: issue.place }

/-- The literal form of a value, or a stand-in when an integer in it is too long. -/
def shown (v : Value) : Text :=
  match v.literal with
  | .ok t => t
  | .error _ => lit "<unprintable " ++ v.typeName ++ lit " object>"

/-- A text of more than 50 bytes is cut to its first 25 and its last 24 bytes. -/
def abridged (t : Text) : Text :=
  if t.utf8Size ≤ 50 then t else t.takeUtf8 25 ++ lit "..." ++ t.takeEndUtf8 24

/-- The three lines of an issue in a report. -/
def report (issue : Issue) : List Text :=
  let cause := issue.cause
  [Text.joinWith (lit ".") (issue.place.map Step.written),
    lit "  " ++ cause.message ++ lit " [type=" ++ cause.code ++ lit ", input_value=" ++
      abridged (shown issue.input) ++ lit ", input_type=" ++ issue.input.typeName ++ lit "]",
    lit "    For further information visit https://errors.pydantic.dev/2.14/v/" ++ cause.code]

end Issue

namespace Rejection

/-- How many issues there are, and in what. -/
def headline (r : Rejection) : Text :=
  let count := r.issues.length
  Text.ofNat count ++ (if count = 1 then lit " validation error for " else
    lit " validation errors for ") ++ r.title

/-- The headline and every issue. -/
def report (r : Rejection) : Text :=
  Text.ofLines (r.headline :: r.issues.flatMap Issue.report)

end Rejection

/-- The outcome of reading: a result, or every issue found. -/
abbrev Reading (α : Type) := Except (List Issue) α

namespace Reading

variable {α β γ : Type}

/-- Both results, or the issues of both readings in order. -/
def both : Reading α → Reading β → Reading (α × β)
  | .ok a, .ok b => .ok (a, b)
  | .ok _, .error later => .error later
  | .error issues, .ok _ => .error issues
  | .error issues, .error later => .error (issues ++ later)

/-- The results of a list of readings, or the issues of all of them in order. -/
def all : List (Reading α) → Reading (List α)
  | [] => .ok []
  | reading :: rest => (both reading (all rest)).map fun (a, as) => a :: as

/-- A reading of a part, its issues placed below a step. -/
def within (step : Step) (reading : Reading α) : Reading α :=
  reading.mapError (·.map (Issue.within step))

def refuse (cause : Cause) (input : Value) : Reading α :=
  .error [⟨[], cause, input⟩]

/-- A reading of a single value, refused with a cause. -/
def ofCause (input : Value) : Except Cause α → Reading α
  | .ok a => .ok a
  | .error cause => refuse cause input

end Reading

end Formwright
