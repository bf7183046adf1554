import FeatureFlags.Json
import FeatureFlags.Text.Blank
import FeatureFlags.Timestamp.Reader

/-!
# Validation of JSON data

Reading a record from JSON either gives the record or says everything that is wrong with the data,
in the order in which the fields are declared. An issue is a flaw, the path to the value that has
it, and the value.

`Checked` collects: of two readings put side by side the issues of both are kept. A check of a
whole record runs only on a record, hence only when no field has an issue.
-/

namespace FeatureFlags

/-- A step of the path to a value. -/
inductive Step where
  | member (name : String)
  | item (index : Nat)
deriving DecidableEq, Repr

/-- What is wrong with a value. -/
inductive Flaw where
  | missing
  | notRecord (model : String)
  | noFields
  | notString
  | tooShort (least : Nat)
  | tooLong (most : Nat)
  | notBool
  | unclearBool
  | notMember (choices : List String)
  | notLiteral (choices : List String)
  | notList
  | notObject
  | notTimestamp
  | badTimestamp (reason : Timestamp.Reason)
  | badCount (reason : Timestamp.Reason)
  | refused (reason : String)
  | notInt
  | unclearInt
  | fractionalInt
  | hugeInt
  | notNumber
  | unclearNumber
  | notFinite
  | unexpected
  | undecodable (offset : Nat) (defect : Json.Defect)
deriving DecidableEq, Repr

/-- A choice between quoted words. -/
def choiceText : List String → String
  | [] => ""
  | [a] => "'" ++ a ++ "'"
  | [a, b] => "'" ++ a ++ "' or '" ++ b ++ "'"
  | a :: rest => "'" ++ a ++ "', " ++ choiceText rest

namespace Flaw

/-- The word by which a kind of flaw is known. -/
def code : Flaw → String
  | .missing => "missing"
  | .notRecord _ => "model_type"
  | .noFields => "model_attributes_type"
  | .notString => "string_type"
  | .tooShort _ => "string_too_short"
  | .tooLong _ => "string_too_long"
  | .notBool => "bool_type"
  | .unclearBool => "bool_parsing"
  | .notMember _ => "enum"
  | .notLiteral _ => "literal_error"
  | .notList => "list_type"
  | .notObject => "dict_type"
  | .notTimestamp => "datetime_type"
  | .badTimestamp _ => "datetime_from_date_parsing"
  | .badCount _ => "datetime_parsing"
  | .refused _ => "value_error"
  | .notInt => "int_type"
  | .unclearInt => "int_parsing"
  | .fractionalInt => "int_from_float"
  | .hugeInt => "int_parsing_size"
  | .notNumber => "float_type"
  | .unclearNumber => "float_parsing"
  | .notFinite => "finite_number"
  | .unexpected => "extra_forbidden"
  | .undecodable .. => "json_invalid"

/-- A count with its noun. -/
def characters (n : Nat) : String :=
  toString n ++ (if n == 1 then " character" else " characters")

/-- The flaw in words. -/
def message : Flaw → String
  | .missing => "Field required"
  | .notRecord model => "Input should be a valid dictionary or instance of " ++ model
  | .noFields => "Input should be a valid dictionary or object to extract fields from"
  | .notString => "Input should be a valid string"
  | .tooShort least => "String should have at least " ++ characters least
  | .tooLong most => "String should have at most " ++ characters most
  | .notBool => "Input should be a valid boolean"
  | .unclearBool => "Input should be a valid boolean, unable to interpret input"
  | .notMember choices => "Input should be " ++ choiceText choices
  | .notLiteral choices => "Input should be " ++ choiceText choices
  | .notList => "Input should be a valid list"
  | .notObject => "Input should be a valid dictionary"
  | .notTimestamp => "Input should be a valid datetime"
  | .badTimestamp reason => "Input should be a valid datetime or date, " ++ reason.message
  | .badCount reason => "Input should be a valid datetime, " ++ reason.message
  | .refused reason => "Value error, " ++ reason
  | .notInt => "Input should be a valid integer"
  | .unclearInt => "Input should be a valid integer, unable to parse string as an integer"
  | .fractionalInt => "Input should be a valid integer, got a number with a fractional part"
  | .hugeInt => "Unable to parse input string as an integer, exceeded maximum size"
  | .notNumber => "Input should be a valid number"
  | .unclearNumber => "Input should be a valid number, unable to parse string as a number"
  | .notFinite => "Input should be a finite number"
  | .unexpected => "Extra inputs are not permitted"
  | .undecodable .. => "JSON decode error"

/-- What a reader of the issue may want to know besides: a bound, the choices, an inner error. -/
def context? : Flaw → Option Json
  | .tooShort least => some (.object [("min_length", .int least)])
  | .tooLong most => some (.object [("max_length", .int most)])
  | .notMember choices => some (.object [("expected", .string (choiceText choices))])
  | .notLiteral choices => some (.object [("expected", .string (choiceText choices))])
  | .badTimestamp reason => some (.object [("error", .string reason.message)])
  | .badCount reason => some (.object [("error", .string reason.message)])
  | .refused _ => some (.object [("error", .object [])])
  | .undecodable _ defect => some (.object [("error", .string defect.message)])
  | _ => none

end Flaw

/-- A flaw of the value at a path. -/
structure Issue where
  flaw : Flaw
  path : List Step
  input : Json

/-- A value, or everything that is wrong with what it was read from. -/
inductive Checked (α : Type) where
  | accepted (a : α)
  | rejected (issues : List Issue)

namespace Checked

variable {α β : Type}

def map (f : α → β) : Checked α → Checked β
  | .accepted a => .accepted (f a)
  | .rejected issues => .rejected issues

/-- Applies a checked function to a checked argument; the issues of both are kept, in order. -/
def ap : Checked (α → β) → Checked α → Checked β
  | .accepted f, .accepted a => .accepted (f a)
  | .accepted _, .rejected issues => .rejected issues
  | .rejected issues, .accepted _ => .rejected issues
  | .rejected first, .rejected second => .rejected (first ++ second)

/-- Goes on with an accepted value. -/
def andThen (c : Checked α) (f : α → Checked β) : Checked β :=
  match c with
  | .accepted a => f a
  | .rejected issues => .rejected issues

/-- One issue with the value itself. -/
def flawed (flaw : Flaw) (input : Json) : Checked α := .rejected [⟨flaw, [], input⟩]

/-- Lengthens the path of every issue by a first step. -/
def under (step : Step) : Checked α → Checked α
  | .accepted a => .accepted a
  | .rejected issues => .rejected (issues.map fun i => { i with path := step :: i.path })

/-- Reads every item of a list, under its index. -/
def items (read : Json → Checked α) : Nat → List Json → Checked (List α)
  | _, [] => .accepted []
  | i, v :: rest =>
    ((((read v).under (.item i)).map List.cons)).ap (items read (i + 1) rest)

/-- Reads the value of every member, under its name. -/
def members (read : Json → Checked α) : List (String × Json) → Checked (List (String × α))
  | [] => .accepted []
  | (name, v) :: rest =>
    (((read v).under (.member name)).map fun a => List.cons (name, a)).ap (members read rest)

end Checked

end FeatureFlags
