import Automation.Api.Response
import Automation.Json.Reader

/-!
# Issues with requests

A part of a request that cannot be read has a `Flaw`.  An `Issue` tells the flaw, its place in the
request, and what was found there; all issues with a request are reported together.  What was found
has to be shown with them, and where it has no JSON form the report is an internal error instead.
-/

namespace Automation.Api

/-- What is wrong with a part of a request. -/
inductive Flaw where
  /-- It is not there. -/
  | missing
  /-- It is no text. -/
  | textType
  /-- It is a text with half a pair in it. -/
  | unicode
  /-- It is a text of too few characters. -/
  | tooShort (least : Nat)
  /-- It is a text of too many characters. -/
  | tooLong (most : Nat)
  /-- It is no list. -/
  | listType
  /-- It is no mapping. -/
  | mappingType
  /-- It is no mapping where one with certain fields is needed. -/
  | objectType
  /-- It is no truth value. -/
  | boolType
  /-- It is a word or a number, but not one for a truth value. -/
  | boolParsing
  /-- It does not spell an integer. -/
  | intParsing
  /-- It has too many digits for an integer. -/
  | intSize
  /-- It is an integer below the least one. -/
  | tooSmall (least : Int)
  /-- It is an integer above the greatest one. -/
  | tooLarge (most : Int)
  /-- It is no timestamp, for a reason. -/
  | timestamp (reason : String)
  /-- It is neither a timestamp nor a date, for a reason. -/
  | timestampOrDate (reason : String)
  /-- It is no JSON. -/
  | json (what : Json.Malformation)
deriving DecidableEq, Repr

namespace Flaw

/-- The name of the sort of flaw. -/
def name : Flaw → String
  | .missing => "missing"
  | .textType => "string_type"
  | .unicode => "string_unicode"
  | .tooShort _ => "string_too_short"
  | .tooLong _ => "string_too_long"
  | .listType => "list_type"
  | .mappingType => "dict_type"
  | .objectType => "model_attributes_type"
  | .boolType => "bool_type"
  | .boolParsing => "bool_parsing"
  | .intParsing => "int_parsing"
  | .intSize => "int_parsing_size"
  | .tooSmall _ => "greater_than_equal"
  | .tooLarge _ => "less_than_equal"
  | .timestamp _ => "datetime_parsing"
  | .timestampOrDate _ => "datetime_from_date_parsing"
  | .json _ => "json_invalid"

/-- A number of characters. -/
def characters (n : Nat) : String := s!"{n} character" ++ (if n = 1 then "" else "s")

/-- What is said of the flaw. -/
def message : Flaw → String
  | .missing => "Field required"
  | .textType => "Input should be a valid string"
  | .unicode => "Input should be a valid string, unable to parse raw data as a unicode string"
  | .tooShort n => "String should have at least " ++ characters n
  | .tooLong n => "String should have at most " ++ characters n
  | .listType => "Input should be a valid list"
  | .mappingType => "Input should be a valid dictionary"
  | .objectType => "Input should be a valid dictionary or object to extract fields from"
  | .boolType => "Input should be a valid boolean"
  | .boolParsing => "Input should be a valid boolean, unable to interpret input"
  | .intParsing => "Input should be a valid integer, unable to parse string as an integer"
  | .intSize => "Unable to parse input string as an integer, exceeded maximum size"
  | .tooSmall n => s!"Input should be greater than or equal to {n}"
  | .tooLarge n => s!"Input should be less than or equal to {n}"
  | .timestamp reason => "Input should be a valid datetime, " ++ reason
  | .timestampOrDate reason => "Input should be a valid datetime or date, " ++ reason
  | .json _ => "JSON decode error"

/-- The particulars of the flaw. -/
def context : Flaw → Mapping
  | .tooShort n => [("min_length", .int n)]
  | .tooLong n => [("max_length", .int n)]
  | .tooSmall n => [("ge", .int n)]
  | .tooLarge n => [("le", .int n)]
  | .timestamp reason | .timestampOrDate reason => [("error", .text reason)]
  | .json what => [("error", .text what.message)]
  | _ => []

end Flaw

/-- What is wrong with one part of a request. -/
structure Issue where
  /-- The flaw. -/
  flaw : Flaw
  /-- The place: the part of the request, and the keys and indices that lead on from there. -/
  place : List Value
  /-- What was found there. -/
  found : Value
deriving Repr

/-- A part of a request that was read, or the issues with it. -/
abbrev Checked (α : Type) := Except (List Issue) α

namespace Issue

/-- How an issue is shown. -/
def present (i : Issue) : Value :=
  let shown : Mapping := [("type", .text i.flaw.name), ("loc", .list i.place),
    ("msg", .text i.flaw.message), ("input", i.found)]
  match i.flaw.context with
  | [] => .mapping shown
  | context => .mapping (shown.put "ctx" (.mapping context))

/-- One issue. -/
def single {α : Type} (flaw : Flaw) (place : List Value) (found : Value) : Checked α :=
  .error [⟨flaw, place, found⟩]

/-- The issues with a part. -/
def all {α : Type} : Checked α → List Issue
  | .ok _ => []
  | .error is => is

end Issue

/-- Two parts, with the issues of both. -/
def Checked.both {α β : Type} (x : Checked α) (y : Checked β) : Checked (α × β) :=
  match x, y with
  | .ok a, .ok b => .ok (a, b)
  | x, y => .error (Issue.all x ++ Issue.all y)

/-- The response to a request with issues. -/
def Response.ofIssues (debug : Bool) (issues : List Issue) : Response :=
  .error debug 422 <| Response.errorBody (.text "VALIDATION_ERROR")
    (.text "Request validation failed") (.list (issues.map Issue.present))

end Automation.Api
