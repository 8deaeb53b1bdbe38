import RestKit.Api.Error
import RestKit.Schema.Check
/-!
# Violations

What a model's own validation reports: violations of rules by field, in a tree of records and
lists. `Report.toApi` gives one message for each field, that of its first violation.
-/
namespace RestKit.Body
open Schema

/-- A violated rule, with the rule's parameters; a message of its own stands in for the phrase. -/
structure Violation where
  code : String
  message : Option String := none
  params : List (String × Json) := []
deriving DecidableEq, Repr

inductive Report where
  | found (violations : List Violation)
  | record (fields : List (String × Report))
  | items (elements : List (Nat × Report))
deriving Inhabited

/-- What a value that violates the rule lacks (`validator_phrase`). -/
def Violation.phrase (v : Violation) : String :=
  let param (name : String) : Option String := (v.params.lookup name).map Json.compact
  if v.code == "length" then
    match param "min", param "max", param "equal" with
    | _, _, some n => "must be exactly " ++ n ++ " characters long"
    | some min, none, none => "must have a minimum length of " ++ min
    | none, some max, none => "must have a maximum length of " ++ max
    | some min, some max, none => "must be between " ++ min ++ " and " ++ max ++ " characters long"
    | none, none, none => "has an invalid length"
  else if v.code == "range" then
    match param "min", param "max" with
    | some min, some max => "must be between " ++ min ++ " and " ++ max
    | some min, none => "must be greater than or equal to " ++ min
    | none, some max => "must be less than or equal to " ++ max
    | none, none => "is out of range"
  else if v.code == "email" then "must be a valid email"
  else if v.code == "url" then "must be a valid URL"
  else if v.code == "required" then "This field is required"
  else "failed on the '" ++ v.code ++ "' validation"

def Violation.text (v : Violation) : String := v.message.getD v.phrase

mutual
/-- The messages of a report, by path (`collect_validation_errors`). -/
def Report.messages (path : String) : Report → FieldErrors
  | .found [] => []
  | .found (v :: _) => [(path, v.text)]
  | .record fields => Report.fieldMessages path fields
  | .items elements => Report.itemMessages path elements

def Report.fieldMessages (path : String) : List (String × Report) → FieldErrors
  | [] => []
  | (name, r) :: rest => r.messages (joinPath path name) ++ Report.fieldMessages path rest

def Report.itemMessages (path : String) : List (Nat × Report) → FieldErrors
  | [] => []
  | (i, r) :: rest => r.messages (itemPath path i) ++ Report.itemMessages path rest
end

/-- The error of the violations of a record's fields (`from_validation_errors`). -/
def violationError (fields : List (String × Report)) : ApiError :=
  .invalidRequest "Validation failed" (Report.fieldMessages "" fields)

end RestKit.Body
