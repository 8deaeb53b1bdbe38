import RestKit.Query.Document
import RestKit.Query.FilterBuilder
import RestKit.Time.Dashed
import RestKit.Time.Rfc3339
/-!
# Parameter values

The types that a parameter may be declared with, and the values that they have. `coerce` reads a
raw text as a type.
-/
namespace RestKit
open Query

/-- The types that parameters are read as (`ParamType`). -/
inductive ParamType where
  | string | int | float | bool
  /-- A date without a time. -/
  | date
  /-- A date with a time and an offset. -/
  | datetime
  | objectId
  /-- A filter document. -/
  | filter
  /-- A predicate document. -/
  | predicate
deriving DecidableEq, Repr

/-- The value of a parameter (`ParamValue`). -/
inductive ParamValue where
  | string (s : String)
  | int (n : Int)
  | float (x : Double)
  | bool (b : Bool)
  | date (d : Time.Date)
  | datetime (t : Time.Instant) (offset : Int)
  | objectId (id : String)
  | filter (b : FilterBuilder)
  | predicate (b : WhereBuilder)
  /-- Made by a parser of the parameter's own. -/
  | json (v : Json)

namespace ParamValue

def string? : ParamValue → Option String
  | .string s | .objectId s => some s
  | _ => none

def int? : ParamValue → Option Int
  | .int n => some n
  | _ => none

/-- The number of a float or an integer. -/
def double? : ParamValue → Option Double
  | .float x => some x
  | .int n => some (.ofInt n)
  | _ => none

def bool? : ParamValue → Option Bool
  | .bool b => some b
  | _ => none

def date? : ParamValue → Option Time.Date
  | .date d => some d
  | _ => none

def datetime? : ParamValue → Option (Time.Instant × Int)
  | .datetime t offset => some (t, offset)
  | _ => none

def filter? : ParamValue → Option FilterBuilder
  | .filter b => some b
  | _ => none

def predicate? : ParamValue → Option WhereBuilder
  | .predicate b => some b
  | _ => none

def json? : ParamValue → Option Json
  | .json v => some v
  | _ => none

/-! ## Coercion -/

/-- The usual spellings of a truth value (`parse_bool`). -/
def truth? (s : String) : Option Bool :=
  if ["1", "t", "T", "true", "TRUE", "True"].contains s then some true
  else if ["0", "f", "F", "false", "FALSE", "False"].contains s then some false
  else none

/-- Read a raw text as a type (`coerce`). Blanks around the text do not count, except in a string;
nested predicates may be `maxDepth` deep. -/
def coerce (maxDepth : Nat) (type : ParamType) (raw : String) : Except String ParamValue :=
  let text := Text.trim raw
  let want {α : Type} (what : String) (f : α → ParamValue) : Option α → Except String ParamValue
    | some x => .ok (f x)
    | none => .error ("must be " ++ what ++ ", got '" ++ raw ++ "'")
  match type with
  | .string => .ok (.string raw)
  | .int => want "an integer" .int (Numeral.int64? text)
  | .float => want "a number" .float ((Numeral.double? text).filter Double.isFinite)
  | .bool => want "a boolean" .bool (truth? text)
  | .date => want "a date (YYYY-MM-DD)" .date (Time.Date.parse? text)
  | .datetime =>
    want "an RFC 3339 datetime" (fun (t, offset) => .datetime t offset) (Time.parse? text)
  | .objectId =>
    want "a 24-character hex id" .objectId
      (if isObjectId text then some (Text.asciiLower text) else none)
  | .filter =>
    match (do let b ← FilterBuilder.ofJson maxDepth raw; let _ ← b.build; pure b) with
    | .ok b => .ok (.filter b)
    | .error e => .error ("invalid filter: " ++ e.message)
  | .predicate =>
    let b := WhereBuilder.ofJson maxDepth raw
    match b.error with
    | some e => .error ("invalid where: " ++ e.message)
    | none => .ok (.predicate b)

end ParamValue
end RestKit
