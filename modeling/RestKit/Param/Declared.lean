import RestKit.Api.Error
import RestKit.Http.Header
import RestKit.Param.Value
/-!
# Declared parameters

An endpoint declares its parameters by place, name and type. `ParamSet.parse` reads all of them;
a failure does not end the reading, and all failures are reported together, in declared order.
-/
namespace RestKit

/-- Where a parameter stands in a request (`ParamLocation`). -/
inductive ParamPlace where
  | path
  | query
  | header
deriving DecidableEq, Repr

def ParamPlace.name : ParamPlace → String
  | .path => "path"
  | .query => "query"
  | .header => "header"

/-- A declared parameter (`Param`). -/
structure Param where
  name : String
  type : ParamType
  place : ParamPlace
  required : Bool
  /-- Reads the raw text in place of the type. -/
  parser : Option (String → Except String ParamValue) := none

namespace Param

/-- A path parameter is always required. -/
def path (name : String) (type : ParamType) : Param :=
  { name, type, place := .path, required := true }

def query (name : String) (type : ParamType) : Param :=
  { name, type, place := .query, required := false }

def header (name : String) (type : ParamType) : Param :=
  { name, type, place := .header, required := false }

end Param

/-- What parameters are read from (`RawParams`). -/
structure RawParams where
  path : List (String × String)
  query : List (String × String)
  headers : Http.Headers

/-- The last value of a name. -/
def lastValue? (pairs : List (String × String)) (name : String) : Option String :=
  pairs.reverse.lookup name

/-- The raw text of a parameter. A header has to be visible ASCII. -/
def RawParams.text? (raw : RawParams) (p : Param) : Except String (Option String) :=
  match p.place with
  | .path => .ok (lastValue? raw.path p.name)
  | .query => .ok (lastValue? raw.query p.name)
  | .header =>
    match raw.headers.first? p.name with
    | none => .ok none
    | some bytes =>
      match Http.Headers.visible? bytes with
      | some s => .ok (some s)
      | none => .error "must contain visible ASCII characters only"

/-- Read a text by the parameter's own parser or by its type (`Param::coerce`). -/
def Param.coerce (maxDepth : Nat) (p : Param) (raw : String) : Except String ParamValue :=
  match p.parser with
  | some parse => parse raw
  | none => ParamValue.coerce maxDepth p.type raw

/-- The value of one parameter (`parse_one`). A query flag without a value is true; a blank text
counts as absent. -/
def Param.read (maxDepth : Nat) (p : Param) (raw : RawParams) :
    Except String (Option ParamValue) := do
  let absent : Except String (Option ParamValue) :=
    if p.required then .error "is required" else .ok none
  match ← raw.text? p with
  | none => absent
  | some s =>
    if s.isEmpty && p.place == .query && p.type == .bool && p.parser.isNone then
      return some (.bool true)
    else if Text.isBlankText s then absent
    else return some (← p.coerce maxDepth s)

/-- The values of parameters by place and name (`ParsedParams`). -/
structure ParamSet where
  path : List (String × ParamValue) := []
  query : List (String × ParamValue) := []
  header : List (String × ParamValue) := []

namespace ParamSet

def get? (s : ParamSet) (place : ParamPlace) (name : String) : Option ParamValue :=
  match place with
  | .path => Json.lookup s.path name
  | .query => Json.lookup s.query name
  | .header => Json.lookup s.header name

/-- Put a value; an earlier one of the name is replaced. -/
def insert (s : ParamSet) (place : ParamPlace) (name : String) (v : ParamValue) : ParamSet :=
  match place with
  | .path => { s with path := Json.insert s.path name v }
  | .query => { s with query := Json.insert s.query name v }
  | .header => { s with header := Json.insert s.header name v }

end ParamSet

/-- A parameter that could not be read (`ParamIssue`). -/
structure ParamIssue where
  place : ParamPlace
  name : String
  message : String
deriving DecidableEq, Repr

def ParamIssue.toJson (i : ParamIssue) : Json :=
  .ofPairs [("location", .string i.place.name), ("name", .string i.name),
    ("message", .string i.message)]

/-- The issue of a parameter that cannot be read. -/
def Param.issue? (maxDepth : Nat) (raw : RawParams) (p : Param) : Option ParamIssue :=
  match p.read maxDepth raw with
  | .error message => some ⟨p.place, p.name, message⟩
  | .ok _ => none

/-- Put a parameter's value into a set; one that is absent or cannot be read leaves it. -/
def ParamSet.readInto (maxDepth : Nat) (raw : RawParams) (s : ParamSet) (p : Param) : ParamSet :=
  match p.read maxDepth raw with
  | .ok (some v) => s.insert p.place p.name v
  | _ => s

/-- The values of all parameters, or all issues (`parse_params`). -/
def ParamSet.parse (maxDepth : Nat) (params : List Param) (raw : RawParams) :
    Except ApiError ParamSet :=
  let issues := params.filterMap (Param.issue? maxDepth raw)
  if issues.isEmpty then .ok (params.foldl (ParamSet.readInto maxDepth raw) {})
  else .error (.paramErrors (issues.map ParamIssue.toJson))

end RestKit
