import RestKit.Param.Declared
/-!
# Descriptions of parameters

Parameter values as JSON documents: the type, the value, and the views that the value has.
-/
namespace RestKit
open Query

def ParamType.name : ParamType → String
  | .string => "String"
  | .int => "Int"
  | .float => "Float"
  | .bool => "Bool"
  | .date => "Date"
  | .datetime => "DateTime"
  | .objectId => "ObjectId"
  | .filter => "Filter"
  | .predicate => "Where"

/-- A document that was built, or the error that it met. -/
def builtJson {α : Type} (toJson : α → Json) : Except QueryError α → Json
  | .ok x => toJson x
  | .error e => e.toJson

namespace ParamValue

def typeName : ParamValue → String
  | .string _ => "string"
  | .int _ => "int"
  | .float _ => "float"
  | .bool _ => "bool"
  | .date _ => "date"
  | .datetime .. => "datetime"
  | .objectId _ => "objectid"
  | .filter _ => "filter"
  | .predicate _ => "where"
  | .json _ => "json"

/-- The value alone; a filter or a predicate is built first. -/
def valueJson : ParamValue → Json
  | .string s | .objectId s => .string s
  | .int n => .int n
  | .float x => .ofDouble x
  | .bool b => .bool b
  | .date d => .string d.text
  | .datetime t offset => .ofPairs [("local", .string (t.textAt offset)), ("millis", .int t.millis)]
  | .filter b => builtJson Filter.toValue b.build
  | .predicate b => builtJson Where.toValue b.build
  | .json v => v

/-- The names of the views that give something. -/
def views (v : ParamValue) : List String :=
  ([("str", v.string?.isSome), ("i64", v.int?.isSome), ("f64", v.double?.isSome),
    ("bool", v.bool?.isSome), ("date", v.date?.isSome), ("datetime", v.datetime?.isSome),
    ("filter", v.filter?.isSome), ("where", v.predicate?.isSome), ("json", v.json?.isSome)].filter
    (·.2)).map (·.1)

def toJson (v : ParamValue) : Json :=
  .ofPairs [("type", .string v.typeName), ("value", v.valueJson),
    ("number", .ofOption .ofDouble v.double?),
    ("views", .array (v.views.map .string))]

end ParamValue

def ParamSet.toJson (s : ParamSet) : Json :=
  let group (es : List (String × ParamValue)) : Json := .object (es.map fun (k, v) => (k, v.toJson))
  .ofPairs [("path", group s.path), ("query", group s.query), ("header", group s.header)]

end RestKit
