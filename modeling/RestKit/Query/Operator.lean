import RestKit.Json.Basic
/-!
# Operators of the query language

The thirteen keywords, their spelling in the store's documents, and the classes of operands they
take. `Operator.parse?` and `Operator.name` are inverse.
-/
namespace RestKit.Query

/-- The keywords of the query language (`Operator`). -/
inductive Operator where
  | eq | neq | gt | gte | lt | lte | inq | nin | and | or | like | nlike | exists
deriving DecidableEq, Repr

namespace Operator

/-- All operators, in declared order. -/
def all : List Operator :=
  [.eq, .neq, .gt, .gte, .lt, .lte, .inq, .nin, .and, .or, .like, .nlike, .exists]

def name : Operator → String
  | .eq => "eq"
  | .neq => "neq"
  | .gt => "gt"
  | .gte => "gte"
  | .lt => "lt"
  | .lte => "lte"
  | .inq => "inq"
  | .nin => "nin"
  | .and => "and"
  | .or => "or"
  | .like => "like"
  | .nlike => "nlike"
  | .exists => "exists"

/-- The operator of a keyword; case matters (`Operator::parse`). -/
def parse? (key : String) : Option Operator := all.find? fun op => op.name == key

/-- The spelling in the store's documents (`to_document`). -/
def document : Operator → String
  | .eq => "$eq"
  | .neq => "$ne"
  | .gt => "$gt"
  | .gte => "$gte"
  | .lt => "$lt"
  | .lte => "$lte"
  | .inq => "$in"
  | .nin => "$nin"
  | .and => "$and"
  | .or => "$or"
  | .like => "$regex"
  | .nlike => "$not"
  | .exists => "$exists"

/-- Combines predicates instead of testing a field (`is_logical`). -/
def isLogical : Operator → Bool
  | .and | .or => true
  | _ => false

/-- Takes a list (`requires_array`). -/
def requiresArray : Operator → Bool
  | .and | .or | .inq | .nin => true
  | _ => false

/-- Takes a pattern, and may stand beside pattern options (`is_pattern`). -/
def isPattern : Operator → Bool
  | .like | .nlike => true
  | _ => false

/-- An operator with the properties that decide what it takes. -/
def toJson (op : Operator) : Json :=
  .ofPairs [("name", .string op.name), ("document", .string op.document),
    ("logical", .bool op.isLogical), ("array", .bool op.requiresArray),
    ("pattern", .bool op.isPattern), ("index", .nat (all.idxOf op)),
    ("serialized", .string op.name)]

end Operator

/-- The key of pattern options beside `like` and `nlike`. -/
def optionsKey : String := "options"

/-- Whether a key makes an object a map of operators. -/
def isOperatorKey (key : String) : Bool := (Operator.parse? key).isSome || key == optionsKey

/-- Field names that a projection may always include or exclude (`is_primary_key`). -/
def isPrimaryKey (name : String) : Bool := name == "_id" || name == "id"

/-- A key that starts with a dollar sign. -/
def isDollar (key : String) : Bool := key.toList.head? == some '$'

end RestKit.Query
