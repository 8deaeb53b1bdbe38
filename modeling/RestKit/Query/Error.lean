import RestKit.Json.Fault
import RestKit.Json.Writer
import RestKit.Query.Operator
/-!
# Why a query is refused

One constructor for each cause; `Kind` groups them as clients see them, and `message` gives the
text.
-/
namespace RestKit.Query

/-- Why a query is refused (`FilterError`). -/
inductive QueryError where
  | json (fault : Json.Fault)
  | filterNotObject
  | whereNotObject
  | misplacedOperator (op : Operator)
  | logicalOnField (key field : String)
  | listOnField (field : String)
  | unsupportedOperator (key : String)
  | unsupportedOnField (key field : String)
  | operandNotArray (key : String)
  | elementNotObject (key : String)
  | optionsNotString (field : String)
  | patternNotString (key : String)
  | existsNotBoolean
  | optionsWithoutPattern (field : String)
  | emptyRange (field : String) (min max : Json)
  | operandMissing (key field : String)
  | dollarKey (key : String)
  | emptyField
  | reservedField (name : String)
  | orderElement (found : Json)
  | orderDirection (key : String)
  | orderUnsupported (found : Json)
  | orderExtra (token part : String)
  | orderWord (word : String)
  | orderEmpty
  | fieldsFlag (name : String) (found : Json)
  | fieldsElement
  | fieldsUnsupported (found : Json)
  | includeNested
  | includeUnsupported (found : Json)
  | includeRelation
  | includeEmpty
  | limit (found : Json)
  | skip (found : Json)
  | pageZero
  | mixedProjection (names : List String)
  | fieldConflict (name : String)
  | tooDeep (max : Nat)
  | notObjectId (field : String) (found : Json)
  | notDate (field : String) (found : Json)
deriving DecidableEq, Repr

/-- The groups of causes. -/
inductive QueryError.Kind where
  | invalidJson | invalidFilter | invalidWhereClause | unsupportedOperator | invalidOperatorData
  | dollarKey | invalidField | invalidOrder | invalidFields | invalidInclude | invalidLimit
  | invalidSkip | mixedProjection | fieldConflict | tooDeep | invalidValue
deriving DecidableEq, Repr

def QueryError.Kind.name : QueryError.Kind → String
  | .invalidJson => "InvalidJson"
  | .invalidFilter => "InvalidFilter"
  | .invalidWhereClause => "InvalidWhereClause"
  | .unsupportedOperator => "UnsupportedOperator"
  | .invalidOperatorData => "InvalidOperatorData"
  | .dollarKey => "DollarKey"
  | .invalidField => "InvalidField"
  | .invalidOrder => "InvalidOrder"
  | .invalidFields => "InvalidFields"
  | .invalidInclude => "InvalidInclude"
  | .invalidLimit => "InvalidLimit"
  | .invalidSkip => "InvalidSkip"
  | .mixedProjection => "MixedProjection"
  | .fieldConflict => "FieldConflict"
  | .tooDeep => "TooDeep"
  | .invalidValue => "InvalidValue"

namespace QueryError

def kind : QueryError → Kind
  | .json _ => .invalidJson
  | .filterNotObject => .invalidFilter
  | .whereNotObject | .misplacedOperator _ | .logicalOnField .. | .listOnField _ =>
    .invalidWhereClause
  | .unsupportedOperator _ | .unsupportedOnField .. => .unsupportedOperator
  | .operandNotArray _ | .elementNotObject _ | .optionsNotString _ | .patternNotString _
  | .existsNotBoolean | .optionsWithoutPattern _ | .emptyRange .. | .operandMissing .. =>
    .invalidOperatorData
  | .dollarKey _ => .dollarKey
  | .emptyField | .reservedField _ => .invalidField
  | .orderElement _ | .orderDirection _ | .orderUnsupported _ | .orderExtra .. | .orderWord _
  | .orderEmpty => .invalidOrder
  | .fieldsFlag .. | .fieldsElement | .fieldsUnsupported _ => .invalidFields
  | .includeNested | .includeUnsupported _ | .includeRelation | .includeEmpty => .invalidInclude
  | .limit _ => .invalidLimit
  | .skip _ | .pageZero => .invalidSkip
  | .mixedProjection _ => .mixedProjection
  | .fieldConflict _ => .fieldConflict
  | .tooDeep _ => .tooDeep
  | .notObjectId .. | .notDate .. => .invalidValue

/-- A list of names as messages show it. -/
def nameList (names : List String) : String :=
  "[" ++ String.intercalate ", " (names.map Json.debugText) ++ "]"

/-- A value that should have been a count. -/
def countText : Json → String
  | .string s => "'" ++ s ++ "'"
  | j => j.compact

def message : QueryError → String
  | .json f => "JSON parsing error: " ++ f.message
  | .filterNotObject => "Invalid filter: filter must be a JSON object"
  | .whereNotObject => "Invalid WHERE clause: WHERE must be an object"
  | .misplacedOperator op =>
    "Invalid WHERE clause: operator '" ++ op.name ++ "' must be applied to a field"
  | .logicalOnField key field =>
    "Invalid WHERE clause: logical operator '" ++ key ++ "' cannot be applied to field '" ++ field
      ++ "'"
  | .listOnField field =>
    "Invalid WHERE clause: field '" ++ field ++ "' cannot hold a list of predicates"
  | .unsupportedOperator key => "Unsupported operator: " ++ key
  | .unsupportedOnField key field =>
    "Unsupported operator: " ++ key ++ " (on field '" ++ field ++ "')"
  | .operandNotArray key => "Invalid operator data: " ++ key ++ " requires an array"
  | .elementNotObject key =>
    "Invalid operator data: every " ++ key ++ " element must be an object"
  | .optionsNotString field => "Invalid operator data: " ++ field ++ ".options must be a string"
  | .patternNotString key => "Invalid operator data: " ++ key ++ " requires a string pattern"
  | .existsNotBoolean => "Invalid operator data: exists requires a boolean"
  | .optionsWithoutPattern field =>
    "Invalid operator data: " ++ field ++ ".options is only valid alongside like/nlike"
  | .emptyRange field min max =>
    "Invalid operator data: between on '" ++ field ++ "' has min " ++ min.compact
      ++ " greater than max " ++ max.compact
  | .operandMissing key field =>
    "Invalid operator data: " ++ key ++ " on '" ++ field ++ "' requires a value"
  | .dollarKey key => "Keys starting with '$' are not allowed: " ++ key
  | .emptyField => "Invalid field name: field name cannot be empty"
  | .reservedField name => "Invalid field name: '" ++ name ++ "' is a reserved operator"
  | .orderElement found =>
    "Invalid order: expected \"field ASC|DESC\", got " ++ found.compact
  | .orderDirection key => "Invalid order: direction for '" ++ key ++ "' must be a string"
  | .orderUnsupported found => "Invalid order: unsupported order value " ++ found.compact
  | .orderExtra token part =>
    "Invalid order: unexpected token '" ++ token ++ "' in '" ++ part ++ "'"
  | .orderWord word => "Invalid order: direction must be ASC or DESC, got '" ++ word ++ "'"
  | .orderEmpty => "Invalid order: order field cannot be empty"
  | .fieldsFlag name found =>
    "Invalid fields: '" ++ name ++ "' must map to a boolean, got " ++ found.compact
  | .fieldsElement => "Invalid fields: field list must contain strings"
  | .fieldsUnsupported found => "Invalid fields: unsupported fields value " ++ found.compact
  | .includeNested => "Invalid include: nested include arrays are not allowed"
  | .includeUnsupported found => "Invalid include: unsupported include value " ++ found.compact
  | .includeRelation => "Invalid include: include object requires a 'relation' string"
  | .includeEmpty => "Invalid include: relation cannot be empty"
  | .limit found => "Invalid limit: must be a non-negative integer, got " ++ countText found
  | .skip found => "Invalid skip: must be a non-negative integer, got " ++ countText found
  | .pageZero => "Invalid skip: page numbers start at 1"
  | .mixedProjection names =>
    "Filter fields cannot mix inclusion and exclusion: " ++ nameList names
  | .fieldConflict name => "Conflicting projection for field '" ++ name ++ "'"
  | .tooDeep max => "WHERE clause exceeds maximum nesting depth of " ++ toString max
  | .notObjectId field found =>
    "Invalid value for field '" ++ field ++ "': expected a 24-character hex ObjectId, got "
      ++ found.compact
  | .notDate field found =>
    "Invalid value for field '" ++ field
      ++ "': expected an RFC3339 date or epoch timestamp, got " ++ found.compact

def toJson (e : QueryError) : Json := .ofError e.kind.name e.message

end QueryError
end RestKit.Query
