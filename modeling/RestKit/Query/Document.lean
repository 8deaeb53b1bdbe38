import RestKit.Query.Filter
import RestKit.Time.Rfc3339
/-!
# Documents for the store

`Filter.toDocument` translates a filter into the store's query: a document of `$` operators, a
sort, a projection and a page. Operands of fields that hold object ids or dates are converted to
them. Every key is checked again, so that a predicate built by hand cannot smuggle an operator in.
-/
namespace RestKit.Query

/-- What a stored field holds (`FieldType`). -/
inductive FieldType where
  | string | number | boolean | objectId | date | array | object | any
deriving DecidableEq, Repr

/-- What is known of a collection (`QuerySchema`). -/
structure Collection where
  fields : List (String × FieldType) := []
  /-- Fields that an inclusion always gives. -/
  alwaysIncluded : List String := []
  /-- Fields that are never given. -/
  banned : List String := []
  primaryKey : String := "_id"
deriving DecidableEq, Repr

/-- The type of a field; a primary key without a declared type holds object ids (`type_of`). -/
def Collection.typeOf (c : Collection) (field : String) : FieldType :=
  match Json.lookup c.fields field with
  | some t => t
  | none => if field == c.primaryKey then .objectId else .any

/-- A query for the store (`DocumentQuery`). -/
structure DocumentQuery where
  filter : List (String × Json) := []
  sort : List (String × Int) := []
  projection : Option (List (String × Bool)) := none
  limit : Option Nat := none
  skip : Option Nat := none
deriving DecidableEq, Repr

namespace DocumentQuery

def sortJson (q : DocumentQuery) : Json :=
  .array (q.sort.map fun (field, sign) => .array [.string field, .int sign])

def projectionJson (q : DocumentQuery) : Json :=
  .ofOption (fun es => .object (es.map fun (field, shown) => (field, .bool shown))) q.projection

def toJson (q : DocumentQuery) : Json :=
  .ofPairs [("filter", .object q.filter), ("sort", q.sortJson), ("projection", q.projectionJson),
    ("limit", .ofOption .nat q.limit), ("skip", .ofOption .nat q.skip)]

end DocumentQuery

/-! ## Operands -/

/-- Twenty-four hexadecimal digits (`is_object_id`). -/
def isObjectId (s : String) : Bool :=
  s.toList.length = 24 && s.toList.all fun c =>
    c.isDigit || ('a' ≤ c && c ≤ 'f') || ('A' ≤ c && c ≤ 'F')

/-- The object id of a text, as documents hold it (`coerce_object_id`). -/
def coerceObjectId (field : String) (value : Json) : Except QueryError Json :=
  match value with
  | .string s =>
    if isObjectId s then .ok (.object [("$oid", .string (Text.asciiLower s))])
    else .error (.notObjectId field value)
  | _ => .error (.notObjectId field value)

/-- The least magnitude at which an epoch counts milliseconds. -/
def millisThreshold : Nat := 100000000000

/-- The instant of an epoch, in seconds or, from the threshold on, in milliseconds
(`from_epoch`). -/
def instantOfEpoch (n : Int) : Option Time.Instant :=
  if millisThreshold ≤ n.natAbs then Time.Instant.ofMillis? n else Time.Instant.ofSeconds? n

/-- The instant of a text: a date, or else an epoch. -/
def instantOfText (s : String) : Option Time.Instant :=
  match Time.parse? s with
  | some (t, _) => some t
  | none => (Numeral.int64? (Text.trim s)).bind instantOfEpoch

/-- The date of an epoch or of a text (`coerce_date`). -/
def coerceDate (field : String) (value : Json) : Except QueryError Json :=
  let instant? := match value with
    | .string s => instantOfText s
    | .number _ => value.int64?.bind instantOfEpoch
    | _ => none
  match instant? with
  | some t => .ok (.object [("$date", .string t.utcText)])
  | none => .error (.notDate field value)

/-- An operand as the field stores it; `null` is stored by every field (`coerce`). -/
def coerceOperand (c : Collection) (field : String) (value : Json) : Except QueryError Json :=
  if value.isNull then .ok .null
  else match c.typeOf field with
    | .objectId => coerceObjectId field value
    | .date => coerceDate field value
    | _ => .ok value

/-! ## Predicates -/

/-- The pattern options among the operators of a field. -/
def patternOptions (ops : List (String × Operand)) : Option String :=
  match Json.lookup ops optionsKey with
  | some (.scalar (.string o)) => some o
  | _ => none

/-- A pattern with its options beside it. -/
def patternEntries (pattern : Json) (options : Option String) : List (String × Json) :=
  (options.map fun o => ("$options", Json.string o)).toList ++ [("$regex", pattern)]

/-- The document entries of one operator on a field. -/
def translateOperator (c : Collection) (field key : String) (options : Option String)
    (data : Json) : Operator → Except QueryError (List (String × Json))
  | .inq => do
    match data with
    | .array xs => return [(Operator.inq.document, .array (← xs.mapM (coerceOperand c field)))]
    | _ => .error (.operandNotArray key)
  | .nin => do
    match data with
    | .array xs => return [(Operator.nin.document, .array (← xs.mapM (coerceOperand c field)))]
    | _ => .error (.operandNotArray key)
  | .like => .ok (patternEntries data options)
  | .nlike => .ok [(Operator.nlike.document, .object (patternEntries data options))]
  | .exists => .ok [(Operator.exists.document, data)]
  | .and | .or => .error (.logicalOnField key field)
  | op => do return [(op.document, ← coerceOperand c field data)]

/-- The document entries of one entry of a field's map; the pattern options have none of their
own. -/
def translateEntry (c : Collection) (field : String) (options : Option String) (key : String)
    (x : Operand) : Except QueryError (List (String × Json)) := do
  rejectDollar key
  if key == optionsKey then return []
  match Operator.parse? key with
  | none => .error (.unsupportedOperator key)
  | some op =>
    match x with
    | .scalar data => do
      rejectDollarDeep data
      translateOperator c field key options data op
    | _ => .error (.operandMissing key field)

/-- The document of a field's map of operators (`translate_field_ops`). -/
def translateOperators (c : Collection) (field : String) (ops : List (String × Operand)) :
    Except QueryError (List (String × Json)) := do
  let options := patternOptions ops
  let entries ← ops.mapM fun (key, x) => translateEntry c field options key x
  return Json.entriesOf entries.flatten

mutual
/-- The document entries of a predicate, in the predicate's order. -/
def translateEntries (c : Collection) :
    List (String × Operand) → Except QueryError (List (String × Json))
  | [] => .ok []
  | (key, x) :: es => do
    rejectDollar key
    let entry ← match Operator.parse? key, x with
      | some op, .list ws =>
        if op.isLogical then do pure (op.document, Json.array (← translateList c ws))
        else .error (.misplacedOperator op)
      | some op, _ => .error (.misplacedOperator op)
      | none, .scalar v => do
        pure (key, Json.object [(Operator.eq.document, ← coerceOperand c key v)])
      | none, .nested ops => do pure (key, Json.object (← translateOperators c key ops))
      | none, .list _ => .error (.listOnField key)
    let rest ← translateEntries c es
    return entry :: rest
def translateList (c : Collection) : List (List (String × Operand)) → Except QueryError (List Json)
  | [] => .ok []
  | w :: ws => do
    let es ← translateEntries c w
    return .object (Json.entriesOf es) :: (← translateList c ws)
end

/-- The document of a predicate (`translate_where`). -/
def Where.toDocument (c : Collection) (w : Where) : Except QueryError (List (String × Json)) :=
  (translateEntries c w).map Json.entriesOf

/-! ## Projections -/

/-- The projection of an inclusion: the fields asked for and those always given, but no banned one;
if nothing is left of them, the primary key alone. -/
def inclusion (c : Collection) (fields : Dict Bool) : List (String × Bool) :=
  let asked := fields.entries.filter fun f => !c.banned.contains f.1
  let always := (c.alwaysIncluded.filter fun name => !c.banned.contains name).map fun name =>
    (name, true)
  let projection := Json.entriesOf (asked ++ always)
  if projection.any fun f => f.2 && f.1 != c.primaryKey then projection else [(c.primaryKey, true)]

/-- The projection of an exclusion: the fields refused, unless they are always given, and the
banned ones. -/
def exclusion (c : Collection) (fields : Dict Bool) : List (String × Bool) :=
  let refused := fields.entries.filter fun f => !f.2 && !c.alwaysIncluded.contains f.1
  Json.entriesOf (refused ++ c.banned.map fun name => (name, false))

/-- The projection of a filter, if it asks for one (`build_projection`). -/
def projectionOf (c : Collection) (f : Filter) :
    Except QueryError (Option (List (String × Bool))) := do
  f.checkProjection
  f.fields.entries.forM fun (name, _) => rejectDollar name
  if f.fields.entries.any fun e => e.2 && e.1 != c.primaryKey then
    return some (inclusion c f.fields)
  else
    let p := exclusion c f.fields
    return if p.isEmpty then none else some p

/-- The store's query of a filter (`to_document_query`). -/
def Filter.toDocument (f : Filter) (c : Collection) : Except QueryError DocumentQuery := do
  let filter ← match f.predicate with
    | some w => w.toDocument c
    | none => pure []
  let sort ← f.order.mapM fun e => do
    rejectDollar e.field
    return (e.field, e.direction.sign)
  let projection ← projectionOf c f
  return { filter, sort, projection, limit := f.limit, skip := f.skip }

end RestKit.Query
