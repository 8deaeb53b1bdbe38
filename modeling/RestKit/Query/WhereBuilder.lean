import RestKit.Json.Reader
import RestKit.Query.Where
import RestKit.Text.Blank
/-!
# Building where predicates

A `WhereBuilder` collects conditions call by call. It keeps the first error of any call and gives
it when it is built, so a chain of calls needs no checks in between. `build` joins the conditions:
one stands alone, several with different keys become one object, others an `and`.
-/
namespace RestKit.Query

/-- A predicate that is put together by calls (`WhereBuilder`). -/
structure WhereBuilder where
  conditions : List Where := []
  /-- Equality is always written `{f: {eq: v}}`. -/
  strict : Bool := false
  error : Option QueryError := none
deriving DecidableEq, Repr, Inhabited

namespace WhereBuilder

/-- An empty builder. -/
def empty : WhereBuilder := {}

def strictEmpty : WhereBuilder := { strict := true }

/-- Keep an error unless there is one already (`fail`). -/
def fail (b : WhereBuilder) (e : QueryError) : WhereBuilder :=
  { b with error := b.error.or (some e) }

def push (b : WhereBuilder) (w : Where) : WhereBuilder :=
  { b with conditions := b.conditions ++ [w] }

/-- Push a predicate unless it is empty (`where_raw`). -/
def whereRaw (b : WhereBuilder) (w : Where) : WhereBuilder :=
  if w.isEmpty then b else b.push w

/-- A builder that holds one predicate (`raw`). -/
def raw (w : Where) : WhereBuilder := empty.whereRaw w

/-- A builder of a parsed predicate, or of the error. -/
def ofValue (maxDepth : Nat) (value : Json) : WhereBuilder :=
  match Where.parse maxDepth value with
  | .ok w => raw w
  | .error e => empty.fail e

def ofJson (maxDepth : Nat) (text : String) : WhereBuilder :=
  match Json.read text with
  | .ok v => ofValue maxDepth v
  | .error f => empty.fail (.json f)

/-- A field name is not blank, has no dollar sign in front and is no keyword (`check_field`). -/
def checkField (field : String) : Except QueryError Unit := do
  if Text.isBlankText field then throw .emptyField
  rejectDollar field
  if (Operator.parse? field).isSome then throw (.reservedField field)

/-- The map of operators of some operand values, after the checks of the field and the values. -/
def operands (field : String) (ops : List (String × Json)) :
    Except QueryError (List (String × Operand)) := do
  checkField field
  ops.forM fun (_, v) => rejectDollarDeep v
  return Json.entriesOf (ops.map fun (k, v) => (k, .scalar v))

/-- Push a condition, or keep its error. -/
def attempt (b : WhereBuilder) : Except QueryError Where → WhereBuilder
  | .ok w => b.push w
  | .error e => b.fail e

/-- A condition of several operators on one field (`op_with`). -/
def opWith (b : WhereBuilder) (field : String) (ops : List (String × Json)) : WhereBuilder :=
  b.attempt ((operands field ops).map fun es => Where.single field (.nested es))

def op (b : WhereBuilder) (field : String) (o : Operator) (value : Json) : WhereBuilder :=
  b.opWith field [(o.name, value)]

def eq (b : WhereBuilder) (field : String) (value : Json) : WhereBuilder :=
  if b.strict then b.op field .eq value
  else b.attempt do
    checkField field
    rejectDollarDeep value
    return Where.single field (.scalar value)

def neq (b : WhereBuilder) (field : String) (value : Json) : WhereBuilder := b.op field .neq value
def gt (b : WhereBuilder) (field : String) (value : Json) : WhereBuilder := b.op field .gt value
def gte (b : WhereBuilder) (field : String) (value : Json) : WhereBuilder := b.op field .gte value
def lt (b : WhereBuilder) (field : String) (value : Json) : WhereBuilder := b.op field .lt value
def lte (b : WhereBuilder) (field : String) (value : Json) : WhereBuilder := b.op field .lte value

def like (b : WhereBuilder) (field pattern : String) : WhereBuilder :=
  b.op field .like (.string pattern)

def likeWithOptions (b : WhereBuilder) (field pattern options : String) : WhereBuilder :=
  b.opWith field [(Operator.like.name, .string pattern), (optionsKey, .string options)]

def nlike (b : WhereBuilder) (field pattern : String) : WhereBuilder :=
  b.op field .nlike (.string pattern)

def isNull (b : WhereBuilder) (field : String) : WhereBuilder := b.eq field .null

def isNotNull (b : WhereBuilder) (field : String) : WhereBuilder := b.op field .neq .null

def exists? (b : WhereBuilder) (field : String) (value : Bool) : WhereBuilder :=
  b.op field .exists (.bool value)

def inq (b : WhereBuilder) (field : String) (values : List Json) : WhereBuilder :=
  b.op field .inq (.array values)

def nin (b : WhereBuilder) (field : String) (values : List Json) : WhereBuilder :=
  b.op field .nin (.array values)

/-- Whether both bounds are numbers and the lower one is greater. -/
def isEmptyRange (min max : Json) : Bool :=
  match min.double?, max.double? with
  | some lo, some hi => hi.lt lo
  | _, _ => false

/-- A range on a field, with its ends or without them (`between`). -/
def between (b : WhereBuilder) (field : String) (min max : Json) (exclusive : Bool) :
    WhereBuilder :=
  if isEmptyRange min max then b.fail (.emptyRange field min max)
  else
    let (lower, upper) := if exclusive then (Operator.gt, Operator.lt) else (.gte, .lte)
    let bounds := (empty.op field lower min).op field upper max
    match bounds.error with
    | some e => b.fail e
    | none => b.push (Where.logical .and bounds.conditions)

/-- Conditions joined into one object while their keys differ. -/
def mergeDisjoint (conditions : List Where) : Option Where :=
  let entries := conditions.flatten
  if entries.map (·.1) |>.Nodup then some (Json.entriesOf entries) else none

/-- The conditions with bare conjunctions replaced by their children. -/
def flattened (conditions : List Where) : List Where :=
  conditions.flatMap fun w => w.conjuncts?.getD [w]

/-- All conditions as one predicate, or the first error (`WhereBuilder::build`). -/
def build (b : WhereBuilder) : Except QueryError Where :=
  match b.error with
  | some e => .error e
  | none =>
    match b.conditions with
    | [] => .ok []
    | [w] => .ok w
    | ws =>
      match mergeDisjoint ws with
      | some w => .ok w
      | none => .ok (Where.logical .and (flattened ws))

/-- The items that a child gives to a list: none if it is empty, its children if it is a
conjunction to be flattened. -/
def itemsOf (flatten : Bool) (w : Where) : List Where :=
  if w.isEmpty then []
  else if flatten then flattened [w] else [w]

/-- Push a list of the children's predicates; an error of a child is the builder's (`logical`). -/
def logical (b : WhereBuilder) (o : Operator) (children : List WhereBuilder) (flatten : Bool) :
    WhereBuilder :=
  let built := children.map build
  let b := built.foldl (fun b r => match r with
    | .ok _ => b
    | .error e => b.fail e) b
  let items := built.flatMap fun
    | .ok w => itemsOf flatten w
    | .error _ => []
  if items.isEmpty then b else b.push (Where.logical o items)

def or (b : WhereBuilder) (children : List WhereBuilder) : WhereBuilder :=
  b.logical .or children false

def and (b : WhereBuilder) (children : List WhereBuilder) : WhereBuilder :=
  b.logical .and children true

/-- Drop the conditions and the error (`reset`). -/
def reset (b : WhereBuilder) : WhereBuilder := { b with conditions := [], error := none }

end WhereBuilder

/-! ## Sequences of calls -/

/-- One call on a where builder. Children are sequences of calls on builders of their own. -/
inductive WhereCall where
  | compare (op : Operator) (field : String) (value : Json)
  | likeWithOptions (field pattern options : String)
  | exists (field : String) (value : Bool)
  | among (op : Operator) (field : String) (values : List Json)
  | between (field : String) (min max : Json) (exclusive : Bool)
  | logical (isOr : Bool) (children : List (WhereBuilder × List WhereCall))
  | raw (w : Where)
  | reset

mutual
/-- The builder after a call. -/
def WhereCall.apply (b : WhereBuilder) : WhereCall → WhereBuilder
  | .compare .eq field value => b.eq field value
  | .compare op field value => b.op field op value
  | .likeWithOptions field pattern options => b.likeWithOptions field pattern options
  | .exists field value => b.exists? field value
  | .among op field values => b.op field op (.array values)
  | .between field min max exclusive => b.between field min max exclusive
  | .logical isOr children =>
    if isOr then b.or (WhereCall.applyChildren children)
    else b.and (WhereCall.applyChildren children)
  | .raw w => b.whereRaw w
  | .reset => b.reset
/-- The builder after some calls. -/
def WhereCall.applyAll (b : WhereBuilder) : List WhereCall → WhereBuilder
  | [] => b
  | c :: cs => WhereCall.applyAll (c.apply b) cs
def WhereCall.applyChildren : List (WhereBuilder × List WhereCall) → List WhereBuilder
  | [] => []
  | (b, cs) :: rest => WhereCall.applyAll b cs :: WhereCall.applyChildren rest
end

end RestKit.Query
