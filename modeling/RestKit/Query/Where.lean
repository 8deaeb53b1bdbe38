import RestKit.Query.Error
/-!
# Where predicates

A `Where` maps field names and the keywords `and`, `or` to operands. A field holds a value, which
means equality, or a map of operators; `and` and `or` hold lists of predicates. `parse` reads a
predicate from a document, `toValue` renders it back, and `equivalent` identifies `{f: v}` with
`{f: {eq: v}}`.
-/
namespace RestKit.Query

/-- What a key of a predicate holds: a value, a map of operators, or a list of predicates
(`WhereValue`). -/
inductive Operand where
  | scalar (v : Json)
  | nested (entries : List (String × Operand))
  | list (items : List (List (String × Operand)))
deriving Repr, Inhabited

/-- A predicate: entries in key order, each key once (`Where`). -/
abbrev Where := List (String × Operand)

/-! ## Rendering -/

mutual
/-- The JSON form of an operand. -/
def Operand.toValue : Operand → Json
  | .scalar v => v
  | .nested es => .object (Where.entriesToValue es)
  | .list ws => .array (Where.listToValue ws)
def Where.entriesToValue : List (String × Operand) → List (String × Json)
  | [] => []
  | (k, x) :: es => (k, x.toValue) :: Where.entriesToValue es
def Where.listToValue : List (List (String × Operand)) → List Json
  | [] => []
  | w :: ws => .object (Where.entriesToValue w) :: Where.listToValue ws
end

/-- The JSON form of a predicate (`Where::to_value`). -/
def Where.toValue (w : Where) : Json := .object (Where.entriesToValue w)

/-! ## Equality -/

mutual
/-- Equality with values compared as `Json.same` does. -/
def Operand.same : Operand → Operand → Bool
  | .scalar v, .scalar w => v.same w
  | .nested a, .nested b => Where.same a b
  | .list a, .list b => Where.sameList a b
  | _, _ => false
def Where.same : List (String × Operand) → List (String × Operand) → Bool
  | [], [] => true
  | (k, x) :: xs, (l, y) :: ys => k == l && x.same y && Where.same xs ys
  | _, _ => false
def Where.sameList : List (List (String × Operand)) → List (List (String × Operand)) → Bool
  | [], [] => true
  | w :: ws, v :: vs => Where.same w v && Where.sameList ws vs
  | _, _ => false
end

mutual
def Operand.decEq : (a b : Operand) → Decidable (a = b)
  | .scalar v, .scalar w =>
    if h : v = w then isTrue (h ▸ rfl) else isFalse fun e => h (by cases e; rfl)
  | .nested a, .nested b =>
    match Where.decEq a b with
    | isTrue h => isTrue (h ▸ rfl)
    | isFalse h => isFalse fun e => h (by cases e; rfl)
  | .list a, .list b =>
    match Where.decEqList a b with
    | isTrue h => isTrue (h ▸ rfl)
    | isFalse h => isFalse fun e => h (by cases e; rfl)
  | .scalar _, .nested _ | .scalar _, .list _ | .nested _, .scalar _ | .nested _, .list _
  | .list _, .scalar _ | .list _, .nested _ => isFalse (by intro e; cases e)
def Where.decEq : (a b : List (String × Operand)) → Decidable (a = b)
  | [], [] => isTrue rfl
  | [], _ :: _ | _ :: _, [] => isFalse (by intro e; cases e)
  | (k, x) :: xs, (l, y) :: ys =>
    if hk : k = l then
      match Operand.decEq x y, Where.decEq xs ys with
      | isTrue h, isTrue r => isTrue (by rw [hk, h, r])
      | isFalse h, _ => isFalse fun e => h (by cases e; rfl)
      | _, isFalse r => isFalse fun e => r (by cases e; rfl)
    else isFalse fun e => hk (by cases e; rfl)
def Where.decEqList : (a b : List (List (String × Operand))) → Decidable (a = b)
  | [], [] => isTrue rfl
  | [], _ :: _ | _ :: _, [] => isFalse (by intro e; cases e)
  | x :: xs, y :: ys =>
    match Where.decEq x y, Where.decEqList xs ys with
    | isTrue h, isTrue k => isTrue (h ▸ k ▸ rfl)
    | isFalse h, _ => isFalse fun e => h (by cases e; rfl)
    | _, isFalse k => isFalse fun e => k (by cases e; rfl)
end

instance : DecidableEq Operand := Operand.decEq

/-! ## Normal form -/

mutual
/-- An entry with its implicit equality made explicit. -/
def Operand.normalized (key : String) : Operand → Operand
  | .list ws => .list (Where.normalizedList ws)
  | .scalar v =>
    if (Operator.parse? key).isNone then .nested [(Operator.eq.name, .scalar v)] else .scalar v
  | .nested es => .nested es
/-- Every implicit equality `{f: v}` rewritten to `{f: {eq: v}}`, inside `and` and `or` too
(`normalized`). -/
def Where.normalized : List (String × Operand) → List (String × Operand)
  | [] => []
  | (k, x) :: es => (k, x.normalized k) :: Where.normalized es
def Where.normalizedList : List (List (String × Operand)) → List (List (String × Operand))
  | [] => []
  | w :: ws => Where.normalized w :: Where.normalizedList ws
end

namespace Where

/-- Equality of normal forms (`equivalent`). -/
def equivalent (a b : Where) : Bool := same (normalized a) (normalized b)

/-- The predicate with one entry (`single`). -/
def single (key : String) (x : Operand) : Where := [(key, x)]

/-- `{op: [...]}` (`logical`). -/
def logical (op : Operator) (children : List Where) : Where := single op.name (.list children)

/-- The children of a bare `{and: [...]}` (`as_conjunction`). -/
def conjuncts? (w : Where) : Option (List Where) :=
  match w with
  | [(k, .list children)] => if k == Operator.and.name then some children else none
  | _ => none

end Where

/-! ## Parsing -/

/-- Refuse a key that starts with a dollar sign (`reject_dollar`). -/
def rejectDollar (key : String) : Except QueryError Unit :=
  if isDollar key then .error (.dollarKey key) else .ok ()

mutual
/-- Refuse keys that start with a dollar sign at any depth of a value (`reject_dollar_deep`). -/
def rejectDollarDeep : Json → Except QueryError Unit
  | .object es => rejectDollarEntries es
  | .array xs => rejectDollarItems xs
  | _ => .ok ()
def rejectDollarItems : List Json → Except QueryError Unit
  | [] => .ok ()
  | x :: xs => do
    rejectDollarDeep x
    rejectDollarItems xs
def rejectDollarEntries : List (String × Json) → Except QueryError Unit
  | [] => .ok ()
  | (k, x) :: es => do
    rejectDollar k
    rejectDollarDeep x
    rejectDollarEntries es
end

/-- Whether an object is read as a map of operators (`has_operator_key`). -/
def hasOperatorKey (es : List (String × Json)) : Bool := es.any fun e => isOperatorKey e.1

/-- The check of an operator's operand inside a field's map. -/
def checkOperand (field key : String) (data : Json) : Operator → Except QueryError Unit
  | .and | .or => .error (.logicalOnField key field)
  | .inq | .nin =>
    match data with
    | .array xs => rejectDollarItems xs
    | _ => .error (.operandNotArray key)
  | .like | .nlike => if data.string?.isSome then .ok () else .error (.patternNotString key)
  | .exists => if data.bool?.isSome then .ok () else .error .existsNotBoolean
  | .eq | .neq | .gt | .gte | .lt | .lte => rejectDollarDeep data

/-- The check of one entry of a field's map of operators. -/
def checkEntry (field key : String) (data : Json) : Except QueryError Unit := do
  rejectDollar key
  if key == optionsKey then
    if data.string?.isSome then .ok () else .error (.optionsNotString field)
  else
    match Operator.parse? key with
    | none => .error (.unsupportedOnField key field)
    | some op => checkOperand field key data op

/-- Whether a map of operators has a pattern. -/
def hasPattern (es : List (String × Json)) : Bool :=
  es.any fun e => ((Operator.parse? e.1).map Operator.isPattern).getD false

/-- What a field holds: a map of operators if the value looks like one, else the value
(`parse_field`). -/
def parseField (field : String) (value : Json) : Except QueryError Operand :=
  match value with
  | .object es =>
    if hasOperatorKey es then do
      es.forM fun (k, v) => checkEntry field k v
      if es.any (·.1 == optionsKey) && !hasPattern es then
        .error (.optionsWithoutPattern field)
      else .ok (.nested (es.map fun (k, v) => (k, .scalar v)))
    else do
      rejectDollarEntries es
      return .scalar (.object es)
  | v => do
    rejectDollarDeep v
    return .scalar v

mutual
/-- Read a predicate that stands inside `depth` lists, of at most `max` (`WhereParser::parse`). -/
def Where.parseAt (max depth : Nat) : Json → Except QueryError Where
  | .object es =>
    if max < depth then .error (.tooDeep max) else Where.parseEntries max depth es
  | .null => if max < depth then .error (.tooDeep max) else .ok []
  | _ => if max < depth then .error (.tooDeep max) else .error .whereNotObject
def Where.parseEntries (max depth : Nat) : List (String × Json) → Except QueryError Where
  | [] => .ok []
  | (k, v) :: es => do
    rejectDollar k
    if k.isEmpty then throw .emptyField
    let x ← match Operator.parse? k with
      | some op =>
        if op.isLogical then
          match v with
          | .array xs => (Where.parseItems max depth k xs).map .list
          | _ => .error (.operandNotArray k)
        else .error (.misplacedOperator op)
      | none => parseField k v
    let rest ← Where.parseEntries max depth es
    return (k, x) :: rest
def Where.parseItems (max depth : Nat) (key : String) : List Json → Except QueryError (List Where)
  | [] => .ok []
  | .object es :: xs => do
    let w ← if max < depth + 1 then .error (.tooDeep max) else Where.parseEntries max (depth + 1) es
    let ws ← Where.parseItems max depth key xs
    return w :: ws
  | _ :: _ => .error (.elementNotObject key)
end

/-- Read a predicate whose lists are nested at most `max` deep (`parse_with_depth`). -/
def Where.parse (max : Nat) (value : Json) : Except QueryError Where := Where.parseAt max 0 value

end RestKit.Query
