import RestKit.Dict
import RestKit.Json.Reader
import RestKit.Query.Order
import RestKit.Text.Numeral
/-!
# Filters

A `Filter` is a complete query: a predicate, the fields to give, an order, a page and the relations
to include, each with a filter of its own. `Filter.parse` reads every accepted shape of a section
and `Filter.toValue` writes one of them. `checkProjection` is the rule that fields are included or
excluded, never both.
-/
namespace RestKit.Query

/-- A complete query (`Filter`). -/
structure Filter where
  predicate : Option Where := none
  /-- Field names with whether they are included. -/
  fields : Dict Bool := {}
  order : List OrderEntry := []
  limit : Option Nat := none
  skip : Option Nat := none
  /-- Relations to load beside the results, with the filter that scopes them. -/
  includes : List (String × Option Filter) := []
deriving Repr, Inhabited

/-! ## Rendering -/

/-- An entry of an object that is there only if a condition holds. -/
def entryIf (cond : Bool) (key : String) (value : Json) : List (String × Json) :=
  if cond then [(key, value)] else []

mutual
/-- The JSON form of a filter; sections that say nothing are left out (`Filter::to_value`). -/
def Filter.toValue : Filter → Json
  | ⟨predicate, fields, order, limit, skip, includes⟩ =>
    .object <|
      entryIf (!fields.isEmpty) "fields" (.object (fields.entries.map fun (k, b) => (k, .bool b)))
      ++ entryIf (!includes.isEmpty) "include" (.array (Filter.includesToValue includes))
      ++ (limit.map fun n => ("limit", Json.nat n)).toList
      ++ entryIf (!order.isEmpty) "order" (Order.render order)
      ++ (skip.map fun n => ("skip", Json.nat n)).toList
      ++ (predicate.map fun w => ("where", Where.toValue w)).toList
def Filter.includesToValue : List (String × Option Filter) → List Json
  | [] => []
  | (relation, none) :: rest =>
    .object [("relation", .string relation)] :: Filter.includesToValue rest
  | (relation, some scope) :: rest =>
    .object [("relation", .string relation), ("scope", scope.toValue)]
      :: Filter.includesToValue rest
end

/-! ## Parsing -/

/-- A count: a number, or a text that spells one (`parse_count`). -/
def parseCount (wrong : Json → QueryError) : Json → Except QueryError (Option Nat)
  | .null => .ok none
  | .string s =>
    match Numeral.nat64? (Text.trim s) with
    | some n => .ok (some n)
    | none => .error (wrong (.string s))
  | j =>
    match j.nat64? with
    | some n => .ok (some n)
    | none => .error (wrong j)

/-- Whether a field is included, as a boolean or as 1 or 0. -/
def parseFlag (name : String) : Json → Except QueryError Bool
  | .bool b => .ok b
  | j =>
    if j = .nat 1 then .ok true
    else if j = .nat 0 then .ok false
    else .error (.fieldsFlag name j)

/-- The fields of a projection (`parse_fields`). -/
def parseFields : Json → Except QueryError (Dict Bool)
  | .null => .ok {}
  | .object es => do
    let flags ← es.mapM fun (k, v) => do
      rejectDollar k
      return (k, ← parseFlag k v)
    return .ofPairs flags
  | .array xs => do
    let names ← xs.mapM fun
      | .string s => do
        rejectDollar s
        return (s, true)
      | _ => .error .fieldsElement
    return .ofPairs names
  | .string s => do
    rejectDollar s
    return .ofPairs [(s, true)]
  | found => .error (.fieldsUnsupported found)

/-- The relations of a text, which commas part; blank parts are passed over. -/
def relationsOf (s : String) : List (String × Option Filter) :=
  (((Text.splitOn ',' s).map Text.trim).filter fun r => !r.isEmpty).map fun r => (r, none)

/-- The relation of an include object (`parse_include_object`). -/
def parseRelation (es : List (String × Json)) : Except QueryError String :=
  match Json.lookup es "relation" with
  | some (.string s) =>
    if Text.isBlankText s then .error .includeRelation
    else do
      rejectDollar s
      return Text.trim s
  | _ => .error .includeRelation

/-- The sections of a filter that hold no filter themselves. -/
def Filter.parseSection (maxDepth : Nat) (f : Filter) (key : String) (value : Json) :
    Except QueryError Filter :=
  match key with
  | "where" => do
    let w ← Where.parse maxDepth value
    return if w.isEmpty then f else { f with predicate := some w }
  | "fields" => do return { f with fields := ← parseFields value }
  | "order" => do return { f with order := ← Order.parse value }
  | "limit" => do return { f with limit := ← parseCount .limit value }
  | "skip" | "offset" => do return { f with skip := ← parseCount .skip value }
  | _ => .ok f

mutual
/-- Read a filter (`Filter::parse`). Keys that name no section are passed over. -/
def Filter.parse (maxDepth : Nat) : Json → Except QueryError Filter
  | .null => .ok {}
  | .object es => Filter.parseEntries maxDepth {} es
  | _ => .error .filterNotObject
def Filter.parseEntries (maxDepth : Nat) (f : Filter) :
    List (String × Json) → Except QueryError Filter
  | [] => .ok f
  | (k, v) :: es => do
    rejectDollar k
    let f ← if k = "include" then
        (Filter.parseInclude maxDepth v).map fun is => { f with includes := is }
      else f.parseSection maxDepth k v
    Filter.parseEntries maxDepth f es
/-- The relations to include: a text, an object, or a list of both (`parse_include`). -/
def Filter.parseInclude (maxDepth : Nat) : Json → Except QueryError (List (String × Option Filter))
  | .null => .ok []
  | .string s => .ok (relationsOf s)
  | .object es => do
    let relation ← parseRelation es
    return [(relation, ← Filter.parseScope maxDepth es)]
  | .array xs => Filter.parseIncludes maxDepth xs
  | found => .error (.includeUnsupported found)
def Filter.parseIncludes (maxDepth : Nat) :
    List Json → Except QueryError (List (String × Option Filter))
  | [] => .ok []
  | .array _ :: _ => .error .includeNested
  | x :: xs => do
    let is ← Filter.parseInclude maxDepth x
    return is ++ (← Filter.parseIncludes maxDepth xs)
/-- The scope among the entries of an include object. -/
def Filter.parseScope (maxDepth : Nat) : List (String × Json) → Except QueryError (Option Filter)
  | [] => .ok none
  | (k, v) :: es =>
    if k = "scope" then
      match v with
      | .null => .ok none
      | v => (Filter.parse maxDepth v).map some
    else Filter.parseScope maxDepth es
end

/-- Read a filter from a text (`Filter::from_json`). -/
def Filter.ofJson (maxDepth : Nat) (text : String) : Except QueryError Filter :=
  match Json.read text with
  | .ok v => Filter.parse maxDepth v
  | .error f => .error (.json f)

/-! ## Projections -/

/-- The field names that a projection of both kinds names: the included ones, then the excluded
ones; the primary key counts as neither. -/
def mixedNames (fields : Dict Bool) : Option (List String) :=
  let others := fields.entries.filter fun f => !isPrimaryKey f.1
  let included := (others.filter (·.2)).map (·.1)
  let excluded := (others.filter fun f => !f.2).map (·.1)
  if included.isEmpty || excluded.isEmpty then none else some (included ++ excluded)

mutual
/-- Fields are included or excluded, never both, in a filter and in every scope in it
(`check_projection`). -/
def Filter.checkProjection : Filter → Except QueryError Unit
  | ⟨_, fields, _, _, _, includes⟩ =>
    match mixedNames fields with
    | some names => .error (.mixedProjection names)
    | none => Filter.checkScopes includes
def Filter.checkScopes : List (String × Option Filter) → Except QueryError Unit
  | [] => .ok ()
  | (_, none) :: rest => Filter.checkScopes rest
  | (_, some scope) :: rest => do
    scope.checkProjection
    Filter.checkScopes rest
end

/-! ## Equality -/

mutual
def Filter.decEq : (a b : Filter) → Decidable (a = b)
  | ⟨p, f, o, l, s, i⟩, ⟨p', f', o', l', s', i'⟩ =>
    if h : p = p' ∧ f = f' ∧ o = o' ∧ l = l' ∧ s = s' then
      match Filter.decEqIncludes i i' with
      | isTrue hi => isTrue (by obtain ⟨rfl, rfl, rfl, rfl, rfl⟩ := h; rw [hi])
      | isFalse hi => isFalse fun e => hi (by cases e; rfl)
    else isFalse fun e => h (by cases e; exact ⟨rfl, rfl, rfl, rfl, rfl⟩)
def Filter.decEqIncludes : (a b : List (String × Option Filter)) → Decidable (a = b)
  | [], [] => isTrue rfl
  | [], _ :: _ | _ :: _, [] => isFalse (by intro e; cases e)
  | (k, none) :: xs, (l, none) :: ys =>
    if hk : k = l then
      match Filter.decEqIncludes xs ys with
      | isTrue h => isTrue (by rw [hk, h])
      | isFalse h => isFalse fun e => h (by cases e; rfl)
    else isFalse fun e => hk (by cases e; rfl)
  | (k, some x) :: xs, (l, some y) :: ys =>
    if hk : k = l then
      match Filter.decEq x y, Filter.decEqIncludes xs ys with
      | isTrue h, isTrue r => isTrue (by rw [hk, h, r])
      | isFalse h, _ => isFalse fun e => h (by cases e; rfl)
      | _, isFalse r => isFalse fun e => r (by cases e; rfl)
    else isFalse fun e => hk (by cases e; rfl)
  | (_, none) :: _, (_, some _) :: _ | (_, some _) :: _, (_, none) :: _ =>
    isFalse (by intro e; cases e)
end

instance : DecidableEq Filter := Filter.decEq

end RestKit.Query
