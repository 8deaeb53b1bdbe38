import RestKit.Query.Filter
import RestKit.Query.WhereBuilder
/-!
# Building filters

A `FilterBuilder` collects the sections of a filter and, like a where builder, keeps the first
error until it is built. `merge` combines two builders: the second one wins on limit, skip and
order, and the predicates are joined.
-/
namespace RestKit.Query

/-- A filter that is put together by calls (`FilterBuilder`). -/
structure FilterBuilder where
  predicate : Option WhereBuilder := none
  fields : Dict Bool := {}
  order : List OrderEntry := []
  limit : Option Nat := none
  skip : Option Nat := none
  includes : List (String × Option FilterBuilder) := []
  error : Option QueryError := none
deriving Repr, Inhabited

/-- How two builders are merged (`MergeConfig`). -/
structure MergeConfig where
  /-- Join the predicates by `or` instead of `and`. -/
  joinByOr : Bool := false
  /-- Let the second builder's fields override the first one's. -/
  allowFieldConflicts : Bool := false
  maxLimit : Option Nat := none
deriving DecidableEq, Repr

mutual
/-- The builder of a filter (`from_filter`). -/
def FilterBuilder.ofFilter : Filter → FilterBuilder
  | ⟨predicate, fields, order, limit, skip, includes⟩ =>
    { predicate := predicate.map WhereBuilder.raw, fields, order, limit, skip
      includes := FilterBuilder.ofIncludes includes }
def FilterBuilder.ofIncludes : List (String × Option Filter) → List (String × Option FilterBuilder)
  | [] => []
  | (relation, none) :: rest => (relation, none) :: FilterBuilder.ofIncludes rest
  | (relation, some scope) :: rest =>
    (relation, some (FilterBuilder.ofFilter scope)) :: FilterBuilder.ofIncludes rest
end

/-- The least of a count and a bound, where there are both. -/
def capped (limit max : Option Nat) : Option Nat :=
  match limit, max with
  | some n, some m => some (min n m)
  | n, _ => n

mutual
/-- The filter of a builder, or its first error: its own, its predicate's, a scope's, the
projection's (`FilterBuilder::build`). -/
def FilterBuilder.build : FilterBuilder → Except QueryError Filter
  | ⟨predicate, fields, order, limit, skip, includes, error⟩ => do
    match error with
    | some e => throw e
    | none => pure ()
    let w ← match predicate with
      | some b => b.build
      | none => pure []
    let includes ← FilterBuilder.buildIncludes includes
    let filter : Filter :=
      { predicate := if w.isEmpty then none else some w, fields, order, limit, skip, includes }
    filter.checkProjection
    return filter
def FilterBuilder.buildIncludes : List (String × Option FilterBuilder) →
    Except QueryError (List (String × Option Filter))
  | [] => .ok []
  | (relation, none) :: rest => do
    return (relation, none) :: (← FilterBuilder.buildIncludes rest)
  | (relation, some scope) :: rest => do
    let f ← scope.build
    return (relation, some f) :: (← FilterBuilder.buildIncludes rest)
end

namespace FilterBuilder

/-- Keep an error unless there is one already. -/
def fail (b : FilterBuilder) (e : QueryError) : FilterBuilder :=
  { b with error := b.error.or (some e) }

def ofValue (maxDepth : Nat) (value : Json) : Except QueryError FilterBuilder :=
  (Filter.parse maxDepth value).map ofFilter

def ofJson (maxDepth : Nat) (text : String) : Except QueryError FilterBuilder :=
  (Filter.ofJson maxDepth text).map ofFilter

def withWhere (b : FilterBuilder) (w : WhereBuilder) : FilterBuilder :=
  { b with predicate := some w }

def field (b : FilterBuilder) (name : String) (included : Bool) : FilterBuilder :=
  if isDollar name then b.fail (.dollarKey name)
  else { b with fields := b.fields.insert name included }

def includeFields (b : FilterBuilder) (names : List String) : FilterBuilder :=
  names.foldl (fun b name => b.field name true) b

def excludeFields (b : FilterBuilder) (names : List String) : FilterBuilder :=
  names.foldl (fun b name => b.field name false) b

def orderBy (b : FilterBuilder) (field : String) (direction : Direction) : FilterBuilder :=
  if Text.isBlankText field then b.fail .orderEmpty
  else if isDollar field then b.fail (.dollarKey field)
  else { b with order := b.order ++ [⟨field, direction⟩] }

def setLimit (b : FilterBuilder) (n : Nat) : FilterBuilder := { b with limit := some n }

def setSkip (b : FilterBuilder) (n : Nat) : FilterBuilder := { b with skip := some n }

/-- A page of `size` results; pages count from one, and a count stays below `2 ^ 64` (`page`). -/
def page (b : FilterBuilder) (page size : Nat) : FilterBuilder :=
  if page = 0 then b.fail .pageZero
  else (b.setSkip (min ((page - 1) * size) Numeral.nat64Max)).setLimit size

def includeRelation (b : FilterBuilder) (relation : String) (scope : Option FilterBuilder) :
    FilterBuilder :=
  if Text.isBlankText relation then b.fail .includeEmpty
  else { b with includes := b.includes ++ [(Text.trim relation, scope)] }

/-- The fields of the second list over those of the first; `none` beside the first name that has
different flags. -/
def mergeFields (b : FilterBuilder) (config : MergeConfig) (fields : List (String × Bool)) :
    FilterBuilder :=
  fields.foldl (fun b (name, flag) =>
    match b.fields.get? name with
    | some old =>
      if old ≠ flag ∧ !config.allowFieldConflicts then b.fail (.fieldConflict name)
      else { b with fields := b.fields.insert name flag }
    | none => { b with fields := b.fields.insert name flag }) b

/-- The predicate of a merged builder. -/
def mergePredicate (config : MergeConfig) :
    Option WhereBuilder → Option WhereBuilder → Option WhereBuilder
  | some a, some b =>
    some (if config.joinByOr then WhereBuilder.empty.or [a, b] else WhereBuilder.empty.and [a, b])
  | some a, none => some a
  | none, b => b

/-- Both builders in one (`merge_with`). -/
def merge (a b : FilterBuilder) (config : MergeConfig) : FilterBuilder :=
  let m := match b.error with
    | some e => a.fail e
    | none => a
  let m := { m with predicate := mergePredicate config a.predicate b.predicate }
  let m := m.mergeFields config b.fields.entries
  { m with
    limit := capped (b.limit.or a.limit) config.maxLimit
    skip := b.skip.or a.skip
    order := if b.order.isEmpty then m.order else b.order
    includes := m.includes ++ b.includes }

end FilterBuilder
end RestKit.Query
