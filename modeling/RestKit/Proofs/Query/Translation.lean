import RestKit.Proofs.Json.Entries
import RestKit.Proofs.Query.DollarFree
import RestKit.Proofs.Query.Keyword
import RestKit.Query.Document
/-!
# What a translation does

One lemma for each function of the translation to the store: when it gives a document, and which.
Later proofs take a successful translation apart with them and do not open the definitions.
-/
namespace RestKit.Query

variable {c : Collection}

/-! ## Operands -/

/-- A field that holds object ids stores a text of hexadecimal digits as one, and nothing else. -/
theorem coerceObjectId_eq_ok {field : String} {v j : Json} :
    coerceObjectId field v = .ok j ↔
      ∃ s, v = .string s ∧ isObjectId s = true ∧
        .object [("$oid", .string (Text.asciiLower s))] = j := by
  cases v with
  | string s =>
    unfold coerceObjectId
    by_cases hs : isObjectId s = true
    · simp [hs]
    · simp [hs]
  | _ => simp [coerceObjectId]

/-- The instant that a date field reads in a value. -/
def instantOf : Json → Option Time.Instant
  | .string s => instantOfText s
  | .number n => (Json.number n).int64?.bind instantOfEpoch
  | _ => none

theorem coerceDate_eq_ok {field : String} {v j : Json} :
    coerceDate field v = .ok j ↔
      ∃ t, instantOf v = some t ∧ .object [("$date", .string t.utcText)] = j := by
  cases v with
  | string s => cases h : instantOfText s <;> simp [coerceDate, instantOf, h]
  | number n =>
    cases h : (Json.number n).int64?.bind instantOfEpoch <;> simp [coerceDate, instantOf, h]
  | _ => simp [coerceDate, instantOf]

/-- The conversion of an operand: none for `null` and for fields of other types. -/
theorem coerceOperand_eq_ok {field : String} {v j : Json} :
    coerceOperand c field v = .ok j ↔
      (v = .null ∧ .null = j) ∨
      (c.typeOf field = .objectId ∧ coerceObjectId field v = .ok j) ∨
      (c.typeOf field = .date ∧ coerceDate field v = .ok j) ∨
      (c.typeOf field ≠ .objectId ∧ c.typeOf field ≠ .date ∧ v = j) := by
  by_cases hv : v = .null
  · subst hv
    have ho : coerceObjectId field .null ≠ .ok j := by simp [coerceObjectId]
    have hd : coerceDate field .null ≠ .ok j := by simp [coerceDate]
    simp only [coerceOperand, Json.isNull, if_true, Except.ok.injEq, ho, hd]
    tauto
  · have hn : v.isNull = false := by cases v <;> simp_all [Json.isNull]
    unfold coerceOperand
    cases ht : c.typeOf field <;> simp [hn, hv]

/-! ## Operators -/

/-- The operators that compare a field with one value. -/
def Operator.isComparison : Operator → Bool
  | .eq | .neq | .gt | .gte | .lt | .lte => true
  | _ => false

/-- The entries that one operator gives: a converted value, an array of them, a pattern with its
options, a negated pattern, or the flag as it stands. -/
theorem translateOperator_eq_ok {field key : String} {options : Option String} {data : Json}
    {op : Operator} {es : List (String × Json)} :
    translateOperator c field key options data op = .ok es ↔
      (op.isComparison = true ∧ ∃ j, coerceOperand c field data = .ok j ∧
        [(op.document, j)] = es) ∨
      ((op = .inq ∨ op = .nin) ∧ ∃ xs, data = .array xs ∧ ∃ ys,
        List.Forall₂ (fun x y => coerceOperand c field x = .ok y) xs ys ∧
        [(op.document, .array ys)] = es) ∨
      (op = .like ∧ patternEntries data options = es) ∨
      (op = .nlike ∧ [(op.document, .object (patternEntries data options))] = es) ∨
      (op = .exists ∧ [(op.document, data)] = es) := by
  have hm (xs : List Json) (ys : List Json) :
      xs.mapM (coerceOperand c field) = .ok ys ↔
        List.Forall₂ (fun x y => coerceOperand c field x = .ok y) xs ys := mapM_eq_ok
  cases op <;> simp [translateOperator, Operator.isComparison, fmap_eq_ok]
  case inq | nin => cases data <;> simp [fmap_eq_ok, hm]

/-- An entry of a field's map gives entries if it holds the pattern options, or an operator with a
value that has no dollar keys. -/
theorem translateEntry_eq_ok {field key : String} {options : Option String} {x : Operand}
    {es : List (String × Json)} :
    translateEntry c field options key x = .ok es ↔
      (key = optionsKey ∧ [] = es) ∨
      ∃ op data, Operator.parse? key = some op ∧ x = .scalar data ∧ DollarFree data ∧
        translateOperator c field key options data op = .ok es := by
  unfold translateEntry
  rw [check_eq_ok, rejectDollar_eq_ok]
  by_cases ho : key = optionsKey
  · subst ho
    simp [isDollar_optionsKey, pure_eq_ok, parse?_optionsKey]
  · simp only [beq_iff_eq, ho, if_false, false_and, false_or]
    cases hp : Operator.parse? key with
    | none => simp
    | some op => cases x <;> simp [isDollar_of_parse? hp, check_eq_ok, rejectDollarDeep_eq_ok]

theorem translateOperators_eq_ok {field : String} {ops : List (String × Operand)}
    {js : List (String × Json)} :
    translateOperators c field ops = .ok js ↔
      ∃ ess, List.Forall₂ (fun e es => translateEntry c field (patternOptions ops) e.1 e.2 = .ok es)
        ops ess ∧ Json.entriesOf ess.flatten = js := by
  simp only [translateOperators, bind_eq_ok, mapM_eq_ok, pure_eq_ok]

/-- Every entry of a translated map was translated. -/
theorem translateEntry_of_mem {field k : String} {x : Operand} {ops : List (String × Operand)}
    {js : List (String × Json)} (h : translateOperators c field ops = .ok js) (hm : (k, x) ∈ ops) :
    ∃ es, translateEntry c field (patternOptions ops) k x = .ok es := by
  obtain ⟨ess, hess, -⟩ := translateOperators_eq_ok.1 h
  obtain ⟨es, -, hes⟩ := mem_of_forall₂_left hess hm
  exact ⟨es, hes⟩

/-! ## Predicates -/

/-- The document entry of one entry of a predicate. -/
def translateMember (c : Collection) (key : String) (x : Operand) :
    Except QueryError (String × Json) :=
  match Operator.parse? key, x with
  | some op, .list ws =>
    if op.isLogical then (translateList c ws).map fun ds => (op.document, .array ds)
    else .error (.misplacedOperator op)
  | some op, _ => .error (.misplacedOperator op)
  | none, .scalar v =>
    (coerceOperand c key v).map fun j => (key, .object [(Operator.eq.document, j)])
  | none, .nested ops => (translateOperators c key ops).map fun js => (key, .object js)
  | none, .list _ => .error (.listOnField key)

theorem translateEntries_cons {key : String} {x : Operand} {w : List (String × Operand)} :
    translateEntries c ((key, x) :: w) = (do
      rejectDollar key
      let entry ← translateMember c key x
      let rest ← translateEntries c w
      return entry :: rest) := by
  simp only [translateEntries, translateMember]
  cases Operator.parse? key with
  | none =>
    cases x with
    | scalar v => dsimp only; cases coerceOperand c key v <;> rfl
    | nested ops => dsimp only; cases translateOperators c key ops <;> rfl
    | list ws => rfl
  | some op =>
    cases x with
    | list ws =>
      dsimp only
      cases op.isLogical with
      | true => cases translateList c ws <;> rfl
      | false => rfl
    | _ => rfl

theorem translateEntries_cons_eq_ok {key : String} {x : Operand} {w : List (String × Operand)}
    {d : List (String × Json)} :
    translateEntries c ((key, x) :: w) = .ok d ↔
      isDollar key = false ∧ ∃ e, translateMember c key x = .ok e ∧
        ∃ rest, translateEntries c w = .ok rest ∧ e :: rest = d := by
  rw [translateEntries_cons, check_eq_ok, rejectDollar_eq_ok]
  simp only [bind_eq_ok, pure_eq_ok]

theorem translateMember_scalar_eq_ok {key : String} {v : Json} {e : String × Json} :
    translateMember c key (.scalar v) = .ok e ↔
      Operator.parse? key = none ∧ ∃ j, coerceOperand c key v = .ok j ∧
        (key, .object [(Operator.eq.document, j)]) = e := by
  cases hp : Operator.parse? key <;> simp [translateMember, hp, map_eq_ok]

theorem translateMember_nested_eq_ok {key : String} {ops : List (String × Operand)}
    {e : String × Json} :
    translateMember c key (.nested ops) = .ok e ↔
      Operator.parse? key = none ∧ ∃ js, translateOperators c key ops = .ok js ∧
        (key, .object js) = e := by
  cases hp : Operator.parse? key <;> simp [translateMember, hp, map_eq_ok]

theorem translateMember_list_eq_ok {key : String} {ws : List (List (String × Operand))}
    {e : String × Json} :
    translateMember c key (.list ws) = .ok e ↔
      ∃ op, Operator.parse? key = some op ∧ op.isLogical = true ∧
        ∃ ds, translateList c ws = .ok ds ∧ (op.document, .array ds) = e := by
  cases hp : Operator.parse? key with
  | none => simp [translateMember, hp]
  | some op => cases hl : op.isLogical <;> simp [translateMember, hp, hl, map_eq_ok]

theorem translateList_cons_eq_ok {w : List (String × Operand)}
    {ws : List (List (String × Operand))} {ds : List Json} :
    translateList c (w :: ws) = .ok ds ↔
      ∃ d, translateEntries c w = .ok d ∧ ∃ rest, translateList c ws = .ok rest ∧
        .object (Json.entriesOf d) :: rest = ds := by
  simp only [translateList, bind_eq_ok, pure_eq_ok]

/-! ## Projections -/

theorem projectionOf_eq_ok {f : Filter} {p : Option (List (String × Bool))} :
    projectionOf c f = .ok p ↔
      f.checkProjection = .ok () ∧ (∀ e ∈ f.fields, isDollar e.1 = false) ∧
      (if f.fields.entries.any (fun e => e.2 && e.1 != c.primaryKey) then
          some (inclusion c f.fields)
        else if (exclusion c f.fields).isEmpty then none else some (exclusion c f.fields)) = p := by
  unfold projectionOf
  rw [check_eq_ok, check_eq_ok]
  simp only [forM_eq_ok, rejectDollar_eq_ok, Dict.mem_def]
  split <;> simp only [pure_eq_ok]

theorem mem_inclusion {fields : Dict Bool} {e : String × Bool}
    (h : e ∈ inclusion c fields) :
    e ∈ fields ∨ e.1 ∈ c.alwaysIncluded ∨ e.1 = c.primaryKey := by
  unfold inclusion at h
  dsimp only at h
  split at h
  · rcases List.mem_append.1 (Json.mem_of_mem_entriesOf h) with h | h
    · exact Or.inl (List.mem_of_mem_filter h)
    · obtain ⟨name, hname, rfl⟩ := List.mem_map.1 h
      exact Or.inr (Or.inl (List.mem_of_mem_filter hname))
  · rw [List.mem_singleton.1 h]
    exact Or.inr (Or.inr rfl)

theorem mem_exclusion {fields : Dict Bool} {e : String × Bool}
    (h : e ∈ exclusion c fields) : e ∈ fields ∨ e.1 ∈ c.banned := by
  rcases List.mem_append.1 (Json.mem_of_mem_entriesOf h) with h | h
  · exact Or.inl (List.mem_of_mem_filter h)
  · obtain ⟨name, hname, rfl⟩ := List.mem_map.1 h
    exact Or.inr hname

/-- A projection names fields of the filter and of the collection, and no others. -/
theorem mem_projectionOf {f : Filter} {p : List (String × Bool)} {e : String × Bool}
    (h : projectionOf c f = .ok (some p)) (he : e ∈ p) :
    e ∈ f.fields ∨ e.1 ∈ c.alwaysIncluded ∨ e.1 ∈ c.banned ∨ e.1 = c.primaryKey := by
  obtain ⟨-, -, hp⟩ := projectionOf_eq_ok.1 h
  split at hp
  · cases hp
    rcases mem_inclusion he with h | h | h
    · exact Or.inl h
    · exact Or.inr (Or.inl h)
    · exact Or.inr (Or.inr (Or.inr h))
  · split at hp
    · cases hp
    · cases hp
      rcases mem_exclusion he with h | h
      · exact Or.inl h
      · exact Or.inr (Or.inr (Or.inl h))

/-! ## Filters -/

/-- The sort is the order, if no field of it is a dollar key. -/
theorem sort_eq_ok {es : List OrderEntry} {ss : List (String × Int)} :
    (es.mapM fun e => do
      rejectDollar e.field
      return (e.field, e.direction.sign) : Except QueryError (List (String × Int))) = .ok ss ↔
      (∀ e ∈ es, isDollar e.field = false) ∧
        es.map (fun e => (e.field, e.direction.sign)) = ss := by
  induction es generalizing ss with
  | nil => simp [pure_eq_ok]
  | cons e es ih =>
    simp only [List.mapM_cons, bind_eq_ok, pure_eq_ok, ih, rejectDollar_eq_ok,
      List.forall_mem_cons, List.map_cons]
    constructor
    · rintro ⟨_, ⟨-, he, rfl⟩, _, ⟨hes, rfl⟩, rfl⟩
      exact ⟨⟨he, hes⟩, rfl⟩
    · rintro ⟨⟨he, hes⟩, rfl⟩
      exact ⟨_, ⟨(), he, rfl⟩, _, ⟨hes, rfl⟩, rfl⟩

/-- The predicate of a query: empty if the filter has none. -/
def predicateDocument (c : Collection) (f : Filter) : Except QueryError (List (String × Json)) :=
  match f.predicate with
  | some w => w.toDocument c
  | none => .ok []

theorem toDocument_eq (f : Filter) (c : Collection) :
    f.toDocument c = (do
      let filter ← predicateDocument c f
      let sort ← f.order.mapM fun e => do
        rejectDollar e.field
        return (e.field, e.direction.sign)
      let projection ← projectionOf c f
      return { filter, sort, projection, limit := f.limit, skip := f.skip }) := by
  unfold Filter.toDocument predicateDocument
  cases f.predicate <;> rfl

/-- A filter is translated if its predicate and its projection are, and no field of its order is a
dollar key. -/
theorem toDocument_eq_ok {f : Filter} {q : DocumentQuery} :
    f.toDocument c = .ok q ↔
      predicateDocument c f = .ok q.filter ∧
      ((∀ e ∈ f.order, isDollar e.field = false) ∧
        f.order.map (fun e => (e.field, e.direction.sign)) = q.sort) ∧
      projectionOf c f = .ok q.projection ∧ f.limit = q.limit ∧ f.skip = q.skip := by
  obtain ⟨filter, sort, projection, limit, skip⟩ := q
  simp only [toDocument_eq, bind_eq_ok, sort_eq_ok, pure_eq_ok, DocumentQuery.mk.injEq]
  constructor
  · rintro ⟨_, hw, _, hs, _, hp, rfl, rfl, rfl, rfl, rfl⟩
    exact ⟨hw, hs, hp, rfl, rfl⟩
  · rintro ⟨hw, hs, hp, rfl, rfl⟩
    exact ⟨filter, hw, sort, hs, projection, hp, rfl, rfl, rfl, rfl, rfl⟩

end RestKit.Query
