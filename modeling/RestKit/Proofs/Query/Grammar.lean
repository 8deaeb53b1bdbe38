import RestKit.Proofs.Query.DollarFree
import RestKit.Proofs.Query.Keyword
/-!
# The grammar of where predicates

`Where.WellFormed` is the shape of a predicate: which operand stands at which key, what each
operator takes, and where no dollar key may stand. `Where.Unambiguous` says that no value under an
implicit equality looks like a map of operators, and `Where.nesting` counts the levels of `and`
and `or`. The three together are what the parser accepts: `parse_eq_ok` says that `Where.parse`
gives `w` exactly for the rendering of `w`, and only for such `w`.
-/
namespace RestKit.Query

/-! ## Maps of operators -/

/-- Whether an operator takes a value as its operand on a field. -/
def Operator.Takes : Operator → Json → Prop
  | .and, _ | .or, _ => False
  | .inq, v | .nin, v => (∃ xs, v = .array xs) ∧ DollarFree v
  | .like, v | .nlike, v => ∃ s, v = .string s
  | .exists, v => ∃ b, v = .bool b
  | .eq, v | .neq, v | .gt, v | .gte, v | .lt, v | .lte, v => DollarFree v

theorem dollarFree_of_takes {op : Operator} {v : Json} (h : op.Takes v) : DollarFree v := by
  cases op with
  | and | or => exact h.elim
  | inq | nin => exact h.2
  | like | nlike =>
    obtain ⟨s, rfl⟩ := h
    exact dollarFree_leaf rfl rfl
  | «exists» =>
    obtain ⟨b, rfl⟩ := h
    exact dollarFree_leaf rfl rfl
  | eq | neq | gt | gte | lt | lte => exact h

/-- Whether a value may stand at a key of a map of operators: pattern options are a text. -/
def KeyTakes (key : String) (v : Json) : Prop :=
  (key = optionsKey ∧ ∃ s, v = .string s) ∨ ∃ op, Operator.parse? key = some op ∧ op.Takes v

/-- A map of operators: it is not empty, each key takes its value, and pattern options stand
beside a pattern. -/
structure OperatorMap (es : List (String × Json)) : Prop where
  ne_nil : es ≠ []
  takes : ∀ e ∈ es, KeyTakes e.1 e.2
  pattern : (∃ e ∈ es, e.1 = optionsKey) →
    ∃ e ∈ es, ∃ op, Operator.parse? e.1 = some op ∧ op.isPattern = true

theorem operatorMap_single {op : Operator} {v : Json} (h : op.Takes v) :
    OperatorMap [(op.name, v)] := by
  have hp : Operator.parse? op.name = some op := parse?_eq_some.2 rfl
  refine ⟨by simp, ?_, ?_⟩
  · simp only [List.mem_singleton, forall_eq]
    exact Or.inr ⟨op, hp, h⟩
  · simp only [List.mem_singleton, exists_eq_left]
    intro ho
    rw [ho, parse?_optionsKey] at hp
    cases hp

/-- Whether a value is read as a map of operators when it stands at a field. -/
def looksLikeOperators : Json → Bool
  | .object es => hasOperatorKey es
  | _ => false

/-- The entries of an object as operands. -/
def scalars (es : List (String × Json)) : List (String × Operand) :=
  es.map fun (k, v) => (k, .scalar v)

theorem mem_scalars {es : List (String × Json)} {k : String} {x : Operand} :
    (k, x) ∈ scalars es ↔ ∃ v, x = .scalar v ∧ (k, v) ∈ es := by
  simp only [scalars, List.mem_map, Prod.mk.injEq]
  constructor
  · rintro ⟨⟨l, v⟩, he, rfl, rfl⟩; exact ⟨v, rfl, he⟩
  · rintro ⟨v, rfl, he⟩; exact ⟨(k, v), he, rfl, rfl⟩

theorem entriesToValue_scalars (es : List (String × Json)) :
    Where.entriesToValue (scalars es) = es := by
  induction es with
  | nil => rfl
  | cons e es ih =>
    simp only [scalars] at ih
    simp [scalars, Where.entriesToValue, Operand.toValue, ih]

theorem checkOperand_eq_ok {field key : String} {v : Json} {op : Operator} {u : Unit} :
    checkOperand field key v op = .ok u ↔ op.Takes v := by
  cases op <;> cases v <;>
    simp [checkOperand, Operator.Takes, Json.string?, Json.bool?, rejectDollarDeep_eq_ok,
      rejectDollarItems_eq_ok, dollarFree_array]

theorem checkEntry_eq_ok {field key : String} {v : Json} {u : Unit} :
    checkEntry field key v = .ok u ↔ KeyTakes key v := by
  by_cases ho : key = optionsKey
  · subst ho
    simp only [checkEntry, check_eq_ok, rejectDollar_eq_ok, isDollar_optionsKey, KeyTakes,
      parse?_optionsKey]
    cases v <;> simp [Json.string?]
  · simp only [checkEntry, check_eq_ok, rejectDollar_eq_ok, KeyTakes, ho, false_and, false_or,
      beq_iff_eq, if_false]
    cases hp : Operator.parse? key with
    | none => simp
    | some op => simp [checkOperand_eq_ok, isDollar_of_parse? hp]

theorem isOperatorKey_of_takes {k : String} {v : Json} (h : KeyTakes k v) :
    isOperatorKey k = true := by
  rw [isOperatorKey_iff]
  rcases h with ⟨rfl, -⟩ | ⟨op, hop, -⟩
  · exact Or.inr rfl
  · exact Or.inl ⟨op, hop⟩

theorem OperatorMap.hasOperatorKey {es : List (String × Json)} (h : OperatorMap es) :
    hasOperatorKey es = true := by
  obtain ⟨e, he⟩ := List.exists_mem_of_ne_nil es h.ne_nil
  exact List.any_eq_true.2 ⟨e, he, isOperatorKey_of_takes (h.takes e he)⟩

theorem hasPattern_iff {es : List (String × Json)} :
    hasPattern es = true ↔ ∃ e ∈ es, ∃ op, Operator.parse? e.1 = some op ∧ op.isPattern = true := by
  simp only [hasPattern, List.any_eq_true]
  constructor
  · rintro ⟨e, he, h⟩
    cases hp : Operator.parse? e.1 with
    | none => simp [hp] at h
    | some op => exact ⟨e, he, op, hp, by simpa [hp] using h⟩
  · rintro ⟨e, he, op, hop, h⟩; exact ⟨e, he, by simp [hop, h]⟩

/-- The checks of an object at a field pass exactly for maps of operators. -/
theorem parseField_operators {field : String} {es : List (String × Json)} {x : Operand}
    (hk : hasOperatorKey es = true) :
    parseField field (.object es) = .ok x ↔ OperatorMap es ∧ x = .nested (scalars es) := by
  simp only [parseField, hk, if_true, check_eq_ok, forM_eq_ok, checkEntry_eq_ok]
  constructor
  · rintro ⟨htakes, h⟩
    split at h
    · cases h
    · rename_i hp
      cases h
      refine ⟨⟨?_, htakes, ?_⟩, rfl⟩
      · rintro rfl; simp [hasOperatorKey] at hk
      · rintro ⟨e, he, hoe⟩
        have hany : es.any (·.1 == optionsKey) = true := List.any_eq_true.2 ⟨e, he, by simp [hoe]⟩
        rw [hany] at hp
        exact hasPattern_iff.1 (by simpa using hp)
  · rintro ⟨hm, rfl⟩
    refine ⟨hm.takes, ?_⟩
    split
    · rename_i hp
      simp only [Bool.and_eq_true, List.any_eq_true, beq_iff_eq, Bool.not_eq_true'] at hp
      have := hasPattern_iff.2 (hm.pattern hp.1)
      rw [hp.2] at this; cases this
    · rfl

/-- What a field holds after it was read: the value, or its entries as operators. -/
theorem parseField_eq_ok {field : String} {v : Json} {x : Operand} :
    parseField field v = .ok x ↔
      (x = .scalar v ∧ DollarFree v ∧ looksLikeOperators v = false) ∨
        ∃ es, v = .object es ∧ OperatorMap es ∧ x = .nested (scalars es) := by
  cases v with
  | object es =>
    cases hk : hasOperatorKey es with
    | true => simp [parseField_operators hk, looksLikeOperators, hk]
    | false =>
      have hno : ¬ OperatorMap es := fun hm => by rw [hm.hasOperatorKey] at hk; cases hk
      simp only [parseField, hk, Bool.false_eq_true, if_false, check_eq_ok, pure_eq_ok,
        rejectDollarEntries_eq_ok, ← dollarFree_object, looksLikeOperators]
      constructor
      · rintro ⟨hf, rfl⟩; exact Or.inl ⟨rfl, hf, trivial⟩
      · rintro (⟨rfl, hf, -⟩ | ⟨fs, hfs, hm, -⟩)
        · exact ⟨hf, rfl⟩
        · cases hfs; exact absurd hm hno
  | null | bool _ | number _ | string _ | array _ =>
    simp only [parseField, check_eq_ok, rejectDollarDeep_eq_ok, pure_eq_ok, looksLikeOperators]
    constructor
    · rintro ⟨hf, rfl⟩; exact Or.inl ⟨rfl, hf, trivial⟩
    · rintro (⟨rfl, hf, -⟩ | ⟨fs, hfs, -, -⟩)
      · exact ⟨hf, rfl⟩
      · cases hfs

/-! ## Predicates -/

mutual
/-- The operand that a key of a predicate holds: a list of predicates at `and` and `or`, a value or
a map of operators at any other key. -/
def Operand.WellFormed (key : String) : Operand → Prop
  | .scalar v => Operator.parse? key = none ∧ DollarFree v
  | .nested es => Operator.parse? key = none ∧ ∃ js, OperatorMap js ∧ es = scalars js
  | .list ws =>
    (∃ op, Operator.parse? key = some op ∧ op.isLogical = true) ∧ Where.WellFormedList ws
def Where.WellFormed : List (String × Operand) → Prop
  | [] => True
  | (k, x) :: es => isDollar k = false ∧ k ≠ "" ∧ x.WellFormed k ∧ Where.WellFormed es
def Where.WellFormedList : List (List (String × Operand)) → Prop
  | [] => True
  | w :: ws => Where.WellFormed w ∧ Where.WellFormedList ws
end

mutual
/-- No value under an implicit equality looks like a map of operators. -/
def Operand.Unambiguous : Operand → Prop
  | .scalar v => looksLikeOperators v = false
  | .nested _ => True
  | .list ws => Where.UnambiguousList ws
def Where.Unambiguous : List (String × Operand) → Prop
  | [] => True
  | (_, x) :: es => x.Unambiguous ∧ Where.Unambiguous es
def Where.UnambiguousList : List (List (String × Operand)) → Prop
  | [] => True
  | w :: ws => Where.Unambiguous w ∧ Where.UnambiguousList ws
end

mutual
/-- The number of `and` and `or` lists around the innermost predicate. -/
def Operand.nesting : Operand → Nat
  | .scalar _ | .nested _ => 0
  | .list ws => Where.nestingList ws
def Where.nesting : List (String × Operand) → Nat
  | [] => 0
  | (_, x) :: es => max x.nesting (Where.nesting es)
def Where.nestingList : List (List (String × Operand)) → Nat
  | [] => 0
  | w :: ws => max (Where.nesting w + 1) (Where.nestingList ws)
end

theorem wellFormed_iff {w : List (String × Operand)} :
    Where.WellFormed w ↔ ∀ e ∈ w, isDollar e.1 = false ∧ e.1 ≠ "" ∧ e.2.WellFormed e.1 := by
  induction w with
  | nil => simp [Where.WellFormed]
  | cons e es ih => simp [Where.WellFormed, ih, and_assoc]

theorem wellFormedList_iff {ws : List (List (String × Operand))} :
    Where.WellFormedList ws ↔ ∀ w ∈ ws, Where.WellFormed w := by
  induction ws with
  | nil => simp [Where.WellFormedList]
  | cons w ws ih => simp [Where.WellFormedList, ih]

/-! ## The parser accepts the grammar -/

/-- What a key holds after it was read. -/
def parseOperand (max depth : Nat) (key : String) (v : Json) : Except QueryError Operand :=
  match Operator.parse? key with
  | some op =>
    if op.isLogical then
      match v with
      | .array xs => (Where.parseItems max depth key xs).map .list
      | _ => .error (.operandNotArray key)
    else .error (.misplacedOperator op)
  | none => parseField key v

theorem parseEntries_cons {max depth : Nat} {k : String} {v : Json} {es : List (String × Json)} :
    Where.parseEntries max depth ((k, v) :: es) = (do
      rejectDollar k
      if k.isEmpty then throw .emptyField
      let x ← parseOperand max depth k v
      let rest ← Where.parseEntries max depth es
      return (k, x) :: rest) := by
  simp only [Where.parseEntries, parseOperand]
  cases Operator.parse? k with
  | none => rfl
  | some op =>
    dsimp only
    cases op.isLogical with
    | false => rfl
    | true => cases v <;> rfl

/-- One entry is read at a time. -/
theorem parseEntries_cons_eq_ok {max depth : Nat} {k : String} {v : Json}
    {es : List (String × Json)} {w : Where} :
    Where.parseEntries max depth ((k, v) :: es) = .ok w ↔
      isDollar k = false ∧ k ≠ "" ∧ ∃ x, parseOperand max depth k v = .ok x ∧
        ∃ rest, Where.parseEntries max depth es = .ok rest ∧ (k, x) :: rest = w := by
  by_cases hk : k = ""
  · subst hk
    simp [parseEntries_cons, check_eq_ok, throw_eq_ok]
  · have he : k.isEmpty = false := by simpa using hk
    simp only [parseEntries_cons, check_eq_ok, rejectDollar_eq_ok, he, Bool.false_eq_true, if_false]
    simp only [bind_eq_ok, pure_eq_ok, ne_eq, hk, not_false_eq_true, true_and]

/-- A field holds what `parseField` reads. -/
theorem parseOperand_field {max depth : Nat} {key : String} {v : Json} {x : Operand}
    (hp : Operator.parse? key = none) (hd : depth ≤ max) :
    parseOperand max depth key v = .ok x ↔
      x.WellFormed key ∧ x.Unambiguous ∧ depth + x.nesting ≤ max ∧ x.toValue = v := by
  simp only [parseOperand, hp, parseField_eq_ok]
  cases x with
  | scalar u =>
    simp only [Operand.scalar.injEq, reduceCtorEq, and_false, exists_false, or_false,
      Operand.WellFormed, hp, true_and, Operand.Unambiguous, Operand.nesting, Operand.toValue]
    constructor
    · rintro ⟨rfl, hf, hu⟩; exact ⟨hf, hu, hd, rfl⟩
    · rintro ⟨hf, hu, -, rfl⟩; exact ⟨rfl, hf, hu⟩
  | nested es =>
    simp only [reduceCtorEq, false_and, false_or, Operand.nested.injEq, Operand.WellFormed, hp,
      true_and, Operand.Unambiguous, Operand.nesting, Operand.toValue]
    constructor
    · rintro ⟨js, rfl, hm, rfl⟩
      exact ⟨⟨js, hm, rfl⟩, hd, by rw [entriesToValue_scalars]⟩
    · rintro ⟨⟨js, hm, rfl⟩, -, rfl⟩
      exact ⟨js, by rw [entriesToValue_scalars], hm, rfl⟩
  | list ws => simp [Operand.WellFormed, hp]

/-- `and` and `or` hold the predicates of an array, and no other keyword stands there. -/
theorem parseOperand_keyword {max depth : Nat} {key : String} {v : Json} {x : Operand}
    {op : Operator} (hp : Operator.parse? key = some op) :
    parseOperand max depth key v = .ok x ↔
      op.isLogical = true ∧ ∃ xs, v = .array xs ∧ ∃ ws,
        Where.parseItems max depth key xs = .ok ws ∧ .list ws = x := by
  simp only [parseOperand, hp]
  cases op.isLogical with
  | false => simp
  | true => cases v <;> simp [map_eq_ok]

theorem wellFormed_keyword {key : String} {x : Operand} {op : Operator}
    (hp : Operator.parse? key = some op) :
    x.WellFormed key ↔ op.isLogical = true ∧ ∃ ws, x = .list ws ∧ Where.WellFormedList ws := by
  cases x <;> simp [Operand.WellFormed, hp]

-- The induction is on the document. A key's operand says nothing of `depth` by itself: only
-- `parseItems` goes one level down, so the bound is carried as `depth + nesting ≤ max`.
mutual
theorem parseOperand_eq_ok {max depth : Nat} {key : String} {x : Operand} (hd : depth ≤ max) :
    ∀ v : Json, parseOperand max depth key v = .ok x ↔
      x.WellFormed key ∧ x.Unambiguous ∧ depth + x.nesting ≤ max ∧ x.toValue = v
  | .array xs => by
    cases hp : Operator.parse? key with
    | none => exact parseOperand_field hp hd
    | some op =>
      have hxs := @parseItems_eq_ok max depth key hd xs
      rw [parseOperand_keyword hp, wellFormed_keyword hp]
      simp only [Json.array.injEq, exists_eq_left', hxs]
      constructor
      · rintro ⟨hl, ws, ⟨hw, hu, hn, rfl⟩, rfl⟩
        exact ⟨⟨hl, ws, rfl, hw⟩, hu, hn, rfl⟩
      · rintro ⟨⟨hl, ws, rfl, hw⟩, hu, hn, hv⟩
        exact ⟨hl, ws, ⟨hw, hu, hn, by simpa [Operand.toValue] using hv⟩, rfl⟩
  | .null | .bool _ | .number _ | .string _ | .object _ => by
    cases hp : Operator.parse? key with
    | none => exact parseOperand_field hp hd
    | some op =>
      rw [parseOperand_keyword hp, wellFormed_keyword hp]
      constructor
      · rintro ⟨-, _, hv, -⟩; cases hv
      · rintro ⟨⟨-, _, rfl, -⟩, -, -, hv⟩; simp [Operand.toValue] at hv
theorem parseEntries_eq_ok {max depth : Nat} (hd : depth ≤ max) :
    ∀ (es : List (String × Json)) (w : List (String × Operand)),
      Where.parseEntries max depth es = .ok w ↔
        Where.WellFormed w ∧ Where.Unambiguous w ∧ depth + Where.nesting w ≤ max ∧
          Where.entriesToValue w = es
  | [], [] => by simp [Where.parseEntries, Where.WellFormed, Where.Unambiguous, Where.nesting,
      Where.entriesToValue, hd]
  | [], (l, y) :: w => by simp [Where.parseEntries, Where.entriesToValue]
  | (k, v) :: es, [] => by simp [parseEntries_cons_eq_ok, Where.entriesToValue]
  | (k, v) :: es, (l, y) :: w => by
    rw [parseEntries_cons_eq_ok]
    simp only [List.cons.injEq, Prod.mk.injEq, Where.WellFormed, Where.Unambiguous, Where.nesting,
      Where.entriesToValue]
    constructor
    · rintro ⟨hk, hne, x, hx, rest, hrest, ⟨rfl, rfl⟩, rfl⟩
      obtain ⟨hw, hu, hn, rfl⟩ := (parseOperand_eq_ok hd v).1 hx
      obtain ⟨hw', hu', hn', rfl⟩ := (parseEntries_eq_ok hd es _).1 hrest
      exact ⟨⟨hk, hne, hw, hw'⟩, ⟨hu, hu'⟩, by omega, ⟨rfl, rfl⟩, rfl⟩
    · rintro ⟨⟨hk, hne, hw, hw'⟩, ⟨hu, hu'⟩, hn, ⟨rfl, hv⟩, hes⟩
      exact ⟨hk, hne, y, (parseOperand_eq_ok hd v).2 ⟨hw, hu, by omega, hv⟩, w,
        (parseEntries_eq_ok hd es w).2 ⟨hw', hu', by omega, hes⟩, ⟨rfl, rfl⟩, rfl⟩
theorem parseItems_eq_ok {max depth : Nat} {key : String} (hd : depth ≤ max) :
    ∀ (xs : List Json) (ws : List (List (String × Operand))),
      Where.parseItems max depth key xs = .ok ws ↔
        Where.WellFormedList ws ∧ Where.UnambiguousList ws ∧ depth + Where.nestingList ws ≤ max ∧
          Where.listToValue ws = xs
  | [], [] => by simp [Where.parseItems, Where.WellFormedList, Where.UnambiguousList,
      Where.nestingList, Where.listToValue, hd]
  | [], w :: ws => by simp [Where.parseItems, Where.listToValue]
  | .object es :: xs, [] => by
    simp only [Where.parseItems]
    split <;> simp only [bind_eq_ok, pure_eq_ok, Where.listToValue] <;> simp
  | .object es :: xs, w :: ws => by
    simp only [Where.parseItems, Where.WellFormedList, Where.UnambiguousList, Where.nestingList,
      Where.listToValue, List.cons.injEq, Json.object.injEq]
    -- one more level of lists: refused if there is no room for it
    split
    · rename_i hlt
      constructor
      · simp [bind_eq_ok]
      · rintro ⟨-, -, hn, -⟩; omega
    · rename_i hlt
      simp only [bind_eq_ok, pure_eq_ok, List.cons.injEq]
      constructor
      · rintro ⟨v, hv, vs, hvs, rfl, rfl⟩
        obtain ⟨hw, hu, hn, rfl⟩ := (parseEntries_eq_ok (by omega) es v).1 hv
        obtain ⟨hw', hu', hn', rfl⟩ := (parseItems_eq_ok hd xs vs).1 hvs
        exact ⟨⟨hw, hw'⟩, ⟨hu, hu'⟩, by omega, rfl, rfl⟩
      · rintro ⟨⟨hw, hw'⟩, ⟨hu, hu'⟩, hn, hes, hxs⟩
        exact ⟨w, (parseEntries_eq_ok (by omega) es w).2 ⟨hw, hu, by omega, hes⟩, ws,
          (parseItems_eq_ok hd xs ws).2 ⟨hw', hu', by omega, hxs⟩, rfl, rfl⟩
  | .null :: _, ws | .bool _ :: _, ws | .number _ :: _, ws | .string _ :: _, ws
  | .array _ :: _, ws => by
    cases ws <;> simp [Where.parseItems, Where.listToValue]
end

/-- **What the parser accepts.** Reading an object with room for `max` levels gives `w` exactly if
`w` belongs to the grammar, is nested at most that deep, and is rendered as that object. -/
theorem parse_eq_ok {max : Nat} {es : List (String × Json)} {w : Where} :
    Where.parse max (.object es) = .ok w ↔
      Where.WellFormed w ∧ Where.Unambiguous w ∧ Where.nesting w ≤ max ∧
        w.toValue = .object es := by
  simp [Where.parse, Where.parseAt, parseEntries_eq_ok, Where.toValue]

end RestKit.Query
