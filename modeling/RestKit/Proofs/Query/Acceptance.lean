import RestKit.Proofs.Query.Grammar
/-!
# Which documents are predicates

`IsWhere` is the grammar of predicates over documents, without a limit on the nesting, and `levels`
counts the nested lists of `and` and `or`. The parser accepts `null` and the documents of the
grammar that are nested no deeper than its limit; a document of the grammar that is nested deeper is
refused for that reason and for no other (`parse_accepts_iff`).
-/
namespace RestKit.Query

/-! ## Documents of the grammar -/

/-- A key that names a field. -/
structure IsField (key : String) : Prop where
  ne_empty : key ≠ ""
  noDollar : isDollar key = false
  noKeyword : Operator.parse? key = none

mutual
/-- A predicate as a document: an object, with an operand at each of its keys. -/
inductive IsWhere : Json → Prop
  | object {es : List (String × Json)} (operands : ∀ e ∈ es, IsOperand e.1 e.2) :
    IsWhere (.object es)
/-- What may stand at a key of a predicate. -/
inductive IsOperand : String → Json → Prop
  /-- `and` and `or` hold predicates, and no other keyword stands there. -/
  | logical {key : String} {op : Operator} {xs : List Json}
    (keyword : Operator.parse? key = some op) (logical : op.isLogical = true)
    (items : ∀ x ∈ xs, IsWhere x) : IsOperand key (.array xs)
  /-- A field holds a value, which is no object with a keyword or the key of pattern options. -/
  | value {key : String} {v : Json} (field : IsField key) (free : DollarFree v)
    (plain : looksLikeOperators v = false) : IsOperand key v
  /-- A field holds a map of operators. -/
  | operators {key : String} {es : List (String × Json)} (field : IsField key)
    (operands : OperatorMap es) : IsOperand key (.object es)
end

/-- Whether a key combines predicates. -/
def isLogicalKey (key : String) : Bool := ((Operator.parse? key).map Operator.isLogical).getD false

mutual
/-- The number of `and` and `or` lists around the innermost predicate of a document. An empty list
is around none, and a list in the value of a field is no such list. -/
def levels : Json → Nat
  | .object es => entryLevels es
  | _ => 0
def entryLevels : List (String × Json) → Nat
  | [] => 0
  | (k, v) :: es => max (operandLevels k v) (entryLevels es)
def operandLevels (key : String) : Json → Nat
  | .array xs => if isLogicalKey key then itemLevels xs else 0
  | _ => 0
def itemLevels : List Json → Nat
  | [] => 0
  | x :: xs => max (levels x + 1) (itemLevels xs)
end

/-! ## One key -/

theorem isWhere_object {es : List (String × Json)} :
    IsWhere (.object es) ↔ ∀ e ∈ es, IsOperand e.1 e.2 :=
  ⟨fun | .object h => h, .object⟩

/-- What stands at a keyword. -/
theorem isOperand_keyword {key : String} {v : Json} {op : Operator}
    (hp : Operator.parse? key = some op) :
    IsOperand key v ↔ op.isLogical = true ∧ ∃ xs, v = .array xs ∧ ∀ x ∈ xs, IsWhere x := by
  constructor
  · intro h
    cases h with
    | logical keyword logical items =>
      obtain rfl : op = _ := Option.some.inj (hp.symm.trans keyword)
      exact ⟨logical, _, rfl, items⟩
    | value field => simp [field.noKeyword] at hp
    | operators field => simp [field.noKeyword] at hp
  · rintro ⟨logical, xs, rfl, items⟩
    exact .logical hp logical items

/-- What stands at another key. -/
theorem isOperand_field {key : String} {v : Json} (hp : Operator.parse? key = none) :
    IsOperand key v ↔ IsField key ∧ ((DollarFree v ∧ looksLikeOperators v = false) ∨
      ∃ es, v = .object es ∧ OperatorMap es) := by
  constructor
  · intro h
    cases h with
    | logical keyword => simp [hp] at keyword
    | value field free plain => exact ⟨field, .inl ⟨free, plain⟩⟩
    | operators field operands => exact ⟨field, .inr ⟨_, rfl, operands⟩⟩
  · rintro ⟨field, ⟨free, plain⟩ | ⟨es, rfl, operands⟩⟩
    · exact .value field free plain
    · exact .operators field operands

/-- A key at which something may stand is not empty and has no dollar sign in front. -/
theorem IsOperand.key {key : String} {v : Json} (h : IsOperand key v) :
    isDollar key = false ∧ key ≠ "" := by
  cases h with
  | logical keyword => exact ⟨isDollar_of_parse? keyword, ne_empty_of_parse? keyword⟩
  | value field => exact ⟨field.noDollar, field.ne_empty⟩
  | operators field => exact ⟨field.noDollar, field.ne_empty⟩

theorem operandLevels_keyword {key : String} {op : Operator} (hp : Operator.parse? key = some op)
    (hl : op.isLogical = true) (xs : List Json) :
    operandLevels key (.array xs) = itemLevels xs := by
  rw [operandLevels, isLogicalKey, hp, Option.map_some, Option.getD_some, if_pos hl]

theorem operandLevels_field {key : String} (hp : Operator.parse? key = none) (v : Json) :
    operandLevels key v = 0 := by
  cases v <;> simp [operandLevels, isLogicalKey, hp]

/-! ## What is accepted -/

theorem exists_parseOperand_field {max depth : Nat} {key : String} {v : Json}
    (hp : Operator.parse? key = none) :
    (∃ x, parseOperand max depth key v = .ok x) ↔
      (DollarFree v ∧ looksLikeOperators v = false) ∨ ∃ es, v = .object es ∧ OperatorMap es := by
  simp only [parseOperand, hp, parseField_eq_ok]
  constructor
  · rintro ⟨x, ⟨-, h⟩ | ⟨es, hes, hm, -⟩⟩
    · exact .inl h
    · exact .inr ⟨es, hes, hm⟩
  · rintro (h | ⟨es, hes, hm⟩)
    · exact ⟨_, .inl ⟨rfl, h⟩⟩
    · exact ⟨_, .inr ⟨es, hes, hm, rfl⟩⟩

/-- What a field may hold is read at any depth. -/
theorem parseOperand_field_iff {max depth : Nat} {key : String} {v : Json}
    (hp : Operator.parse? key = none) (hd : depth ≤ max) :
    (isDollar key = false ∧ key ≠ "" ∧ ∃ x, parseOperand max depth key v = .ok x) ↔
      IsOperand key v ∧ depth + operandLevels key v ≤ max := by
  rw [exists_parseOperand_field hp, isOperand_field hp, operandLevels_field hp]
  constructor
  · rintro ⟨hdollar, hne, h⟩
    exact ⟨⟨⟨hne, hdollar, hp⟩, h⟩, hd⟩
  · rintro ⟨⟨field, h⟩, -⟩
    exact ⟨field.noDollar, field.ne_empty, h⟩

-- The induction is on the document, as in `parseOperand_eq_ok`; here it is not said what is read.
mutual
theorem exists_parseOperand {max depth : Nat} (key : String) (hd : depth ≤ max) :
    ∀ v : Json, (isDollar key = false ∧ key ≠ "" ∧ ∃ x, parseOperand max depth key v = .ok x) ↔
      IsOperand key v ∧ depth + operandLevels key v ≤ max
  | .array xs => by
    cases hp : Operator.parse? key with
    | none => exact parseOperand_field_iff hp hd
    | some op =>
      have hxs := exists_parseItems key hd xs
      rw [isOperand_keyword hp]
      simp only [parseOperand_keyword hp, Json.array.injEq, exists_eq_left']
      constructor
      · rintro ⟨-, -, x, hl, ws, hws, -⟩
        obtain ⟨hitems, hn⟩ := hxs.1 ⟨ws, hws⟩
        exact ⟨⟨hl, hitems⟩, by rwa [operandLevels_keyword hp hl]⟩
      · rintro ⟨⟨hl, hitems⟩, hn⟩
        rw [operandLevels_keyword hp hl] at hn
        obtain ⟨ws, hws⟩ := hxs.2 ⟨hitems, hn⟩
        exact ⟨isDollar_of_parse? hp, ne_empty_of_parse? hp, .list ws, hl, ws, hws, rfl⟩
  | .null | .bool _ | .number _ | .string _ | .object _ => by
    cases hp : Operator.parse? key with
    | none => exact parseOperand_field_iff hp hd
    | some op => simp [parseOperand_keyword hp, isOperand_keyword hp]
theorem exists_parseEntries {max depth : Nat} (hd : depth ≤ max) :
    ∀ es : List (String × Json), (∃ w, Where.parseEntries max depth es = .ok w) ↔
      (∀ e ∈ es, IsOperand e.1 e.2) ∧ depth + entryLevels es ≤ max
  | [] => by simp [Where.parseEntries, entryLevels, hd]
  | (k, v) :: es => by
    have hv := exists_parseOperand k hd v
    have hes := exists_parseEntries hd es
    simp only [parseEntries_cons_eq_ok, List.forall_mem_cons, entryLevels]
    constructor
    · rintro ⟨w, hk, hne, x, hx, rest, hrest, -⟩
      obtain ⟨hoperand, hn⟩ := hv.1 ⟨hk, hne, x, hx⟩
      obtain ⟨hoperands, hn'⟩ := hes.1 ⟨rest, hrest⟩
      exact ⟨⟨hoperand, hoperands⟩, by omega⟩
    · rintro ⟨⟨hoperand, hoperands⟩, hn⟩
      obtain ⟨hk, hne, x, hx⟩ := hv.2 ⟨hoperand, by omega⟩
      obtain ⟨rest, hrest⟩ := hes.2 ⟨hoperands, by omega⟩
      exact ⟨_, hk, hne, x, hx, rest, hrest, rfl⟩
theorem exists_parseItems {max depth : Nat} (key : String) (hd : depth ≤ max) :
    ∀ xs : List Json, (∃ ws, Where.parseItems max depth key xs = .ok ws) ↔
      (∀ x ∈ xs, IsWhere x) ∧ depth + itemLevels xs ≤ max
  | [] => by simp [Where.parseItems, itemLevels, hd]
  | .object es :: xs => by
    have hxs := exists_parseItems key hd xs
    simp only [Where.parseItems, List.forall_mem_cons, isWhere_object, itemLevels, levels]
    -- one more level of lists: refused if there is no room for it
    split
    · rename_i hlt
      constructor
      · rintro ⟨ws, h⟩; simp [bind_eq_ok] at h
      · rintro ⟨-, hn⟩; omega
    · rename_i hlt
      have hroom : depth + 1 ≤ max := by omega
      have hes := exists_parseEntries hroom es
      simp only [bind_eq_ok, pure_eq_ok]
      constructor
      · rintro ⟨ws, w, hw, ws', hws, -⟩
        obtain ⟨hoperands, hn⟩ := hes.1 ⟨w, hw⟩
        obtain ⟨hitems, hn'⟩ := hxs.1 ⟨ws', hws⟩
        exact ⟨⟨hoperands, hitems⟩, by omega⟩
      · rintro ⟨⟨hoperands, hitems⟩, hn⟩
        obtain ⟨w, hw⟩ := hes.2 ⟨hoperands, by omega⟩
        obtain ⟨ws, hws⟩ := hxs.2 ⟨hitems, by omega⟩
        exact ⟨_, w, hw, ws, hws, rfl⟩
  | .null :: _ | .bool _ :: _ | .number _ :: _ | .string _ :: _ | .array _ :: _ => by
    simp only [Where.parseItems, reduceCtorEq, exists_false, List.forall_mem_cons, false_iff]
    rintro ⟨⟨h, -⟩, -⟩
    cases h
end

/-! ## What is too deep -/

/-- A result is a value, or the refusal of too deep a nesting. -/
def FitsOrTooDeep {α : Type} (max : Nat) (r : Except QueryError α) : Prop :=
  (∃ a, r = .ok a) ∨ r = .error (.tooDeep max)

theorem FitsOrTooDeep.bind {α β : Type} {max : Nat} {r : Except QueryError α}
    {f : α → Except QueryError β} (h : FitsOrTooDeep max r) (hf : ∀ a, FitsOrTooDeep max (f a)) :
    FitsOrTooDeep max (r >>= f) := by
  rcases h with ⟨a, rfl⟩ | rfl
  · exact hf a
  · exact .inr rfl

theorem FitsOrTooDeep.map {α β : Type} {max : Nat} {r : Except QueryError α} {f : α → β}
    (h : FitsOrTooDeep max r) : FitsOrTooDeep max (r.map f) := by
  rcases h with ⟨a, rfl⟩ | rfl
  · exact .inl ⟨_, rfl⟩
  · exact .inr rfl

theorem fits_parseOperand_field {max depth : Nat} {key : String} {v : Json}
    (hp : Operator.parse? key = none) (h : IsOperand key v) :
    FitsOrTooDeep max (parseOperand max depth key v) :=
  .inl ((exists_parseOperand_field hp).2 ((isOperand_field hp).1 h).2)

-- Here `depth` may be at the limit, and the documents of a list beyond it.
mutual
theorem fits_parseOperand {max depth : Nat} {key : String} :
    ∀ v : Json, IsOperand key v → FitsOrTooDeep max (parseOperand max depth key v)
  | .array xs, h => by
    cases hp : Operator.parse? key with
    | none => exact fits_parseOperand_field hp h
    | some op =>
      obtain ⟨hl, ys, hys, hitems⟩ := (isOperand_keyword hp).1 h
      cases hys
      simp only [parseOperand, hp, hl, if_true]
      exact (fits_parseItems xs hitems).map
  | .null, h | .bool _, h | .number _, h | .string _, h | .object _, h => by
    cases hp : Operator.parse? key with
    | none => exact fits_parseOperand_field hp h
    | some op =>
      obtain ⟨-, ys, hys, -⟩ := (isOperand_keyword hp).1 h
      cases hys
theorem fits_parseEntries {max depth : Nat} :
    ∀ es : List (String × Json), (∀ e ∈ es, IsOperand e.1 e.2) →
      FitsOrTooDeep max (Where.parseEntries max depth es)
  | [], _ => .inl ⟨[], by rw [Where.parseEntries]⟩
  | (k, v) :: es, h => by
    obtain ⟨hoperand, hoperands⟩ := List.forall_mem_cons.1 h
    obtain ⟨hk, hne⟩ := hoperand.key
    have hkey : rejectDollar k = .ok () := rejectDollar_eq_ok.2 hk
    have hempty : k.isEmpty = false := by simpa using hne
    rw [parseEntries_cons, hkey, ok_bind, hempty, if_neg Bool.false_ne_true]
    refine (fits_parseOperand v hoperand).bind fun x => ?_
    exact (fits_parseEntries es hoperands).bind fun rest => .inl ⟨_, rfl⟩
theorem fits_parseItems {max depth : Nat} {key : String} :
    ∀ xs : List Json, (∀ x ∈ xs, IsWhere x) → FitsOrTooDeep max (Where.parseItems max depth key xs)
  | [], _ => .inl ⟨[], by rw [Where.parseItems]⟩
  | .object es :: xs, h => by
    obtain ⟨hitem, hitems⟩ := List.forall_mem_cons.1 h
    rw [Where.parseItems]
    split
    · exact .inr rfl
    · refine (fits_parseEntries es (isWhere_object.1 hitem)).bind fun w => ?_
      exact (fits_parseItems xs hitems).bind fun ws => .inl ⟨_, rfl⟩
  | .null :: _, h | .bool _ :: _, h | .number _ :: _, h | .string _ :: _, h | .array _ :: _, h => by
    cases (List.forall_mem_cons.1 h).1
end

/-! ## Documents -/

theorem parse_object {max : Nat} {es : List (String × Json)} :
    Where.parse max (.object es) = Where.parseEntries max 0 es := by
  simp [Where.parse, Where.parseAt]

/-- A predicate that is read is read with any greater limit. -/
theorem parse_mono {max max' : Nat} {v : Json} {w : Where} (h : Where.parse max v = .ok w)
    (hle : max ≤ max') : Where.parse max' v = .ok w := by
  cases v with
  | object es =>
    obtain ⟨hw, hu, hn, hv⟩ := parse_eq_ok.1 h
    exact parse_eq_ok.2 ⟨hw, hu, Nat.le_trans hn hle, hv⟩
  | null => simpa [Where.parse, Where.parseAt] using h
  | bool _ | number _ | string _ | array _ => simp [Where.parse, Where.parseAt] at h

/-- **Exact acceptance.** What is accepted is `null` and the documents of the grammar that are
nested no deeper than the limit; a greater limit changes no result; and a document of the grammar
that is nested deeper is refused as too deep. -/
theorem parse_accepts_iff (max : Nat) (v : Json) :
    ((∃ w, Where.parse max v = .ok w) ↔ v = .null ∨ IsWhere v ∧ levels v ≤ max) ∧
      (∀ max' w, Where.parse max v = .ok w → max ≤ max' → Where.parse max' v = .ok w) ∧
      (IsWhere v → max < levels v → Where.parse max v = .error (.tooDeep max)) := by
  have haccepts : (∃ w, Where.parse max v = .ok w) ↔ v = .null ∨ IsWhere v ∧ levels v ≤ max := by
    cases v with
    | object es =>
      have hes := exists_parseEntries (Nat.zero_le max) es
      simpa [parse_object, isWhere_object, levels] using hes
    | null => simp [Where.parse, Where.parseAt]
    | bool _ | number _ | string _ | array _ =>
      simp only [Where.parse, Where.parseAt, Nat.not_lt_zero, if_false, reduceCtorEq, exists_false,
        false_or, false_iff]
      rintro ⟨h, -⟩
      cases h
  refine ⟨haccepts, fun max' w => parse_mono, fun hv hlt => ?_⟩
  obtain ⟨es, rfl⟩ : ∃ es, v = .object es := by
    cases hv with
    | object => exact ⟨_, rfl⟩
  have hfits : FitsOrTooDeep max (Where.parseEntries max 0 es) :=
    fits_parseEntries es (isWhere_object.1 hv)
  rcases hfits with ⟨w, hw⟩ | htoo
  · rcases haccepts.1 ⟨w, parse_object.trans hw⟩ with h | ⟨-, hle⟩
    · cases h
    · omega
  · exact parse_object.trans htoo

end RestKit.Query
