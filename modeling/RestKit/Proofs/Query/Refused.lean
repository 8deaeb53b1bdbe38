import RestKit.Proofs.Query.Grammar
import RestKit.Proofs.Query.Recheck
/-!
# What is refused of filters in shape

The translation checks the shape of a predicate once more, whoever made it. Of a filter that is in
shape (`Filter.Shaped`) none of these checks refuses anything: the only errors left are those of
values that a field cannot store (`Unstorable`), and of the projection rule
(`toDocument_eq_error`). There is one lemma for each function of the translation, as there is for
its success.
-/
namespace RestKit.Query

variable {c : Collection} {e : QueryError}

/-! ## Values that cannot be stored -/

/-- The values that an operand compares its field with: the value of an implicit equality, of a
comparison, and the elements of a list of values. -/
inductive Operand.Compared : Operand → Json → Prop
  | implicit (v : Json) : Compared (.scalar v) v
  | comparison {ops : List (String × Operand)} {key : String} {op : Operator} {v : Json} :
      (key, .scalar v) ∈ ops → Operator.parse? key = some op → op.isComparison = true →
        Compared (.nested ops) v
  | element {ops : List (String × Operand)} {key : String} {op : Operator} {xs : List Json}
      {v : Json} :
      (key, .scalar (.array xs)) ∈ ops → Operator.parse? key = some op → op = .inq ∨ op = .nin →
        v ∈ xs → Compared (.nested ops) v

/-- The error of a field that holds object ids or dates for a value that is neither `null` nor
converted to one. -/
def Unconverted (c : Collection) (field : String) (v : Json) (e : QueryError) : Prop :=
  coerceOperand c field v = .error e ∧
    (c.typeOf field = .objectId ∧ e = .notObjectId field v ∨
      c.typeOf field = .date ∧ e = .notDate field v)

/-- The error refuses a value that some field of the predicate is compared with and cannot store. -/
def Where.Unstorable (c : Collection) (w : Where) (e : QueryError) : Prop :=
  ∃ field x v, Where.HasEntry w field x ∧ x.Compared v ∧ Unconverted c field v e

theorem Where.Unstorable.kind {w : Where} (h : w.Unstorable c e) : e.kind = .invalidValue := by
  obtain ⟨field, x, v, -, -, -, ⟨-, rfl⟩ | ⟨-, rfl⟩⟩ := h
  · rfl
  · rfl

theorem coerceObjectId_eq_error {field : String} {v : Json}
    (h : coerceObjectId field v = .error e) : e = .notObjectId field v := by
  unfold coerceObjectId at h
  split at h
  · split at h
    · cases h
    · exact (Except.error.inj h).symm
  · exact (Except.error.inj h).symm

theorem coerceDate_eq_error {field : String} {v : Json} (h : coerceDate field v = .error e) :
    e = .notDate field v := by
  unfold coerceDate at h
  dsimp only at h
  split at h
  · cases h
  · exact (Except.error.inj h).symm

theorem unconverted_of_coerceOperand {field : String} {v : Json}
    (h : coerceOperand c field v = .error e) : Unconverted c field v e := by
  refine ⟨h, ?_⟩
  unfold coerceOperand at h
  split at h
  · cases h
  · split at h
    · rename_i ht
      exact Or.inl ⟨ht, coerceObjectId_eq_error h⟩
    · rename_i ht
      exact Or.inr ⟨ht, coerceDate_eq_error h⟩
    · cases h

/-! ## Operators -/

/-- An operator on a value that it takes fails only if the value, or an element of it, cannot be
stored. -/
theorem translateOperator_eq_error {field key : String} {options : Option String} {data : Json}
    {op : Operator} (ht : op.Takes data)
    (h : translateOperator c field key options data op = .error e) :
    (op.isComparison = true ∧ Unconverted c field data e) ∨
      ((op = .inq ∨ op = .nin) ∧ ∃ xs, data = .array xs ∧ ∃ v ∈ xs, Unconverted c field v e) := by
  have hcompare : (do return [(op.document, ← coerceOperand c field data)] :
      Except QueryError (List (String × Json))) = .error e → Unconverted c field data e := by
    intro h
    rcases bind_eq_error.1 h with h | ⟨j, -, h⟩
    · exact unconverted_of_coerceOperand h
    · exact absurd h pure_ne_error
  have hamong : ∀ xs : List Json, (do
      return [(op.document, Json.array (← xs.mapM (coerceOperand c field)))] :
        Except QueryError (List (String × Json))) = .error e →
      ∃ v ∈ xs, Unconverted c field v e := by
    intro xs h
    rcases bind_eq_error.1 h with h | ⟨j, -, h⟩
    · obtain ⟨v, hv, h⟩ := mapM_eq_error h
      exact ⟨v, hv, unconverted_of_coerceOperand h⟩
    · exact absurd h pure_ne_error
  cases op with
  | and | or => exact ht.elim
  | inq | nin =>
    obtain ⟨⟨xs, rfl⟩, -⟩ := ht
    exact Or.inr ⟨by simp, xs, rfl, hamong xs h⟩
  | like | nlike | «exists» => cases h
  | eq | neq | gt | gte | lt | lte => exact Or.inl ⟨rfl, hcompare h⟩

/-- The checks of an entry of a map of operators pass. -/
theorem translateEntry_of_takes {field key : String} {options : Option String} {v : Json}
    (h : KeyTakes key v) :
    (key = optionsKey ∧ translateEntry c field options key (.scalar v) = .ok []) ∨
      ∃ op, Operator.parse? key = some op ∧ op.Takes v ∧
        translateEntry c field options key (.scalar v) =
          translateOperator c field key options v op := by
  rcases h with ⟨hkey, -⟩ | ⟨op, hop, ht⟩
  · exact Or.inl ⟨hkey, translateEntry_eq_ok.2 (Or.inl ⟨hkey, rfl⟩)⟩
  · refine Or.inr ⟨op, hop, ht, ?_⟩
    have hkey : (key == optionsKey) = false := by
      refine beq_eq_false_iff_ne.2 fun hkey => ?_
      rw [hkey, parse?_optionsKey] at hop
      cases hop
    have hdollar : rejectDollar key = .ok () := rejectDollar_eq_ok.2 (isDollar_of_parse? hop)
    have hdeep : rejectDollarDeep v = .ok () :=
      (rejectDollarDeep_eq_ok v).2 (dollarFree_of_takes ht)
    simp [translateEntry, hdollar, hkey, hop, hdeep, ok_bind]

theorem translateOperators_eq_error {field : String} {js : List (String × Json)}
    (hm : OperatorMap js) (h : translateOperators c field (scalars js) = .error e) :
    ∃ v, (Operand.nested (scalars js)).Compared v ∧ Unconverted c field v e := by
  rcases bind_eq_error.1 h with h | ⟨ess, -, h⟩
  · obtain ⟨⟨key, x⟩, hx, h⟩ := mapM_eq_error h
    obtain ⟨data, rfl, hdata⟩ := mem_scalars.1 hx
    have hentry : translateEntry c field (patternOptions (scalars js)) key (.scalar data) =
        .error e := h
    rcases translateEntry_of_takes (hm.takes _ hdata) with ⟨-, hok⟩ | ⟨op, hop, ht, hop'⟩
    · rw [hok] at hentry
      cases hentry
    · rw [hop'] at hentry
      rcases translateOperator_eq_error ht hentry with ⟨hc, hu⟩ | ⟨ho, xs, rfl, v, hv, hu⟩
      · exact ⟨data, .comparison hx hop hc, hu⟩
      · exact ⟨v, .element hx hop ho hv, hu⟩
  · exact absurd h pure_ne_error

/-! ## Predicates -/

theorem hasEntry_cons {w : List (String × Operand)} {m : String × Operand} {key : String}
    {x : Operand} (h : Where.HasEntry w key x) : Where.HasEntry (m :: w) key x := by
  cases h with
  | here hx => exact .here (List.mem_cons_of_mem _ hx)
  | inside hl hv hx => exact .inside (List.mem_cons_of_mem _ hl) hv hx

mutual
/-- Of a predicate of the grammar the translation refuses a value that cannot be stored, and nothing
else. The induction follows the nesting of `and` and `or`. -/
theorem unstorable_of_translateEntries : ∀ {w : List (String × Operand)}, Where.WellFormed w →
    translateEntries c w = .error e → Where.Unstorable c w e
  | [], _, h => by
    simp [translateEntries] at h
  | (key, x) :: w, hw, h => by
    have hdollar : rejectDollar key = .ok () := rejectDollar_eq_ok.2 hw.1
    rw [translateEntries_cons, hdollar, ok_bind] at h
    rcases bind_eq_error.1 h with h | ⟨d, -, h⟩
    · exact unstorable_of_translateMember hw.2.2.1 h (List.mem_cons_self ..)
    · rcases bind_eq_error.1 h with h | ⟨rest, -, h⟩
      · obtain ⟨field, y, v, hy, hv⟩ := unstorable_of_translateEntries hw.2.2.2 h
        exact ⟨field, y, v, hasEntry_cons hy, hv⟩
      · exact absurd h pure_ne_error
theorem unstorable_of_translateMember : ∀ {key : String} {x : Operand}, x.WellFormed key →
    translateMember c key x = .error e →
      ∀ {w : List (String × Operand)}, (key, x) ∈ w → Where.Unstorable c w e
  | key, .scalar v, hx, h, w, hw => by
    simp only [translateMember, hx.1, map_eq_error] at h
    exact ⟨key, _, v, .here hw, .implicit v, unconverted_of_coerceOperand h⟩
  | key, .nested es, ⟨hp, js, hm, hes⟩, h, w, hw => by
    subst hes
    simp only [translateMember, hp, map_eq_error] at h
    obtain ⟨v, hv, hu⟩ := translateOperators_eq_error hm h
    exact ⟨key, _, v, .here hw, hv, hu⟩
  | key, .list ws, ⟨⟨op, hop, hl⟩, hws⟩, h, w, hw => by
    simp only [translateMember, hop, hl, if_true, map_eq_error] at h
    obtain ⟨u, hu, field, y, v, hy, hv⟩ := unstorable_of_translateList hws h
    exact ⟨field, y, v, .inside hw hu hy, hv⟩
theorem unstorable_of_translateList : ∀ {ws : List (List (String × Operand))},
    Where.WellFormedList ws → translateList c ws = .error e →
      ∃ w ∈ ws, Where.Unstorable c w e
  | [], _, h => by
    simp [translateList] at h
  | w :: ws, hw, h => by
    rw [translateList] at h
    rcases bind_eq_error.1 h with h | ⟨d, -, h⟩
    · exact ⟨w, List.mem_cons_self .., unstorable_of_translateEntries hw.1 h⟩
    · rcases bind_eq_error.1 h with h | ⟨ds, -, h⟩
      · obtain ⟨v, hv, h⟩ := unstorable_of_translateList hw.2 h
        exact ⟨v, List.mem_cons_of_mem _ hv, h⟩
      · exact absurd h pure_ne_error
end

/-! ## Filters -/

mutual
/-- The projection rule has one error. -/
theorem kind_of_checkProjection : ∀ {f : Filter}, f.checkProjection = .error e →
    e.kind = .mixedProjection
  | ⟨_, fields, _, _, _, includes⟩, h => by
    rw [Filter.checkProjection] at h
    split at h
    · rw [← Except.error.inj h]
      rfl
    · exact kind_of_checkScopes h
theorem kind_of_checkScopes : ∀ {is : List (String × Option Filter)},
    Filter.checkScopes is = .error e → e.kind = .mixedProjection
  | [], h => by
    cases h
  | (_, none) :: rest, h => by
    rw [Filter.checkScopes] at h
    exact kind_of_checkScopes h
  | (_, some scope) :: rest, h => by
    rw [Filter.checkScopes] at h
    rcases bind_eq_error.1 h with h | ⟨_, -, h⟩
    · exact kind_of_checkProjection h
    · exact kind_of_checkScopes h
end

/-- What the translation asks of a filter: a predicate of the grammar, and no field of the
projection or of the order that starts with a dollar sign. -/
structure Filter.Shaped (f : Filter) : Prop where
  predicate : ∀ w ∈ f.predicate, Where.WellFormed w
  fields : ∀ e ∈ f.fields, isDollar e.1 = false
  order : ∀ e ∈ f.order, isDollar e.field = false

/-- A query that is refused because of a value: some field of the predicate cannot store it. -/
def RefusesValue (c : Collection) (f : Filter) (e : QueryError) : Prop :=
  e.kind = .invalidValue ∧ ∃ w, f.predicate = some w ∧ w.Unstorable c e

/-- Of a filter in shape the translation refuses values, and a projection against the rule. -/
theorem toDocument_eq_error {f : Filter} (hf : f.Shaped) (h : f.toDocument c = .error e) :
    RefusesValue c f e ∨ f.checkProjection = .error e := by
  rw [toDocument_eq] at h
  rcases bind_eq_error.1 h with h | ⟨d, -, h⟩
  · left
    unfold predicateDocument at h
    cases hp : f.predicate with
    | none =>
      rw [hp] at h
      cases h
    | some w =>
      rw [hp] at h
      have hw : w.Unstorable c e :=
        unstorable_of_translateEntries (hf.predicate w hp) (map_eq_error.1 h)
      exact ⟨hw.kind, w, hp, hw⟩
  · right
    have hsort : (f.order.mapM fun e => do
        rejectDollar e.field
        return (e.field, e.direction.sign) : Except QueryError (List (String × Int))) =
          .ok (f.order.map fun e => (e.field, e.direction.sign)) := sort_eq_ok.2 ⟨hf.order, rfl⟩
    have hfields : f.fields.entries.forM (fun e => rejectDollar e.1) = .ok () :=
      forM_eq_ok.2 fun e he => rejectDollar_eq_ok.2 (hf.fields e he)
    rw [hsort, ok_bind] at h
    rcases bind_eq_error.1 h with h | ⟨p, -, h⟩
    · unfold projectionOf at h
      rcases bind_eq_error.1 h with h | ⟨_, -, h⟩
      · exact h
      · rcases bind_eq_error.1 h with h | ⟨_, -, h⟩
        · cases hfields.symm.trans h
        · split at h
          · exact absurd h pure_ne_error
          · exact absurd h pure_ne_error
    · exact absurd h pure_ne_error

end RestKit.Query
