import RestKit.Proofs.Query.Translation
/-!
# What the translation checks again

A predicate that was put together by hand may hold dollar keys anywhere. The translation refuses
one at every place (`not_rechecked_of_translateEntries`) but one: the value under an implicit
equality, at a field that converts nothing, is copied unread. `dollar_refused_iff` says that this is
the only gap, and that nothing in such a value changes whether the translation succeeds.
-/
namespace RestKit.Query

variable {c : Collection}

/-! ## Dollar keys in predicates -/

/-- Some key inside an operand starts with a dollar sign. What stands at the key of pattern options
is no operand: a text there has no keys, and anything else is dropped. -/
inductive Operand.DollarInside : Operand → Prop
  | scalar {v : Json} : ¬ DollarFree v → DollarInside (.scalar v)
  | operatorKey {es : List (String × Operand)} {k : String} {x : Operand} :
      (k, x) ∈ es → isDollar k = true → DollarInside (.nested es)
  | operator {es : List (String × Operand)} {k : String} {x : Operand} :
      (k, x) ∈ es → k ≠ optionsKey → x.DollarInside → DollarInside (.nested es)
  | listKey {ws : List (List (String × Operand))} {w : List (String × Operand)} {k : String}
      {x : Operand} : w ∈ ws → (k, x) ∈ w → isDollar k = true → DollarInside (.list ws)
  | list {ws : List (List (String × Operand))} {w : List (String × Operand)} {k : String}
      {x : Operand} : w ∈ ws → (k, x) ∈ w → x.DollarInside → DollarInside (.list ws)

/-- Some key of a predicate, or inside an operand of it, starts with a dollar sign. -/
def Where.HasDollar (w : Where) : Prop := ∃ e ∈ w, isDollar e.1 = true ∨ e.2.DollarInside

/-- The entries of a predicate at any level of lists. -/
inductive Where.HasEntry : List (String × Operand) → String → Operand → Prop
  | here {w : List (String × Operand)} {k : String} {x : Operand} : (k, x) ∈ w → HasEntry w k x
  | inside {w v : List (String × Operand)} {ws : List (List (String × Operand))} {l k : String}
      {x : Operand} : (l, .list ws) ∈ w → v ∈ ws → HasEntry v k x → HasEntry w k x

/-- A field that stores operands as they are. -/
def Collection.StoresAsIs (c : Collection) (field : String) : Prop :=
  c.typeOf field ≠ .objectId ∧ c.typeOf field ≠ .date

/-- A dollar key stands in the value of an implicit equality at a field that stores it as it is. -/
def Where.Leaks (c : Collection) (w : Where) : Prop :=
  ∃ k v, Where.HasEntry w k (.scalar v) ∧ c.StoresAsIs k ∧ ¬ DollarFree v

/-- A dollar key stands anywhere else: it is the key of an entry, stands in a map of operators, or
in the value of an implicit equality at a field that converts it. -/
def Where.Rechecked (c : Collection) (w : Where) : Prop :=
  ∃ k x, Where.HasEntry w k x ∧
    (isDollar k = true ∨ (∃ ops, x = .nested ops ∧ x.DollarInside) ∨
      ∃ v, x = .scalar v ∧ ¬ c.StoresAsIs k ∧ ¬ DollarFree v)

theorem rechecked_inside {w v : Where} {ws : List Where} {l : String} (hl : (l, .list ws) ∈ w)
    (hv : v ∈ ws) (h : v.Rechecked c) : w.Rechecked c := by
  obtain ⟨k, x, he, h⟩ := h
  exact ⟨k, x, .inside hl hv he, h⟩

theorem leaks_inside {w v : Where} {ws : List Where} {l : String} (hl : (l, .list ws) ∈ w)
    (hv : v ∈ ws) (h : v.Leaks c) : w.Leaks c := by
  obtain ⟨k, u, he, h⟩ := h
  exact ⟨k, u, .inside hl hv he, h⟩

/-- A dollar key inside an operand of an entry is found at one of the places. -/
theorem leaks_or_rechecked_of_inside {x : Operand} (hx : x.DollarInside) :
    ∀ {w : Where} {k : String}, (k, x) ∈ w → w.Leaks c ∨ w.Rechecked c := by
  induction hx with
  | @scalar v hv =>
    intro w k hk
    by_cases hs : c.StoresAsIs k
    · exact Or.inl ⟨k, v, .here hk, hs, hv⟩
    · exact Or.inr ⟨k, _, .here hk, Or.inr (Or.inr ⟨v, rfl, hs, hv⟩)⟩
  | operatorKey hm hd =>
    intro w k hk
    exact Or.inr ⟨k, _, .here hk, Or.inr (Or.inl ⟨_, rfl, .operatorKey hm hd⟩)⟩
  | operator hm ho hd =>
    intro w k hk
    exact Or.inr ⟨k, _, .here hk, Or.inr (Or.inl ⟨_, rfl, .operator hm ho hd⟩)⟩
  | listKey hv hm hd =>
    intro w k hk
    exact Or.inr ⟨_, _, .inside hk hv (.here hm), Or.inl hd⟩
  | list hv hm _ ih =>
    intro w k hk
    exact (ih hm).imp (leaks_inside hk hv) (rechecked_inside hk hv)

theorem hasDollar_of_leaks {w : Where} (h : w.Leaks c) : w.HasDollar := by
  obtain ⟨k, v, he, -, hv⟩ := h
  generalize hx : Operand.scalar v = x at he
  induction he with
  | here hk => subst hx; exact ⟨_, hk, Or.inr (.scalar hv)⟩
  | inside hl hm _ ih =>
    obtain ⟨e, he, hd⟩ := ih hx
    rcases hd with hd | hd
    · exact ⟨_, hl, Or.inr (.listKey hm he hd)⟩
    · exact ⟨_, hl, Or.inr (.list hm he hd)⟩

/-- Every dollar key of a predicate is at one of the places. -/
theorem leaks_or_rechecked {w : Where} (h : w.HasDollar) : w.Leaks c ∨ w.Rechecked c := by
  obtain ⟨⟨k, x⟩, he, hd | hd⟩ := h
  · exact Or.inr ⟨k, x, .here he, Or.inl hd⟩
  · exact leaks_or_rechecked_of_inside hd he

/-! ## The places that are checked -/

/-- Every entry of a translated predicate was translated. -/
theorem translated_of_mem {w : List (String × Operand)} {d : List (String × Json)} {k : String}
    {x : Operand} (h : translateEntries c w = .ok d) (hm : (k, x) ∈ w) :
    isDollar k = false ∧ ∃ e, translateMember c k x = .ok e := by
  induction w generalizing d with
  | nil => cases hm
  | cons e w ih =>
    obtain ⟨hl, e', he, rest, hrest, -⟩ := translateEntries_cons_eq_ok.1 h
    rcases List.mem_cons.1 hm with rfl | hm
    · exact ⟨hl, e', he⟩
    · exact ih hrest hm

theorem translated_of_mem_list {ws : List (List (String × Operand))} {ds : List Json}
    {w : List (String × Operand)} (h : translateList c ws = .ok ds) (hm : w ∈ ws) :
    ∃ d, translateEntries c w = .ok d := by
  induction ws generalizing ds with
  | nil => cases hm
  | cons v ws ih =>
    obtain ⟨d, hd, rest, hrest, -⟩ := translateList_cons_eq_ok.1 h
    rcases List.mem_cons.1 hm with rfl | hm
    · exact ⟨d, hd⟩
    · exact ih hrest hm

theorem translated_of_hasEntry {w : List (String × Operand)} {k : String} {x : Operand}
    (he : Where.HasEntry w k x) {d : List (String × Json)} (h : translateEntries c w = .ok d) :
    isDollar k = false ∧ ∃ e, translateMember c k x = .ok e := by
  induction he generalizing d with
  | here hm => exact translated_of_mem h hm
  | inside hl hm _ ih =>
    obtain ⟨-, e, he⟩ := translated_of_mem h hl
    obtain ⟨op, -, -, ds, hds, -⟩ := translateMember_list_eq_ok.1 he
    obtain ⟨d', hd'⟩ := translated_of_mem_list hds hm
    exact ih hd'

/-- A field that converts operands takes no value that has keys. -/
theorem dollarFree_of_coerceOperand {field : String} {v j : Json} (hs : ¬ c.StoresAsIs field)
    (h : coerceOperand c field v = .ok j) : DollarFree v := by
  rcases coerceOperand_eq_ok.1 h with ⟨rfl, -⟩ | ⟨-, h⟩ | ⟨-, h⟩ | ⟨ho, hd, -⟩
  · exact dollarFree_leaf rfl rfl
  · obtain ⟨s, rfl, -⟩ := coerceObjectId_eq_ok.1 h
    exact dollarFree_leaf rfl rfl
  · obtain ⟨t, ht, -⟩ := coerceDate_eq_ok.1 h
    cases v with
    | string s => exact dollarFree_leaf rfl rfl
    | number n => exact dollarFree_leaf rfl rfl
    | _ => simp [instantOf] at ht
  · exact absurd ⟨ho, hd⟩ hs

/-- A translated map of operators has no dollar key. -/
theorem not_dollarInside_of_translateOperators {field : String} {ops : List (String × Operand)}
    {js : List (String × Json)} (h : translateOperators c field ops = .ok js) :
    ¬ (Operand.nested ops).DollarInside := by
  intro hd
  cases hd with
  | operatorKey hm hk =>
    obtain ⟨es, hes⟩ := translateEntry_of_mem h hm
    rcases translateEntry_eq_ok.1 hes with ⟨rfl, -⟩ | ⟨op, data, hp, -⟩
    · rw [isDollar_optionsKey] at hk
      cases hk
    · rw [isDollar_of_parse? hp] at hk
      cases hk
  | operator hm ho hx =>
    obtain ⟨es, hes⟩ := translateEntry_of_mem h hm
    rcases translateEntry_eq_ok.1 hes with ⟨hk, -⟩ | ⟨op, data, -, rfl, hf, -⟩
    · exact ho hk
    · cases hx with
      | scalar hv => exact hv hf

/-- **Checked again.** A translated predicate has no dollar key at any of the checked places. -/
theorem not_rechecked_of_translateEntries {w : Where} {d : List (String × Json)}
    (h : translateEntries c w = .ok d) : ¬ w.Rechecked c := by
  rintro ⟨k, x, he, hplace⟩
  obtain ⟨hk, e, hm⟩ := translated_of_hasEntry he h
  rcases hplace with hd | ⟨ops, rfl, hd⟩ | ⟨v, rfl, hs, hv⟩
  · rw [hk] at hd
    cases hd
  · obtain ⟨-, js, hjs, -⟩ := translateMember_nested_eq_ok.1 hm
    exact not_dollarInside_of_translateOperators hjs hd
  · obtain ⟨-, j, hj, -⟩ := translateMember_scalar_eq_ok.1 hm
    exact hv (dollarFree_of_coerceOperand hs hj)

/-! ## The place that is not -/

mutual
/-- An entry with the value of its implicit equality replaced by `null`, unless the field converts
it. -/
def Operand.redacted (c : Collection) (key : String) : Operand → Operand
  | .scalar v =>
    if c.typeOf key = .objectId ∨ c.typeOf key = .date then .scalar v else .scalar .null
  | .nested es => .nested es
  | .list ws => .list (Where.redactedList c ws)
/-- A predicate without the values that the translation does not read. -/
def Where.redacted (c : Collection) : List (String × Operand) → List (String × Operand)
  | [] => []
  | (k, x) :: es => (k, x.redacted c k) :: Where.redacted c es
def Where.redactedList (c : Collection) :
    List (List (String × Operand)) → List (List (String × Operand))
  | [] => []
  | w :: ws => Where.redacted c w :: Where.redactedList c ws
end

theorem redacted_eq_map (w : List (String × Operand)) :
    Where.redacted c w = w.map fun e => (e.1, e.2.redacted c e.1) := by
  induction w with
  | nil => rfl
  | cons e w ih => rw [Where.redacted, ih, List.map_cons]

theorem redactedList_eq_map (ws : List (List (String × Operand))) :
    Where.redactedList c ws = ws.map (Where.redacted c) := by
  induction ws with
  | nil => rfl
  | cons w ws ih => rw [Where.redactedList, ih, List.map_cons]

/-- The entries of a redacted predicate are the redacted entries. -/
theorem hasEntry_redacted {u : List (String × Operand)} {k : String} {x : Operand}
    (h : Where.HasEntry u k x) : ∀ {w : List (String × Operand)}, u = Where.redacted c w →
      ∃ y : Operand, x = y.redacted c k := by
  induction h with
  | here hm =>
    intro w hu
    rw [hu, redacted_eq_map] at hm
    obtain ⟨e, -, he⟩ := List.mem_map.1 hm
    cases he
    exact ⟨e.2, rfl⟩
  | inside hl hv _ ih =>
    intro w hu
    rw [hu, redacted_eq_map] at hl
    obtain ⟨⟨l, y⟩, -, he⟩ := List.mem_map.1 hl
    cases y with
    | list ws =>
      simp only [Operand.redacted, redactedList_eq_map, Prod.mk.injEq, Operand.list.injEq] at he
      rw [← he.2] at hv
      obtain ⟨v, -, rfl⟩ := List.mem_map.1 hv
      exact ih rfl
    | scalar v =>
      simp only [Operand.redacted, Prod.mk.injEq] at he
      split at he <;> cases he.2
    | nested es => cases he

/-- Nothing leaks from a redacted predicate. -/
theorem not_leaks_redacted (w : Where) : ¬ Where.Leaks c (Where.redacted c w) := by
  rintro ⟨k, v, he, hs, hv⟩
  obtain ⟨y, hy⟩ := hasEntry_redacted he rfl
  cases y with
  | scalar u =>
    have ht : ¬ (c.typeOf k = .objectId ∨ c.typeOf k = .date) := not_or.2 hs
    rw [Operand.redacted, if_neg ht] at hy
    cases hy
    exact hv (dollarFree_leaf rfl rfl)
  | nested es => cases hy
  | list ws => cases hy

theorem exists_coerceOperand {field : String} (hs : c.StoresAsIs field) (v : Json) :
    ∃ j, coerceOperand c field v = .ok j :=
  ⟨v, coerceOperand_eq_ok.2 (Or.inr (Or.inr (Or.inr ⟨hs.1, hs.2, rfl⟩)))⟩

theorem exists_translateEntries_cons {key : String} {x : Operand} {w : List (String × Operand)} :
    (∃ d, translateEntries c ((key, x) :: w) = .ok d) ↔
      isDollar key = false ∧ (∃ e, translateMember c key x = .ok e) ∧
        ∃ d, translateEntries c w = .ok d := by
  simp only [translateEntries_cons_eq_ok]
  constructor
  · rintro ⟨_, hk, e, he, d, hd, -⟩
    exact ⟨hk, ⟨e, he⟩, d, hd⟩
  · rintro ⟨hk, ⟨e, he⟩, d, hd⟩
    exact ⟨_, hk, e, he, d, hd, rfl⟩

mutual
/-- The values that the redaction takes away do not change whether a predicate is translated. -/
theorem exists_translateEntries_redacted : ∀ w : List (String × Operand),
    (∃ d, translateEntries c (Where.redacted c w) = .ok d) ↔ ∃ d, translateEntries c w = .ok d
  | [] => Iff.rfl
  | (key, x) :: w => by
    rw [Where.redacted, exists_translateEntries_cons, exists_translateEntries_cons,
      exists_translateMember_redacted x, exists_translateEntries_redacted w]
theorem exists_translateMember_redacted {key : String} : ∀ x : Operand,
    (∃ e, translateMember c key (x.redacted c key) = .ok e) ↔ ∃ e, translateMember c key x = .ok e
  | .scalar v => by
    by_cases ht : c.typeOf key = .objectId ∨ c.typeOf key = .date
    · rw [Operand.redacted, if_pos ht]
    · have hs : c.StoresAsIs key := not_or.1 ht
      obtain ⟨j, hj⟩ := exists_coerceOperand hs v
      obtain ⟨n, hn⟩ := exists_coerceOperand hs .null
      simp only [Operand.redacted, if_neg ht, translateMember_scalar_eq_ok, hj, hn]
      constructor
      · rintro ⟨_, hp, -⟩; exact ⟨_, hp, j, rfl, rfl⟩
      · rintro ⟨_, hp, -⟩; exact ⟨_, hp, n, rfl, rfl⟩
  | .nested _ => Iff.rfl
  | .list ws => by
    have hws := exists_translateList_redacted ws
    simp only [Operand.redacted, translateMember_list_eq_ok]
    constructor
    · rintro ⟨_, op, hp, hl, ds, hds, -⟩
      obtain ⟨ds', hds'⟩ := hws.1 ⟨ds, hds⟩
      exact ⟨_, op, hp, hl, ds', hds', rfl⟩
    · rintro ⟨_, op, hp, hl, ds, hds, -⟩
      obtain ⟨ds', hds'⟩ := hws.2 ⟨ds, hds⟩
      exact ⟨_, op, hp, hl, ds', hds', rfl⟩
theorem exists_translateList_redacted : ∀ ws : List (List (String × Operand)),
    (∃ ds, translateList c (Where.redactedList c ws) = .ok ds) ↔ ∃ ds, translateList c ws = .ok ds
  | [] => Iff.rfl
  | w :: ws => by
    have hw := exists_translateEntries_redacted w
    have hws := exists_translateList_redacted ws
    simp only [Where.redactedList, translateList_cons_eq_ok]
    constructor
    · rintro ⟨_, d, hd, ds, hds, -⟩
      obtain ⟨d', hd'⟩ := hw.1 ⟨d, hd⟩
      obtain ⟨ds', hds'⟩ := hws.1 ⟨ds, hds⟩
      exact ⟨_, d', hd', ds', hds', rfl⟩
    · rintro ⟨_, d, hd, ds, hds, -⟩
      obtain ⟨d', hd'⟩ := hw.2 ⟨d, hd⟩
      obtain ⟨ds', hds'⟩ := hws.2 ⟨ds, hds⟩
      exact ⟨_, d', hd', ds', hds', rfl⟩
end

/-! ## Filters -/

/-- Whether a filter with a predicate is translated: the predicate and the rest are independent. -/
theorem exists_toDocument {f : Filter} {w : Where} :
    (∃ q, ({ f with predicate := some w } : Filter).toDocument c = .ok q) ↔
      (∃ d, translateEntries c w = .ok d) ∧ (∀ e ∈ f.order, isDollar e.field = false) ∧
        ∃ p, projectionOf c f = .ok p := by
  have hp : projectionOf c { f with predicate := some w } = projectionOf c f := by cases f; rfl
  simp only [toDocument_eq_ok, predicateDocument, Where.toDocument, map_eq_ok, hp]
  constructor
  · rintro ⟨q, ⟨d, hd, -⟩, ⟨ho, -⟩, hq, -⟩
    exact ⟨⟨d, hd⟩, ho, _, hq⟩
  · rintro ⟨⟨d, hd⟩, ho, p, hq⟩
    exact ⟨⟨_, _, p, f.limit, f.skip⟩, ⟨d, hd, rfl⟩, ⟨ho, rfl⟩, hq, rfl, rfl⟩

/-- **Dollar keys are refused** exactly unless the only ones are in values of implicit equalities
at fields that store them as they are, and the filter without those values is translated. -/
theorem dollar_refused_iff {f : Filter} {w : Where} :
    (w.HasDollar → ∃ e, ({ f with predicate := some w } : Filter).toDocument c = .error e) ↔
      (w.Leaks c → w.Rechecked c ∨
        ∃ e, ({ f with predicate := some (Where.redacted c w) } : Filter).toDocument c =
          .error e) := by
  have hredacted : (∃ q, ({ f with predicate := some (Where.redacted c w) } : Filter).toDocument c =
      .ok q) ↔ ∃ q, ({ f with predicate := some w } : Filter).toDocument c = .ok q := by
    rw [exists_toDocument, exists_toDocument, exists_translateEntries_redacted]
  -- from here on both sides speak of the same question: whether `f` with `w` is translated
  rw [exists_error_iff, exists_error_iff, hredacted]
  constructor
  · intro h hl
    exact Or.inr (h (hasDollar_of_leaks hl))
  · intro h hd hq
    have hr : ¬ w.Rechecked c := by
      obtain ⟨⟨d, hd⟩, -⟩ := exists_toDocument.1 hq
      exact not_rechecked_of_translateEntries hd
    rcases leaks_or_rechecked hd with hl | hl
    · rcases h hl with h | h
      · exact hr h
      · exact h hq
    · exact hr hl

/-- A value under an implicit equality that holds a dollar key reaches the query. -/
theorem implicit_equality_not_refused :
    Where.HasDollar [("a", .scalar (.object [("$x", .nat 1)]))] ∧
      ({ predicate := some [("a", .scalar (.object [("$x", .nat 1)]))] } : Filter).toDocument {} =
        .ok { filter := [("a", .object [("$eq", .object [("$x", .nat 1)])])] } := by
  refine ⟨⟨_, List.mem_singleton_self _, Or.inr (.scalar fun hf => ?_)⟩, by decide +kernel⟩
  have hx := hf "$x" (Json.hasKey_object.2 ⟨_, List.mem_singleton_self _, Or.inl rfl⟩)
  revert hx
  decide

end RestKit.Query
