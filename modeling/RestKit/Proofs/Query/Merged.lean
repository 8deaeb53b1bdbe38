import RestKit.Proofs.Query.Merge
/-!
# What two filters give together

Two builders that give filters of their own are merged to a builder that gives a filter exactly if
their fields agree and the fields put together are a projection of one kind (`Mixed`): predicates
and scopes that were built once are built again. Each section of the filter then follows a rule of
its own from the sections of the two (`Merged`).
-/
namespace RestKit.Query

/-- The items that a predicate gives to a conjunction: its children if it is a bare conjunction,
else itself. -/
def Where.conjuncts (w : Where) : List Where := w.conjuncts?.getD [w]

/-- Some flags include a field and exclude another one, the primary key apart. -/
def Mixed (flag : String → Option Bool) : Prop :=
  ∃ k l, isPrimaryKey k = false ∧ isPrimaryKey l = false ∧ flag k = some true ∧ flag l = some false

/-- The flag of a field in two filters: the second one's, if it has one. -/
def laterFlag (A B : Filter) (name : String) : Option Bool :=
  (B.fields.get? name).or (A.fields.get? name)

variable {fields : Dict Bool} {is js : List (String × Option Filter)}
  {xs ys : List (String × Option FilterBuilder)} {f A B F : Filter} {v w : Where}

/-! ## Projections -/

/-- A projection names nothing of a flag if only primary keys have it. -/
theorem names_eq_nil (fields : Dict Bool) (p : Bool → Bool) (flag : Bool)
    (hp : ∀ b, p b = true ↔ b = flag) :
    ((fields.entries.filter fun f => !isPrimaryKey f.1).filter fun f => p f.2).map (·.1) = [] ↔
      ∀ k, isPrimaryKey k = false → fields.get? k ≠ some flag := by
  simp only [List.map_eq_nil_iff, List.filter_eq_nil_iff, List.mem_filter, Bool.not_eq_true', hp,
    ne_eq, Dict.get?_eq_some, Dict.mem_def]
  constructor
  · intro hnone k hk hmem
    exact hnone (k, flag) ⟨hmem, hk⟩ rfl
  · rintro hnone ⟨k, b⟩ ⟨hmem, hk⟩ rfl
    exact hnone k hk hmem

theorem mixedNames_eq_none : mixedNames fields = none ↔ ¬ Mixed fields.get? := by
  have hincluded := names_eq_nil fields (fun b => b) true (by simp)
  have hexcluded := names_eq_nil fields (fun b => !b) false (by simp)
  unfold mixedNames
  dsimp only
  rw [ite_eq_left_iff]
  simp only [Bool.or_eq_true, List.isEmpty_iff, hincluded, hexcluded, reduceCtorEq, imp_false,
    not_not, Mixed]
  constructor
  · rintro (hnone | hnone) ⟨k, l, hk, hl, hkt, hlf⟩
    · exact hnone k hk hkt
    · exact hnone l hl hlf
  · intro h
    by_cases hsome : ∃ k, isPrimaryKey k = false ∧ fields.get? k = some true
    · obtain ⟨k, hk, hkt⟩ := hsome
      exact .inr fun l hl hlf => h ⟨k, l, hk, hl, hkt, hlf⟩
    · exact .inl fun k hk hkt => hsome ⟨k, hk, hkt⟩

namespace Where

theorem conjuncts_eq_nil : w.conjuncts = [] ↔ w = logical .and [] := by
  rw [← conjuncts?_eq_some, conjuncts]
  cases w.conjuncts? <;> simp

/-- A predicate that is not empty gives its conjuncts to a list. -/
theorem itemsOf_eq_conjuncts (h : w ≠ []) : WhereBuilder.itemsOf true w = w.conjuncts := by
  simp [WhereBuilder.itemsOf, h, WhereBuilder.flattened, conjuncts]

end Where

namespace Filter

theorem checkProjection_eq_ok :
    f.checkProjection = .ok () ↔ mixedNames f.fields = none ∧ checkScopes f.includes = .ok () := by
  obtain ⟨predicate, fields, order, limit, skip, includes⟩ := f
  rw [checkProjection]
  cases mixedNames fields <;> simp

theorem checkScopes_append :
    checkScopes (is ++ js) = .ok () ↔ checkScopes is = .ok () ∧ checkScopes js = .ok () := by
  induction is with
  | nil => simp [checkScopes]
  | cons i is ih =>
    obtain ⟨relation, scope⟩ := i
    cases scope with
    | none => simpa only [List.cons_append, checkScopes] using ih
    | some scope => simp only [List.cons_append, checkScopes, check_eq_ok, ih, and_assoc]

end Filter

namespace FilterBuilder

theorem buildIncludes_append (hx : buildIncludes xs = .ok is) (hy : buildIncludes ys = .ok js) :
    buildIncludes (xs ++ ys) = .ok (is ++ js) := by
  rw [buildIncludes_eq_ok] at hx hy ⊢
  exact List.rel_append hx hy

variable {a b : FilterBuilder} {config : MergeConfig}

/-! ## Predicates -/

/-- A predicate is built if there is no error in it. -/
theorem exists_builtPredicate_iff :
    (∃ w, b.builtPredicate = .ok w) ↔ ∀ p ∈ b.predicate, p.error = none := by
  unfold builtPredicate
  cases b.predicate with
  | none => simp
  | some p => simp [WhereBuilder.build_eq_ok]

theorem exists_builtPredicate_merge (ha : a.builtPredicate = .ok v)
    (hb : b.builtPredicate = .ok w) :
    ∃ u, (a.merge b config).builtPredicate = .ok u := by
  have hx := exists_builtPredicate_iff.1 ⟨v, ha⟩
  have hy := exists_builtPredicate_iff.1 ⟨w, hb⟩
  rw [exists_builtPredicate_iff, predicate_merge]
  cases hpa : a.predicate with
  | none => exact hy
  | some x =>
    cases hpb : b.predicate with
    | none => rwa [hpa] at hx
    | some y =>
      rw [hpa] at hx
      rw [hpb] at hy
      have hall : ∀ c ∈ [x, y], c.error = none := by simpa using ⟨hx x rfl, hy y rfl⟩
      rintro p ⟨⟩
      split
      · exact WhereBuilder.logical_error_eq_none.2 ⟨rfl, hall⟩
      · exact WhereBuilder.logical_error_eq_none.2 ⟨rfl, hall⟩

theorem predicate_eq_some : (b.filterOf w is).predicate = some v ↔ w ≠ [] ∧ w = v := by
  simp [filterOf]

/-- Two predicates that are joined by `and` give one conjunction, if they give any items. -/
theorem builtPredicate_merge_and (hand : config.joinByOr = false) {x y : WhereBuilder}
    (ha : a.predicate = some x) (hb : b.predicate = some y) (hx : x.build = .ok v)
    (hy : y.build = .ok w)
    (hitems : WhereBuilder.itemsOf true v ++ WhereBuilder.itemsOf true w ≠ []) :
    (a.merge b config).builtPredicate = .ok (Where.logical .and
      (WhereBuilder.itemsOf true v ++ WhereBuilder.itemsOf true w)) := by
  obtain ⟨hxerr, rfl⟩ := WhereBuilder.build_eq_ok.1 hx
  obtain ⟨hyerr, rfl⟩ := WhereBuilder.build_eq_ok.1 hy
  have hall : ∀ c ∈ [x, y], c.error = none := by simp [hxerr, hyerr]
  have hgiven : WhereBuilder.listItems true [x, y] =
      WhereBuilder.itemsOf true (WhereBuilder.joined x.conditions) ++
        WhereBuilder.itemsOf true (WhereBuilder.joined y.conditions) := by
    simp [WhereBuilder.listItems_of_none hall]
  rw [builtPredicate, predicate_merge, ha, hb]
  simp only [mergePredicate, hand, Bool.false_eq_true, if_false]
  rw [WhereBuilder.build_of_none (WhereBuilder.and_error_eq_none.2 ⟨rfl, hall⟩),
    WhereBuilder.conditions_and, hgiven, WhereBuilder.group, if_neg (by simpa using hitems)]
  rfl

/-! ## Filters -/

/-- When a merged builder gives a filter, and which one. -/
theorem merge_build_eq_ok (haerr : a.error = none) (hberr : b.error = none)
    (his : buildIncludes a.includes = .ok is) (hjs : buildIncludes b.includes = .ok js)
    (hscopes : Filter.checkScopes (is ++ js) = .ok ()) :
    (a.merge b config).build = .ok F ↔
      Agree config a.fields b.fields.entries ∧
        ¬ Mixed (fun k => (b.fields.get? k).or (a.fields.get? k)) ∧
        ∃ w, (a.merge b config).builtPredicate = .ok w ∧
          (a.merge b config).filterOf w (is ++ js) = F := by
  have hincludes : buildIncludes (a.merge b config).includes = .ok (is ++ js) := by
    rw [merge_eq]
    exact buildIncludes_append his hjs
  rw [build_eq_ok, merge_error_eq_none, hincludes]
  simp only [haerr, hberr, true_and, Except.ok.injEq, exists_eq_left']
  refine and_congr_right fun hagree => ?_
  have hlookup : (a.merge b config).fields.get? =
      fun k => (b.fields.get? k).or (a.fields.get? k) := by
    funext k
    rw [fields_merge hagree, Dict.get?_overlaid]
  have hcheck : ∀ w, ((a.merge b config).filterOf w (is ++ js)).checkProjection = .ok () ↔
      ¬ Mixed (fun k => (b.fields.get? k).or (a.fields.get? k)) := by
    intro w
    rw [Filter.checkProjection_eq_ok, ← hlookup]
    exact (and_iff_left hscopes).trans mixedNames_eq_none
  constructor
  · rintro ⟨w, hw, hok, rfl⟩
    exact ⟨(hcheck w).1 hok, w, hw, rfl⟩
  · rintro ⟨hmixed, w, hw, rfl⟩
    exact ⟨w, hw, (hcheck w).2 hmixed, rfl⟩

end FilterBuilder

/-- The sections of a filter that two filters give together. -/
structure Merged (config : MergeConfig) (A B F : Filter) : Prop where
  /-- Under `and`, the conjuncts of both. A conjunction of nothing has none to give. -/
  predicate : config.joinByOr = false → ∀ v w, A.predicate = some v → B.predicate = some w →
    v ≠ Where.logical .and [] → w ≠ Where.logical .and [] →
      F.predicate = some (Where.logical .and (v.conjuncts ++ w.conjuncts))
  limit : F.limit = capped (B.limit.or A.limit) config.maxLimit
  skip : F.skip = B.skip.or A.skip
  order : F.order = if B.order.isEmpty then A.order else B.order
  fields : ∀ k, F.fields.get? k = laterFlag A B k
  includes : F.includes = A.includes ++ B.includes

/-- **Merged builders.** Where two builders give filters, the merged one gives a filter exactly if
the fields agree and are not mixed when put together, and each section of it is made of the two
sections. -/
theorem build_merge_iff (a b : FilterBuilder) (config : MergeConfig) {A B : Filter}
    (hA : a.build = .ok A) (hB : b.build = .ok B) :
    ((∃ F, (a.merge b config).build = .ok F) ↔
      FilterBuilder.Agree config A.fields B.fields.entries ∧ ¬ Mixed (laterFlag A B)) ∧
    ∀ F, (a.merge b config).build = .ok F → Merged config A B F := by
  obtain ⟨haerr, v, hv, is, his, hcheckA, rfl⟩ := FilterBuilder.build_eq_ok.1 hA
  obtain ⟨hberr, w, hw, js, hjs, hcheckB, rfl⟩ := FilterBuilder.build_eq_ok.1 hB
  have hscopes : Filter.checkScopes (is ++ js) = .ok () := by
    rw [Filter.checkScopes_append]
    exact ⟨(Filter.checkProjection_eq_ok.1 hcheckA).2, (Filter.checkProjection_eq_ok.1 hcheckB).2⟩
  refine ⟨⟨?_, ?_⟩, fun F hF => ?_⟩
  · rintro ⟨F, hF⟩
    obtain ⟨hagree, hmixed, -⟩ :=
      (FilterBuilder.merge_build_eq_ok haerr hberr his hjs hscopes).1 hF
    exact ⟨hagree, hmixed⟩
  · rintro ⟨hagree, hmixed⟩
    obtain ⟨u, hu⟩ := FilterBuilder.exists_builtPredicate_merge hv hw
    exact ⟨_, (FilterBuilder.merge_build_eq_ok haerr hberr his hjs hscopes).2
      ⟨hagree, hmixed, u, hu, rfl⟩⟩
  · obtain ⟨hagree, -, u, hu, rfl⟩ :=
      (FilterBuilder.merge_build_eq_ok haerr hberr his hjs hscopes).1 hF
    constructor
    case predicate =>
      intro hand v' w' hv' hw' hne hne'
      obtain ⟨hvne, rfl⟩ := FilterBuilder.predicate_eq_some.1 hv'
      obtain ⟨hwne, rfl⟩ := FilterBuilder.predicate_eq_some.1 hw'
      obtain ⟨x, hx, hxv⟩ := FilterBuilder.exists_of_builtPredicate hv hvne
      obtain ⟨y, hy, hyw⟩ := FilterBuilder.exists_of_builtPredicate hw hwne
      have hsome : v.conjuncts ++ w.conjuncts ≠ [] := by simp [Where.conjuncts_eq_nil, hne]
      rw [← Where.itemsOf_eq_conjuncts hvne, ← Where.itemsOf_eq_conjuncts hwne] at hsome ⊢
      rw [FilterBuilder.builtPredicate_merge_and hand hx hy hxv hyw hsome] at hu
      cases hu
      rfl
    case fields =>
      intro k
      rw [FilterBuilder.filterOf, FilterBuilder.fields_merge hagree, Dict.get?_overlaid]
      rfl
    case includes => rfl
    all_goals rw [FilterBuilder.filterOf, FilterBuilder.merge_eq]; rfl

/-- A conjunction and a condition, a limit over the maximum, fields with the primary key left out
and a relation that both include. -/
theorem build_merge_iff_conjunction :
    let config : MergeConfig := { maxLimit := some 5 }
    let a : FilterBuilder :=
      { predicate := some ((WhereBuilder.empty.gt "age" (.nat 1)).lt "age" (.nat 9))
        fields := .ofPairs [("age", true)], limit := some 9, includes := [("owner", none)] }
    let b : FilterBuilder :=
      { predicate := some (WhereBuilder.empty.eq "name" .null)
        fields := .ofPairs [("id", false), ("name", true)], order := [⟨"age", .asc⟩]
        includes := [("owner", none)] }
    let A : Filter :=
      { predicate := some (.logical .and [
          .single "age" (.nested [("gt", .scalar (.nat 1))]),
          .single "age" (.nested [("lt", .scalar (.nat 9))])])
        fields := .ofPairs [("age", true)], limit := some 9, includes := [("owner", none)] }
    let B : Filter :=
      { predicate := some (.single "name" (.scalar .null))
        fields := .ofPairs [("id", false), ("name", true)], order := [⟨"age", .asc⟩]
        includes := [("owner", none)] }
    (a.build = .ok A ∧ b.build = .ok B) ∧
    ((∃ F, (a.merge b config).build = .ok F) ↔
      FilterBuilder.Agree config A.fields B.fields.entries ∧ ¬ Mixed (laterFlag A B)) ∧
    ∀ F, (a.merge b config).build = .ok F → Merged config A B F := by
  intro config a b A B
  have hA : a.build = .ok A := rfl
  have hB : b.build = .ok B := rfl
  exact ⟨⟨hA, hB⟩, build_merge_iff a b config hA hB⟩

end RestKit.Query
