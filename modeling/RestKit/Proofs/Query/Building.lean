import RestKit.Proofs.Except
import RestKit.Query.FilterBuilder
/-!
# What builders give

A where builder is a list of conditions and the first error. `joined` is the predicate that
conditions make, and a builder gives it unless it has an error (`build_eq_ok`). `logical_eq` is all
that a call with children does: it keeps the first error of a child, and pushes the list of the
items that the children give (`listItems`), or nothing if they give none. A filter builder gives its
sections as they are, once its predicate and its scopes are built and the projection is checked
(`FilterBuilder.build_eq_ok`).
-/
namespace RestKit.Query

/-- The children of a bare conjunction, and nothing else, are its conjuncts. -/
theorem Where.conjuncts?_eq_some {w : Where} {ws : List Where} :
    w.conjuncts? = some ws ↔ w = logical .and ws := by
  constructor
  · intro h
    unfold conjuncts? at h
    split at h
    · rename_i k children
      by_cases hk : k = Operator.and.name
      · simp [hk] at h
        simp [logical, single, hk, h]
      · simp [hk] at h
    · cases h
  · rintro rfl
    simp [conjuncts?, logical, single]

namespace WhereBuilder

variable {b : WhereBuilder} {o : Operator} {children : List WhereBuilder} {flatten : Bool}

/-! ## Building -/

/-- Conditions as one predicate. -/
def joined (conditions : List Where) : Where :=
  match conditions with
  | [] => []
  | [w] => w
  | ws => (mergeDisjoint ws).getD (Where.logical .and (flattened ws))

/-- Conditions become one object exactly if no key stands twice. -/
theorem mergeDisjoint_eq_some {ws : List Where} {w : Where} :
    mergeDisjoint ws = some w ↔
      (ws.flatten.map (·.1)).Nodup ∧ Json.entriesOf ws.flatten = w := by
  unfold mergeDisjoint
  dsimp only
  split <;> simp_all

theorem build_of_error {e : QueryError} (h : b.error = some e) : b.build = .error e := by
  simp [build, h]

theorem build_of_none (h : b.error = none) : b.build = .ok (joined b.conditions) := by
  unfold build joined
  rw [h]
  dsimp only
  cases b.conditions with
  | nil => rfl
  | cons w ws =>
    cases ws with
    | nil => rfl
    | cons v vs =>
      dsimp only
      cases mergeDisjoint (w :: v :: vs) <;> rfl

theorem build_eq_ok {w : Where} : b.build = .ok w ↔ b.error = none ∧ joined b.conditions = w := by
  cases h : b.error with
  | none => simp [build_of_none h]
  | some e => simp [build_of_error h]

/-! ## Calls with children -/

/-- What children give to a list: the items of those that do not fail. -/
def listItems (flatten : Bool) (children : List WhereBuilder) : List Where :=
  children.flatMap fun c => if c.error.isSome then [] else itemsOf flatten (joined c.conditions)

/-- The condition that a list of predicates is: none if it is empty. -/
def group (o : Operator) (items : List Where) : List Where :=
  if items.isEmpty then [] else [Where.logical o items]

theorem items_of_built (children : List WhereBuilder) :
    ((children.map build).flatMap fun
      | .ok w => itemsOf flatten w
      | .error _ => []) = listItems flatten children := by
  rw [List.flatMap_map, listItems]
  congr 1
  funext c
  cases h : c.error with
  | none => simp [build_of_none h]
  | some e => simp [build_of_error h]

/-- Of the errors of some children the first one is kept. -/
theorem errors_of_built (children : List WhereBuilder) (b : WhereBuilder) :
    (children.map build).foldl (fun b r => match r with
      | .ok _ => b
      | .error e => b.fail e) b =
        { b with error := b.error.or (children.findSome? (·.error)) } := by
  induction children generalizing b with
  | nil => simp
  | cons c cs ih =>
    rw [List.map_cons, List.foldl_cons, ih]
    cases h : c.error with
    | none => simp [build_of_none h, h]
    | some e => simp [build_of_error h, h, fail]

/-- **What a call with children does.** -/
theorem logical_eq :
    b.logical o children flatten =
      { b with
        conditions := b.conditions ++ group o (listItems flatten children)
        error := b.error.or (children.findSome? (·.error)) } := by
  unfold logical
  dsimp only
  generalize hb : List.foldl _ b (children.map build) = b'
  generalize hi : List.flatMap _ (children.map build) = items
  have hb' : b' = { b with error := b.error.or (children.findSome? (·.error)) } := by
    rw [← hb]; exact errors_of_built children b
  have hi' : items = listItems flatten children := by
    rw [← hi]; exact items_of_built children
  subst hb' hi'
  by_cases h : (listItems flatten children).isEmpty = true
  · simp [group, h]
  · simp [group, h, push]

/-- Without an error there was none before and no child fails. -/
theorem logical_error_eq_none :
    (b.logical o children flatten).error = none ↔
      b.error = none ∧ ∀ c ∈ children, c.error = none := by
  simp [logical_eq, Option.or_eq_none_iff, List.findSome?_eq_none_iff]

/-- The items of children of which none fails. -/
theorem listItems_of_none (h : ∀ c ∈ children, c.error = none) :
    listItems flatten children =
      (children.map fun c => joined c.conditions).flatMap (itemsOf flatten) := by
  unfold listItems
  induction children with
  | nil => rfl
  | cons c cs ih =>
    obtain ⟨hc, hcs⟩ := List.forall_mem_cons.1 h
    simp [hc, ih hcs]

end WhereBuilder

/-! ## Filters -/

namespace FilterBuilder

/-- The predicate that a filter builder gives: an empty one if there is no builder for it. -/
def builtPredicate (b : FilterBuilder) : Except QueryError Where :=
  match b.predicate with
  | some w => w.build
  | none => .ok []

/-- The filter of a builder's sections, with the predicate and the relations that were built. -/
def filterOf (b : FilterBuilder) (w : Where) (includes : List (String × Option Filter)) : Filter :=
  { predicate := if w.isEmpty then none else some w
    fields := b.fields, order := b.order, limit := b.limit, skip := b.skip, includes }

theorem build_eq (b : FilterBuilder) :
    b.build = match b.error with
      | some e => .error e
      | none => do
        let w ← b.builtPredicate
        let includes ← buildIncludes b.includes
        (b.filterOf w includes).checkProjection
        return b.filterOf w includes := by
  obtain ⟨predicate, fields, order, limit, skip, includes, error⟩ := b
  rw [build.eq_def]
  cases error with
  | some e => rfl
  | none => cases predicate <;> rfl

theorem build_eq_ok {b : FilterBuilder} {f : Filter} :
    b.build = .ok f ↔
      b.error = none ∧ ∃ w, b.builtPredicate = .ok w ∧ ∃ is, buildIncludes b.includes = .ok is ∧
        f.checkProjection = .ok () ∧ b.filterOf w is = f := by
  rw [build_eq]
  cases b.error with
  | some e => simp
  | none =>
    simp only [bind_eq_ok, pure_eq_ok, true_and]
    constructor
    · rintro ⟨w, hw, is, his, _, hcheck, rfl⟩
      exact ⟨w, hw, is, his, hcheck, rfl⟩
    · rintro ⟨w, hw, is, his, hcheck, rfl⟩
      exact ⟨w, hw, is, his, (), hcheck, rfl⟩

/-- A predicate that is not empty has a builder. -/
theorem exists_of_builtPredicate {b : FilterBuilder} {w : Where} (h : b.builtPredicate = .ok w)
    (hne : w ≠ []) : ∃ x, b.predicate = some x ∧ x.build = .ok w := by
  unfold builtPredicate at h
  cases hp : b.predicate with
  | none =>
    rw [hp] at h
    exact absurd (Except.ok.inj h).symm hne
  | some x =>
    rw [hp] at h
    exact ⟨x, rfl, h⟩

/-- A relation of a builder and what it is built to. -/
inductive BuildsTo : String × Option FilterBuilder → String × Option Filter → Prop
  | plain {relation : String} : BuildsTo (relation, none) (relation, none)
  | scope {relation : String} {c : FilterBuilder} {g : Filter} (h : c.build = .ok g) :
    BuildsTo (relation, some c) (relation, some g)

theorem buildIncludes_eq_ok {xs : List (String × Option FilterBuilder)}
    {is : List (String × Option Filter)} :
    buildIncludes xs = .ok is ↔ List.Forall₂ BuildsTo xs is := by
  induction xs generalizing is with
  | nil =>
    rw [List.forall₂_nil_left_iff, buildIncludes, Except.ok.injEq]
    exact eq_comm
  | cons x xs ih =>
    obtain ⟨relation, scope⟩ := x
    rw [List.forall₂_cons_left_iff]
    cases scope with
    | none =>
      simp only [buildIncludes, bind_eq_ok, pure_eq_ok, ih]
      constructor
      · rintro ⟨js, hjs, rfl⟩
        exact ⟨_, js, .plain, hjs, rfl⟩
      · rintro ⟨_, js, ⟨⟩, hjs, rfl⟩
        exact ⟨js, hjs, rfl⟩
    | some c =>
      simp only [buildIncludes, bind_eq_ok, pure_eq_ok, ih]
      constructor
      · rintro ⟨g, hg, js, hjs, rfl⟩
        exact ⟨_, js, .scope hg, hjs, rfl⟩
      · rintro ⟨_, js, hbuilds, hjs, rfl⟩
        cases hbuilds with
        | scope hg => exact ⟨_, hg, js, hjs, rfl⟩

theorem predicate_filterOf (b : FilterBuilder) (w : Where)
    (includes : List (String × Option Filter)) :
    (b.filterOf w includes).predicate.getD [] = w := by
  by_cases h : w = []
  · simp [filterOf, h]
  · simp [filterOf, h]

/-! ## Merging -/

variable {a b : FilterBuilder} {config : MergeConfig}

/-- One field over those of a builder. -/
def mergeField (config : MergeConfig) (b : FilterBuilder) (e : String × Bool) : FilterBuilder :=
  match b.fields.get? e.1 with
  | some old =>
    if old ≠ e.2 ∧ !config.allowFieldConflicts then b.fail (.fieldConflict e.1)
    else { b with fields := b.fields.insert e.1 e.2 }
  | none => { b with fields := b.fields.insert e.1 e.2 }

theorem mergeFields_cons (e : String × Bool) (es : List (String × Bool)) :
    b.mergeFields config (e :: es) = (mergeField config b e).mergeFields config es := rfl

/-- Merging fields looks at the fields and the error only, and changes no other section. -/
theorem mergeFields_eq (es : List (String × Bool)) (b : FilterBuilder) :
    b.mergeFields config es =
      { b with
        fields := (mergeFields { fields := b.fields } config es).fields
        error := b.error.or (mergeFields { fields := b.fields } config es).error } := by
  induction es generalizing b with
  | nil => cases b; simp [mergeFields]
  | cons e es ih =>
    have hstep : ∀ b : FilterBuilder, mergeField config b e =
        { b with
          fields := (mergeField config { fields := b.fields } e).fields
          error := b.error.or (mergeField config { fields := b.fields } e).error } := by
      intro b
      unfold mergeField
      dsimp only
      cases b.fields.get? e.1 with
      | none => simp
      | some old =>
        dsimp only
        split
        · simp [fail]
        · simp
    rw [mergeFields_cons, mergeFields_cons, hstep, ih]
    conv_rhs => rw [ih]
    simp [Option.or_assoc]

/-- **What a merge does**, section by section. -/
theorem merge_eq (a b : FilterBuilder) (config : MergeConfig) :
    a.merge b config =
      { predicate := mergePredicate config a.predicate b.predicate
        fields := (mergeFields { fields := a.fields } config b.fields.entries).fields
        order := if b.order.isEmpty then a.order else b.order
        limit := capped (b.limit.or a.limit) config.maxLimit
        skip := b.skip.or a.skip
        includes := a.includes ++ b.includes
        error := (a.error.or b.error).or
          (mergeFields { fields := a.fields } config b.fields.entries).error } := by
  unfold merge
  dsimp only
  rw [mergeFields_eq]
  cases b.error with
  | none => simp
  | some e => simp [fail]

end FilterBuilder
end RestKit.Query
