import Mathlib.Data.List.Nodup
import RestKit.Proofs.Json.Entries
import RestKit.Proofs.Query.Building
/-!
# What a predicate means

Given which single entries hold, a predicate holds if all its entries do; a list under `and` holds
if each of its predicates does, one under `or` if some does. None of the ways in which a builder
puts conditions together changes what they mean: one object for disjoint keys
(`holds_of_mergeDisjoint`), a conjunction in place of its children (`holds_flattened`), an empty
predicate left out (`holds_itemsOf`). So `build_keeps_meaning`: a built predicate means all that was
asked for, and nothing else.
-/
namespace RestKit.Query

/-- Which single entries hold: values and maps of operators, and lists at fields. -/
abbrev Assignment := String → Operand → Bool

mutual
/-- Whether an entry holds. -/
def Operand.holds (τ : Assignment) (key : String) : Operand → Bool
  | .list ws =>
    if key = Operator.and.name then Where.allHold τ ws
    else if key = Operator.or.name then Where.someHolds τ ws
    else τ key (.list ws)
  | x => τ key x
/-- Whether a predicate holds: all its entries do. -/
def Where.holds (τ : Assignment) : List (String × Operand) → Bool
  | [] => true
  | (k, x) :: es => x.holds τ k && Where.holds τ es
def Where.allHold (τ : Assignment) : List (List (String × Operand)) → Bool
  | [] => true
  | w :: ws => Where.holds τ w && Where.allHold τ ws
def Where.someHolds (τ : Assignment) : List (List (String × Operand)) → Bool
  | [] => false
  | w :: ws => Where.holds τ w || Where.someHolds τ ws
end

namespace Where

variable {τ : Assignment}

theorem holds_eq_all (w : Where) : holds τ w = w.all fun e => e.2.holds τ e.1 := by
  induction w with
  | nil => simp [holds]
  | cons e es ih => simp [holds, ih]

theorem allHold_eq_all (ws : List Where) : allHold τ ws = ws.all (holds τ) := by
  induction ws with
  | nil => simp [allHold]
  | cons w ws ih => simp [allHold, ih]

theorem someHolds_eq_any (ws : List Where) : someHolds τ ws = ws.any (holds τ) := by
  induction ws with
  | nil => simp [someHolds]
  | cons w ws ih => simp [someHolds, ih]

@[simp] theorem holds_nil : holds τ [] = true := by simp [holds]

@[simp] theorem holds_logical_and (ws : List Where) :
    holds τ (logical .and ws) = ws.all (holds τ) := by
  simp [logical, single, holds, Operand.holds, allHold_eq_all]

@[simp] theorem holds_logical_or (ws : List Where) :
    holds τ (logical .or ws) = ws.any (holds τ) := by
  have hne : Operator.or.name ≠ Operator.and.name := by decide
  simp [logical, single, holds, Operand.holds, hne, someHolds_eq_any]

theorem holds_flatten (ws : List Where) : holds τ ws.flatten = ws.all (holds τ) := by
  induction ws with
  | nil => simp
  | cons w ws ih =>
    rw [holds_eq_all] at ih
    simp [holds_eq_all, ih]

end Where

namespace WhereBuilder

open Where

variable {τ : Assignment}

/-- All conditions hold. -/
def holds (τ : Assignment) (b : WhereBuilder) : Bool := b.conditions.all (Where.holds τ)

/-! ## Putting conditions together -/

/-- One object of conditions whose keys differ has all their entries. -/
theorem holds_of_mergeDisjoint {ws : List Where} {w : Where} (h : mergeDisjoint ws = some w) :
    Where.holds τ w = ws.all (Where.holds τ) := by
  obtain ⟨hnodup, rfl⟩ := mergeDisjoint_eq_some.1 h
  rw [← holds_flatten, holds_eq_all, holds_eq_all, Bool.eq_iff_iff]
  have hmem : ∀ e, e ∈ Json.entriesOf ws.flatten ↔ e ∈ ws.flatten := by
    intro e
    constructor
    · exact Json.mem_of_mem_entriesOf
    · intro he
      have hone : ∀ p ∈ ws.flatten, p.1 = e.1 → p = e := by
        intro p hp hkey
        exact List.inj_on_of_nodup_map hnodup hp he hkey
      exact (Json.mem_entriesOf hone).2 he
  simp only [List.all_eq_true, hmem]

/-- A conjunction holds as its children do. -/
theorem holds_flattened (ws : List Where) :
    (flattened ws).all (Where.holds τ) = ws.all (Where.holds τ) := by
  unfold flattened
  induction ws with
  | nil => rfl
  | cons w ws ih =>
    rw [List.flatMap_cons, List.all_append, ih, List.all_cons]
    congr 1
    cases h : w.conjuncts? with
    | none => simp
    | some children => simp [conjuncts?_eq_some.1 h]

theorem holds_joined (ws : List Where) : Where.holds τ (joined ws) = ws.all (Where.holds τ) := by
  unfold joined
  split
  · simp
  · simp
  · cases h : mergeDisjoint ws with
    | none => simp [holds_flattened]
    | some w => simp [holds_of_mergeDisjoint h]

/-- What a child gives to a conjunction holds as its predicate does. -/
theorem holds_itemsOf (flatten : Bool) (w : Where) :
    (itemsOf flatten w).all (Where.holds τ) = Where.holds τ w := by
  unfold itemsOf
  by_cases he : w.isEmpty = true
  · have hw : w = [] := List.isEmpty_iff.1 he
    simp [hw]
  · cases flatten with
    | true => simp [he, holds_flattened]
    | false => simp [he]

theorem all_flatMap_itemsOf (flatten : Bool) (ws : List Where) :
    (ws.flatMap (itemsOf flatten)).all (Where.holds τ) = ws.all (Where.holds τ) := by
  induction ws with
  | nil => rfl
  | cons w ws ih => simp [holds_itemsOf, ih]

/-- The predicates that ask for something. -/
def nonEmpty (ws : List Where) : List Where := ws.filter fun w => !w.isEmpty

/-- The children of a disjunction are those that ask for something. -/
theorem flatMap_itemsOf_false (ws : List Where) : ws.flatMap (itemsOf false) = nonEmpty ws := by
  unfold nonEmpty
  induction ws with
  | nil => rfl
  | cons w ws ih =>
    by_cases he : w.isEmpty = true
    · simp [itemsOf, he, ih]
    · simp [itemsOf, he, ih]

/-! ## Calls with children -/

/-- A list under `and` adds what its items mean, also if it has none and nothing is pushed. -/
theorem all_group_and (items : List Where) :
    (group .and items).all (Where.holds τ) = items.all (Where.holds τ) := by
  unfold group
  by_cases h : items.isEmpty = true
  · have hi : items = [] := List.isEmpty_iff.1 h
    simp [hi]
  · simp [h]

theorem all_group_or {items : List Where} (h : items ≠ []) :
    (group .or items).all (Where.holds τ) = items.any (Where.holds τ) := by
  simp [group, h]

/-- Children without an error are built. -/
theorem map_build {children : List WhereBuilder} (h : ∀ c ∈ children, c.error = none) :
    children.map build = (children.map fun c => joined c.conditions).map .ok := by
  rw [List.map_map]
  exact List.map_congr_left fun c hc => build_of_none (h c hc)

/-- From one builder to another conditions were added that hold as all predicates of the children
do. -/
def AddsConjunction (τ : Assignment) (b c : WhereBuilder) (children : List WhereBuilder) : Prop :=
  ∃ ws : List Where, children.map build = ws.map .ok ∧
    ∃ added, c.conditions = b.conditions ++ added ∧
      added.all (Where.holds τ) = ws.all (Where.holds τ)

/-- From one builder to another conditions were added that hold as some predicate of the children
does; those that ask for nothing do not count, and without others nothing was added. -/
def AddsDisjunction (τ : Assignment) (b c : WhereBuilder) (children : List WhereBuilder) : Prop :=
  ∃ ws : List Where, children.map build = ws.map .ok ∧
    ∃ added, c.conditions = b.conditions ++ added ∧
      (nonEmpty ws = [] → added = []) ∧
      (nonEmpty ws ≠ [] → added.all (Where.holds τ) = (nonEmpty ws).any (Where.holds τ))

theorem and_adds {b : WhereBuilder} {children : List WhereBuilder}
    (h : (b.and children).error = none) : AddsConjunction τ b (b.and children) children := by
  have hc := (logical_error_eq_none.1 h).2
  refine ⟨_, map_build hc, group .and (listItems true children), ?_, ?_⟩
  · simp [and, logical_eq]
  · rw [all_group_and, listItems_of_none hc, all_flatMap_itemsOf]

theorem or_adds {b : WhereBuilder} {children : List WhereBuilder}
    (h : (b.or children).error = none) : AddsDisjunction τ b (b.or children) children := by
  have hc := (logical_error_eq_none.1 h).2
  refine ⟨_, map_build hc, group .or (listItems false children), ?_, ?_⟩
  · simp [or, logical_eq]
  · rw [listItems_of_none hc, flatMap_itemsOf_false]
    constructor
    · intro hnone
      simp [group, hnone]
    · exact all_group_or

/-- The predicates of two builders under one call hold as both do, or as one of them does. -/
theorem holds_of_pair {x y : WhereBuilder} {v w : Where} (joinByOr : Bool)
    (hx : x.build = .ok v) (hy : y.build = .ok w) (hv : v ≠ []) (hw : w ≠ []) :
    ∃ u, (if joinByOr then empty.or [x, y] else empty.and [x, y]).build = .ok u ∧
      Where.holds τ u =
        if joinByOr then Where.holds τ v || Where.holds τ w
        else Where.holds τ v && Where.holds τ w := by
  have hbuilt : [x, y].map build = [v, w].map .ok := by simp [hx, hy]
  have hchildren : ∀ c ∈ [x, y], c.error = none := by
    simp [(build_eq_ok.1 hx).1, (build_eq_ok.1 hy).1]
  have hinj : ∀ {us : List Where}, [x, y].map build = us.map .ok → us = [v, w] := by
    intro us hus
    rw [hbuilt] at hus
    exact (List.map_injective_iff.2 (fun _ _ => Except.ok.inj) hus).symm
  cases joinByOr with
  | true =>
    have herr : (empty.or [x, y]).error = none :=
      logical_error_eq_none.2 ⟨rfl, hchildren⟩
    obtain ⟨us, hus, added, hadded, -, hmean⟩ := or_adds (τ := τ) herr
    have hasked : nonEmpty us = [v, w] := by simp [hinj hus, nonEmpty, hv, hw]
    simp only [if_true]
    refine ⟨_, build_of_none herr, ?_⟩
    rw [holds_joined, hadded, List.all_append, hmean (by simp [hasked]), hasked]
    simp [empty]
  | false =>
    have herr : (empty.and [x, y]).error = none :=
      logical_error_eq_none.2 ⟨rfl, hchildren⟩
    obtain ⟨us, hus, added, hadded, hmean⟩ := and_adds (τ := τ) herr
    simp only [Bool.false_eq_true, if_false]
    refine ⟨_, build_of_none herr, ?_⟩
    rw [holds_joined, hadded, List.all_append, hmean, hinj hus]
    simp [empty]

end WhereBuilder

/-! ## Merged filters -/

namespace FilterBuilder

open WhereBuilder

variable {τ : Assignment}

/-- Two builders merged into one have a predicate that holds as both of theirs do, or as one of them
does, and so has the filter that it gives. -/
def MergesMeaning (τ : Assignment) (config : MergeConfig) (v w : Where) (m : FilterBuilder) :
    Prop :=
  ∃ u, m.builtPredicate = .ok u ∧
    (Where.holds τ u =
      if config.joinByOr then Where.holds τ v || Where.holds τ w
      else Where.holds τ v && Where.holds τ w) ∧
    ∀ f, m.build = .ok f → f.predicate.getD [] = u

theorem merge_mergesMeaning {a b : FilterBuilder} {config : MergeConfig} {v w : Where}
    (ha : a.builtPredicate = .ok v) (hb : b.builtPredicate = .ok w) (hv : v ≠ []) (hw : w ≠ []) :
    MergesMeaning τ config v w (a.merge b config) := by
  obtain ⟨x, hx, hxv⟩ := exists_of_builtPredicate ha hv
  obtain ⟨y, hy, hyw⟩ := exists_of_builtPredicate hb hw
  obtain ⟨u, hu, hmean⟩ := holds_of_pair (τ := τ) config.joinByOr hxv hyw hv hw
  have hbuilt : (a.merge b config).builtPredicate = .ok u := by
    rw [builtPredicate, merge_eq, hx, hy]
    exact hu
  refine ⟨u, hbuilt, hmean, ?_⟩
  intro f hf
  obtain ⟨-, u', hu', is, -, -, rfl⟩ := build_eq_ok.1 hf
  rw [hbuilt] at hu'
  rw [predicate_filterOf, Except.ok.inj hu']

end FilterBuilder

/-- **Building keeps the meaning.** What a builder without an error gives holds exactly if all its
conditions do. A call with `and` adds the conjunction of what the children give, a call with `or`
the disjunction. Two predicates that are merged hold together, or one of them does if they are
joined by `or`. -/
theorem build_keeps_meaning (τ : Assignment) :
    (∀ b : WhereBuilder, b.error = none →
      ∃ w, b.build = .ok w ∧ Where.holds τ w = b.holds τ) ∧
    (∀ (b : WhereBuilder) (children : List WhereBuilder), (b.and children).error = none →
      WhereBuilder.AddsConjunction τ b (b.and children) children) ∧
    (∀ (b : WhereBuilder) (children : List WhereBuilder), (b.or children).error = none →
      WhereBuilder.AddsDisjunction τ b (b.or children) children) ∧
    (∀ (a b : FilterBuilder) (config : MergeConfig) (v w : Where), a.builtPredicate = .ok v →
      b.builtPredicate = .ok w → v ≠ [] → w ≠ [] →
        FilterBuilder.MergesMeaning τ config v w (a.merge b config)) := by
  refine ⟨?_, ?_, ?_, ?_⟩
  · intro b h
    exact ⟨_, WhereBuilder.build_of_none h, WhereBuilder.holds_joined b.conditions⟩
  · intro b children h
    exact WhereBuilder.and_adds h
  · intro b children h
    exact WhereBuilder.or_adds h
  · intro a b config v w ha hb hv hw
    exact FilterBuilder.merge_mergesMeaning ha hb hv hw

/-- Bounds on one field, whose keys collide, under both kinds of list beside an empty child, and
merged by `or`. -/
theorem build_keeps_meaning_collision :
    let τ : Assignment := fun key _ => key == "a"
    let x := (WhereBuilder.empty.gt "a" (.nat 1)).lt "a" (.nat 9)
    let y := WhereBuilder.empty.eq "b" .null
    let a : FilterBuilder := { predicate := some x }
    let b : FilterBuilder := { predicate := some y }
    (x.error = none ∧ ∃ w, x.build = .ok w ∧ Where.holds τ w = x.holds τ) ∧
    ((y.and [x, .empty, y]).error = none ∧
      WhereBuilder.AddsConjunction τ y (y.and [x, .empty, y]) [x, .empty, y]) ∧
    ((x.or [.empty, x, y]).error = none ∧
      WhereBuilder.AddsDisjunction τ x (x.or [.empty, x, y]) [.empty, x, y]) ∧
    ∃ v w, a.builtPredicate = .ok v ∧ b.builtPredicate = .ok w ∧ v ≠ [] ∧ w ≠ [] ∧
      FilterBuilder.MergesMeaning τ { joinByOr := true } v w (a.merge b { joinByOr := true }) := by
  intro τ x y a b
  obtain ⟨hbuild, hand, hor, hmerge⟩ := build_keeps_meaning τ
  have hx : x.error = none := by decide +kernel
  have hxy : (y.and [x, .empty, y]).error = none := by decide +kernel
  have hxx : (x.or [.empty, x, y]).error = none := by decide +kernel
  have hv : a.builtPredicate = .ok (Where.logical .and
      [[("a", .nested [("gt", .scalar (.nat 1))])],
        [("a", .nested [("lt", .scalar (.nat 9))])]]) := by
    decide +kernel
  have hw : b.builtPredicate = .ok [("b", .scalar .null)] := by decide +kernel
  refine ⟨⟨hx, hbuild x hx⟩, ⟨hxy, hand y _ hxy⟩, ⟨hxx, hor x _ hxx⟩, _, _, hv, hw, ?_, ?_, ?_⟩
  · exact List.cons_ne_nil _ _
  · exact List.cons_ne_nil _ _
  · exact hmerge a b _ _ _ hv hw (List.cons_ne_nil _ _) (List.cons_ne_nil _ _)

end RestKit.Query
