import Mathlib.Logic.Relation
import RestKit.Proofs.Query.Given
import RestKit.Proofs.Query.Scopes
/-!
# The first error of a chain of calls

Calls on a builder never fail; the builder keeps the first error and gives it when it is built. What
a call raises is said by `WhereCall.Raises` without a builder: the error of the first check of its
field and its operands that fails, or of the first child. A call adds the error that it raises
behind one that is there (`keeps_apply`), so a run of calls leaves the first error behind the last
reset (`keeps_applyAll`). A filter builder asks its parts in a fixed order, and its scopes one after
the other (`FilterBuilder.build_eq_error`).
-/
namespace RestKit.Query

open WhereBuilder

/-- The first element that fails fails with the error. -/
inductive FirstFails {α ε : Type} (fails : α → ε → Prop) : List α → ε → Prop
  | here {x : α} {xs : List α} {e : ε} (fault : fails x e) : FirstFails fails (x :: xs) e
  | later {x : α} {xs : List α} {e : ε} (passes : ∀ d, ¬ fails x d)
    (rest : FirstFails fails xs e) : FirstFails fails (x :: xs) e

section FirstFails

variable {α ε : Type} {fails : α → ε → Prop} {x : α} {xs : List α} {e : ε}

theorem not_firstFails_nil : ¬ FirstFails fails [] e := by
  intro h
  cases h

theorem firstFails_cons :
    FirstFails fails (x :: xs) e ↔ fails x e ∨ (∀ d, ¬ fails x d) ∧ FirstFails fails xs e := by
  constructor
  · intro h
    cases h with
    | here fault => exact .inl fault
    | later passes rest => exact .inr ⟨passes, rest⟩
  · rintro (fault | ⟨passes, rest⟩)
    · exact .here fault
    · exact .later passes rest

/-- Some element fails first if any does. -/
theorem exists_firstFails : (∃ e, FirstFails fails xs e) ↔ ∃ x ∈ xs, ∃ e, fails x e := by
  induction xs with
  | nil => simp [not_firstFails_nil]
  | cons x xs ih =>
    simp only [firstFails_cons, exists_or, exists_and_left, ih, List.exists_mem_cons_iff]
    by_cases hx : ∃ d, fails x d
    · simp [hx]
    · simp [not_exists.1 hx]

/-- An element at the end fails first if none before it fails. -/
theorem firstFails_concat :
    FirstFails fails (xs ++ [x]) e ↔
      FirstFails fails xs e ∨ (∀ d, ¬ FirstFails fails xs d) ∧ fails x e := by
  induction xs with
  | nil => simp [firstFails_cons, not_firstFails_nil]
  | cons y ys ih =>
    rw [List.cons_append, firstFails_cons, ih]
    simp only [firstFails_cons]
    by_cases hy : ∃ d, fails y d
    · have hfails : ¬ ∀ d, ¬ fails y d := not_forall_not.2 hy
      simp only [hfails, false_and, or_false]
    · simp only [not_exists.1 hy, not_false_eq_true, implies_true, true_and, false_or]

theorem findSome?_eq_some_iff {f : α → Option ε} :
    xs.findSome? f = some e ↔ FirstFails (fun x e => f x = some e) xs e := by
  induction xs with
  | nil => simp [not_firstFails_nil]
  | cons x xs ih =>
    rw [List.findSome?_cons, firstFails_cons]
    cases f x with
    | none => simp [ih]
    | some d => simp

/-- A check of every element fails as the first one that fails. -/
theorem forM_eq_error {f : α → Except ε Unit} :
    xs.forM f = .error e ↔ FirstFails (fun x e => f x = .error e) xs e := by
  induction xs with
  | nil => simp [List.forM, pure_ne_error, not_firstFails_nil]
  | cons x xs ih =>
    rw [firstFails_cons]
    simp only [List.forM, bind_eq_error, ih]
    cases hx : f x with
    | ok u => simp
    | error d => simp

end FirstFails

/-! ## What a call raises -/

/-- A condition on a field raises the error of the name, or that of the first of its values that has
a key with a dollar sign. -/
inductive ConditionRaises (field : String) (values : List Json) (e : QueryError) : Prop
  | field (fault : checkField field = .error e)
  | value (passes : checkField field = .ok ())
    (fault : FirstFails (fun v e => rejectDollarDeep v = .error e) values e)

/-- The field and the values of a call that adds one condition. -/
def WhereCall.condition? : WhereCall → Option (String × List Json)
  | .compare _ field v => some (field, [v])
  | .likeWithOptions field pattern options => some (field, [.string pattern, .string options])
  | .exists field v => some (field, [.bool v])
  | .among _ field vs => some (field, [.array vs])
  | .between .. | .logical .. | .raw _ | .reset => none

/-- The error that a call raises, if it fails. A call with children raises the error of the first
child that cannot be built. -/
inductive WhereCall.Raises : WhereCall → QueryError → Prop
  | condition {c : WhereCall} {field : String} {values : List Json} {e : QueryError}
    (gives : c.condition? = some (field, values)) (condition : ConditionRaises field values e) :
    Raises c e
  | range {field : String} {min max : Json} {exclusive : Bool}
    (empty : isEmptyRange min max = true) :
    Raises (.between field min max exclusive) (.emptyRange field min max)
  | bounds {field : String} {min max : Json} {exclusive : Bool} {e : QueryError}
    (proper : isEmptyRange min max = false) (condition : ConditionRaises field [min, max] e) :
    Raises (.between field min max exclusive) e
  | child {isOr : Bool} {children : List (WhereBuilder × List WhereCall)} {e : QueryError}
    (first : FirstFails (fun c e => (WhereCall.applyAll c.1 c.2).build = .error e) children e) :
    Raises (.logical isOr children) e

variable {b c : WhereBuilder} {e : QueryError} {field : String} {v : Json} {calls : List WhereCall}

theorem conditionRaises_iff {vs : List Json} :
    ConditionRaises field vs e ↔ checkField field = .error e ∨
      checkField field = .ok () ∧ FirstFails (fun v e => rejectDollarDeep v = .error e) vs e := by
  constructor
  · intro h
    cases h with
    | field fault => exact .inl fault
    | value passes fault => exact .inr ⟨passes, fault⟩
  · rintro (fault | ⟨passes, fault⟩)
    · exact .field fault
    · exact .value passes fault

theorem raises_iff_of_condition {c : WhereCall} {values : List Json}
    (hc : c.condition? = some (field, values)) : c.Raises e ↔ ConditionRaises field values e := by
  refine ⟨fun h => ?_, .condition hc⟩
  cases h with
  | condition gives condition =>
    cases hc.symm.trans gives
    exact condition
  | range | bounds | child => cases hc

theorem raises_logical_iff {isOr : Bool} {children : List (WhereBuilder × List WhereCall)} :
    (WhereCall.logical isOr children).Raises e ↔
      FirstFails (fun c e => (WhereCall.applyAll c.1 c.2).build = .error e) children e := by
  refine ⟨fun h => ?_, .child⟩
  cases h with
  | condition gives => cases gives
  | child first => exact first

namespace WhereBuilder

theorem build_eq_error : b.build = .error e ↔ b.error = some e := by
  cases h : b.error with
  | none => simp [build_of_none h]
  | some d => simp [build_of_error h]

/-- A step adds an error behind the one of the builder. -/
def Keeps (b c : WhereBuilder) (raises : QueryError → Prop) : Prop :=
  ∀ e, c.error = some e ↔ b.error = some e ∨ b.error = none ∧ raises e

theorem Keeps.error_eq_none {raises : QueryError → Prop} (h : Keeps b c raises) :
    c.error = none ↔ b.error = none ∧ ∀ e, ¬ raises e := by
  simp only [Option.eq_none_iff_forall_ne_some, ne_eq, h _, not_or, not_and, forall_and]
  exact and_congr_right fun hb => forall_congr' fun e => ⟨fun hr => hr hb, fun hr _ => hr⟩

/-- Of two steps the second one adds its error if the first one raises none. -/
theorem Keeps.trans {d : WhereBuilder} {p q : QueryError → Prop} (h : Keeps b c p)
    (h' : Keeps c d q) : Keeps b d fun e => p e ∨ (∀ d, ¬ p d) ∧ q e := by
  intro e
  rw [h', h, h.error_eq_none, or_assoc, and_or_left, and_assoc]

theorem keeps_fail {raises : QueryError → Prop} (h : ∀ d, raises d ↔ d = e) :
    Keeps b (b.fail e) raises := by
  intro d
  rw [h, fail, Option.or_eq_some_iff, Option.some.injEq, eq_comm (a := e)]

theorem keeps_push {w : Where} {raises : QueryError → Prop} (h : ∀ d, ¬ raises d) :
    Keeps b (b.push w) raises := by
  intro d
  simp [push, h]

theorem keeps_attempt {r : Except QueryError Where} {raises : QueryError → Prop}
    (h : ∀ e, r = .error e ↔ raises e) : Keeps b (b.attempt r) raises := by
  cases r with
  | ok w => exact keeps_push (by simp [← h])
  | error d => exact keeps_fail (by simp [← h, eq_comm])

/-- The checks of a condition, of its name and then of its values. -/
theorem condition_eq_error {α : Type} {values : List Json} {a : α} :
    (do checkField field; values.forM rejectDollarDeep; return a) = Except.error e ↔
      ConditionRaises field values e := by
  rw [bind_eq_error, conditionRaises_iff, ← forM_eq_error]
  refine or_congr_right ⟨?_, fun ⟨passes, fault⟩ => ⟨(), passes, bind_eq_error.2 (.inl fault)⟩⟩
  rintro ⟨_, passes, h⟩
  rcases bind_eq_error.1 h with fault | ⟨_, -, h⟩
  · exact ⟨passes, fault⟩
  · exact absurd h pure_ne_error

theorem keeps_opWith {ops : List (String × Json)} :
    Keeps b (b.opWith field ops) (ConditionRaises field (ops.map (·.2))) := by
  have hchecks : operands field ops = (do
      checkField field
      (ops.map (·.2)).forM rejectDollarDeep
      return Json.entriesOf (ops.map fun p => (p.1, .scalar p.2))) := by
    simp [operands]
  refine keeps_attempt fun e => ?_
  rw [map_eq_error, hchecks, condition_eq_error]

/-- An equality raises the same errors in both modes. -/
theorem keeps_eq : Keeps b (b.eq field v) (ConditionRaises field [v]) := by
  unfold WhereBuilder.eq
  cases b.strict with
  | true => exact keeps_opWith
  | false =>
    have hvalue : (do rejectDollarDeep v; return Where.single field (.scalar v)) =
        (do [v].forM rejectDollarDeep; return Where.single field (.scalar v)) := by
      simp
    rw [hvalue]
    exact keeps_attempt fun e => condition_eq_error

/-- A condition checks the values after the first one if it raises no error. -/
theorem conditionRaises_cons {vs : List Json} :
    ConditionRaises field (v :: vs) e ↔
      ConditionRaises field [v] e ∨ (∀ d, ¬ ConditionRaises field [v] d) ∧
        ConditionRaises field vs e := by
  simp only [conditionRaises_iff, firstFails_cons, not_firstFails_nil]
  cases checkField field with
  | error d => simp
  | ok u => simp

/-- The steps of a builder that has no error yet are those of any builder. -/
theorem keeps_of_empty {w : Where} {raises : QueryError → Prop} (h : Keeps empty c raises) :
    Keeps b (match c.error with
      | some e => b.fail e
      | none => b.push w) raises := by
  have hraises : ∀ e, c.error = some e ↔ raises e := by
    intro e
    rw [h]
    simp [empty]
  cases hc : c.error with
  | some d => exact keeps_fail fun e => by rw [← hraises, hc, Option.some.injEq, eq_comm]
  | none => exact keeps_push fun e => by rw [← hraises, hc]; simp

theorem keeps_between {min max : Json} {exclusive : Bool} :
    Keeps b (b.between field min max exclusive)
      (WhereCall.between field min max exclusive).Raises := by
  have hbounds : ∀ lower upper : Operator, Keeps empty
      ((empty.op field lower min).op field upper max) (ConditionRaises field [min, max]) := by
    intro lower upper
    have hlower : Keeps empty (empty.op field lower min) (ConditionRaises field [min]) :=
      keeps_opWith
    have hupper : Keeps (empty.op field lower min) ((empty.op field lower min).op field upper max)
      (ConditionRaises field [max]) := keeps_opWith
    intro e
    rw [hlower.trans hupper, conditionRaises_cons]
  unfold between
  cases hrange : isEmptyRange min max with
  | true =>
    refine keeps_fail fun d => ?_
    constructor
    · intro h
      cases h with
      | condition gives => cases gives
      | range empty => rfl
      | bounds proper => simp [hrange] at proper
    · rintro rfl
      exact .range hrange
  | false =>
    have hraises : ∀ e, (WhereCall.between field min max exclusive).Raises e ↔
        ConditionRaises field [min, max] e := by
      intro e
      refine ⟨fun h => ?_, .bounds hrange⟩
      cases h with
      | condition gives => cases gives
      | range empty => simp [hrange] at empty
      | bounds proper condition => exact condition
    intro e
    rw [hraises]
    cases exclusive with
    | true => exact keeps_of_empty (hbounds .gt .lt) e
    | false => exact keeps_of_empty (hbounds .gte .lte) e

theorem keeps_logical {o : Operator} {flatten isOr : Bool}
    {children : List (WhereBuilder × List WhereCall)} :
    Keeps b (b.logical o (WhereCall.applyChildren children) flatten)
      (WhereCall.logical isOr children).Raises := by
  intro e
  have herrors : (WhereCall.applyChildren children).findSome? (·.error) = some e ↔
      FirstFails (fun c e => (WhereCall.applyAll c.1 c.2).build = .error e) children e := by
    rw [applyChildren_eq_map, List.findSome?_map, findSome?_eq_some_iff]
    simp only [Function.comp, build_eq_error]
  rw [raises_logical_iff, ← herrors, logical_eq]
  exact Option.or_eq_some_iff

/-- **What a call does to the error of a builder.** -/
theorem keeps_apply {c : WhereCall} (h : c.isReset = false) : Keeps b (c.apply b) c.Raises := by
  have hcondition : ∀ {c : WhereCall} {d : WhereBuilder} {field : String} {values : List Json},
      c.condition? = some (field, values) → Keeps b d (ConditionRaises field values) →
        Keeps b d c.Raises := by
    intro c d field values hc hkeeps e
    rw [raises_iff_of_condition hc, hkeeps]
  cases c with
  | compare op field v =>
    cases op with
    | eq => exact hcondition rfl keeps_eq
    | _ => exact hcondition rfl keeps_opWith
  | likeWithOptions | «exists» | among => exact hcondition rfl keeps_opWith
  | between field min max exclusive => exact keeps_between
  | logical isOr children =>
    cases isOr with
    | true => exact keeps_logical
    | false => exact keeps_logical
  | raw w =>
    have hraises : ∀ e, ¬ (WhereCall.raw w).Raises e := by
      intro e h
      cases h with
      | condition gives => cases gives
    show Keeps b (b.whereRaw w) (WhereCall.raw w).Raises
    unfold whereRaw
    split
    · intro e
      simp [hraises]
    · exact keeps_push hraises
  | reset => cases h

end WhereBuilder

/-! ## Sequences of calls -/

/-- The builder that the calls behind the last reset are made on, as far as its error goes. -/
def WhereBuilder.base (b : WhereBuilder) (calls : List WhereCall) : WhereBuilder :=
  if calls.any WhereCall.isReset then b.reset else b

/-- **What a run of calls leaves**: the error that the builder had, or the first one of a call
behind the last reset. The induction is on the calls from the last one backwards: a reset as the
last call drops every error, and any other call adds its own. -/
theorem keeps_applyAll (b : WhereBuilder) (calls : List WhereCall) :
    Keeps (b.base calls) (WhereCall.applyAll b calls)
      (FirstFails WhereCall.Raises (WhereCall.lasting calls)) := by
  induction calls using List.reverseRecOn with
  | nil =>
    intro e
    simp [WhereCall.applyAll, WhereCall.lasting, base, not_firstFails_nil]
  | append_singleton calls c ih =>
    rw [applyAll_concat]
    cases hreset : c.isReset with
    | true =>
      have hnone : WhereCall.lasting (calls ++ [c]) = [] :=
        List.rtakeWhile_concat_neg _ _ _ (by simp [hreset])
      cases c with
      | reset =>
        intro e
        simp [hnone, WhereCall.apply, reset, base, hreset, not_firstFails_nil]
      | _ => cases hreset
    | false =>
      have hlasting : WhereCall.lasting (calls ++ [c]) = WhereCall.lasting calls ++ [c] :=
        List.rtakeWhile_concat_pos _ _ _ (by simp [hreset])
      have hbase : b.base (calls ++ [c]) = b.base calls := by
        simp [base, hreset]
      intro e
      rw [hlasting, hbase, firstFails_concat]
      exact ih.trans (keeps_apply hreset) e

/-- Without a reset among them no calls change an error. -/
theorem error_applyAll_of_some (h : b.error = some e) (hcalls : ∀ c ∈ calls, c.isReset = false) :
    (WhereCall.applyAll b calls).error = some e := by
  have hbase : b.base calls = b := if_neg (by simpa using hcalls)
  refine (keeps_applyAll b calls e).2 (.inl ?_)
  rw [hbase]
  exact h

/-! ## Filters -/

namespace FilterBuilder

variable {b : FilterBuilder} {xs : List (String × Option FilterBuilder)}

/-- A call that adds to a filter builder. Naming several fields is naming them one by one. -/
inductive Call : FilterBuilder → FilterBuilder → Prop
  | withWhere (b : FilterBuilder) (w : WhereBuilder) : Call b (b.withWhere w)
  | field (b : FilterBuilder) (name : String) (included : Bool) : Call b (b.field name included)
  | orderBy (b : FilterBuilder) (name : String) (direction : Direction) :
    Call b (b.orderBy name direction)
  | setLimit (b : FilterBuilder) (n : Nat) : Call b (b.setLimit n)
  | setSkip (b : FilterBuilder) (n : Nat) : Call b (b.setSkip n)
  | page (b : FilterBuilder) (page size : Nat) : Call b (b.page page size)
  | includeRelation (b : FilterBuilder) (relation : String) (scope : Option FilterBuilder) :
    Call b (b.includeRelation relation scope)
  | merge (b other : FilterBuilder) (config : MergeConfig) : Call b (b.merge other config)

/-- An error stays whatever is added. -/
theorem Call.error_of_some {c : FilterBuilder} {e : QueryError} (h : Call b c)
    (herror : b.error = some e) : c.error = some e := by
  have hfail : ∀ d, (b.fail d).error = some e := by
    intro d
    rw [fail, herror, Option.some_or]
  cases h with
  | withWhere | setLimit | setSkip => exact herror
  | field name included =>
    unfold FilterBuilder.field
    split
    · exact hfail _
    · exact herror
  | orderBy name direction =>
    unfold FilterBuilder.orderBy
    split
    · exact hfail _
    · split
      · exact hfail _
      · exact herror
  | page page size =>
    unfold FilterBuilder.page
    split
    · exact hfail _
    · exact herror
  | includeRelation relation scope =>
    unfold FilterBuilder.includeRelation
    split
    · exact hfail _
    · exact herror
  | merge other config => rw [merge_eq, herror, Option.some_or, Option.some_or]

theorem error_of_calls {c : FilterBuilder} {e : QueryError} (h : Relation.ReflTransGen Call b c)
    (herror : b.error = some e) : c.error = some e := by
  induction h with
  | refl => exact herror
  | tail _ hcall ih => exact hcall.error_of_some ih

/-- The parts of a filter builder in the order in which they are asked for an error. -/
inductive FailsWith (b : FilterBuilder) : QueryError → Prop
  | own {e : QueryError} (fault : b.error = some e) : FailsWith b e
  | predicate {w : WhereBuilder} {e : QueryError} (own : b.error = none)
    (given : b.predicate = some w) (fault : w.build = .error e) : FailsWith b e
  | scope {e : QueryError} (own : b.error = none)
    (predicate : ∀ w ∈ b.predicate, ∃ p, w.build = .ok p)
    (fault : FirstFails (fun i e => ∃ s ∈ i.2, s.build = .error e) b.includes e) : FailsWith b e
  | projection {names : List String} (own : b.error = none)
    (predicate : ∀ w ∈ b.predicate, ∃ p, w.build = .ok p)
    (scopes : ∀ i ∈ b.includes, ∀ s ∈ i.2, ∃ f, s.build = .ok f)
    (fault : mixedNames b.fields = some names) : FailsWith b (.mixedProjection names)

theorem builtPredicate_eq_error {e : QueryError} :
    b.builtPredicate = .error e ↔ ∃ w ∈ b.predicate, w.build = .error e := by
  unfold builtPredicate
  cases b.predicate with
  | none => simp
  | some w => simp

theorem exists_builtPredicate :
    (∃ p, b.builtPredicate = .ok p) ↔ ∀ w ∈ b.predicate, ∃ p, w.build = .ok p := by
  unfold builtPredicate
  cases b.predicate with
  | none => simp
  | some w => simp

/-- Scopes are built one after the other, until one fails. -/
theorem buildIncludes_eq_error {e : QueryError} :
    buildIncludes xs = .error e ↔
      FirstFails (fun i e => ∃ s ∈ i.2, s.build = .error e) xs e := by
  induction xs with
  | nil => simp [buildIncludes, not_firstFails_nil]
  | cons x xs ih =>
    obtain ⟨relation, scope⟩ := x
    rw [firstFails_cons, ← ih]
    cases scope with
    | none => simp [buildIncludes, fmap_eq_error]
    | some s =>
      cases hs : s.build with
      | error d => simp [buildIncludes, hs, bind_eq_error]
      | ok f => simp [buildIncludes, hs, bind_eq_error, fmap_eq_error]

theorem exists_buildIncludes :
    (∃ is, buildIncludes xs = .ok is) ↔ ∀ i ∈ xs, ∀ s ∈ i.2, ∃ f, s.build = .ok f := by
  rw [← not_iff_not, ← exists_error_iff]
  simp only [buildIncludes_eq_error, exists_firstFails, not_forall, ← exists_error_iff,
    exists_prop]
  refine exists_congr fun i => and_congr_right fun _ => ?_
  rw [exists_comm]
  simp only [exists_and_left]

/-- Built scopes pass the check of the projection, so that it fails for the filter's own fields. -/
theorem checkScopes_of_built {is : List (String × Option Filter)} (h : buildIncludes xs = .ok is) :
    Filter.checkScopes is = .ok () := by
  refine Filter.checkScopes_eq_ok.2 fun i hi g hg => ?_
  obtain ⟨x, -, hbuilds⟩ := mem_of_forall₂ (buildIncludes_eq_ok.1 h) hi
  cases hbuilds with
  | plain => cases hg
  | scope hbuild =>
    cases hg
    obtain ⟨-, -, -, -, -, hcheck, -⟩ := build_eq_ok.1 hbuild
    exact hcheck

theorem checkProjection_filterOf {w : Where} {is : List (String × Option Filter)} {e : QueryError}
    (h : buildIncludes b.includes = .ok is) :
    (b.filterOf w is).checkProjection = .error e ↔
      ∃ names, mixedNames b.fields = some names ∧ .mixedProjection names = e := by
  rw [filterOf, Filter.checkProjection]
  cases mixedNames b.fields with
  | none => simp [checkScopes_of_built h]
  | some names => simp

theorem build_eq_error {e : QueryError} : b.build = .error e ↔ b.FailsWith e := by
  rw [build_eq]
  cases hown : b.error with
  | some d =>
    constructor
    · intro h
      cases h
      exact .own hown
    · intro h
      cases h with
      | own fault => exact congrArg Except.error (Option.some.inj (hown.symm.trans fault))
      | predicate own | scope own | projection own => cases hown.symm.trans own
  | none =>
    dsimp only
    constructor
    · intro h
      rcases bind_eq_error.1 h with h | ⟨w, hw, h⟩
      · obtain ⟨w, hgiven, fault⟩ := builtPredicate_eq_error.1 h
        exact .predicate hown hgiven fault
      · have hpredicate := exists_builtPredicate.1 ⟨w, hw⟩
        rcases bind_eq_error.1 h with h | ⟨is, his, h⟩
        · exact .scope hown hpredicate (buildIncludes_eq_error.1 h)
        · rcases bind_eq_error.1 h with h | ⟨_, -, h⟩
          · obtain ⟨names, hmixed, rfl⟩ := (checkProjection_filterOf his).1 h
            exact .projection hown hpredicate (exists_buildIncludes.1 ⟨is, his⟩) hmixed
          · exact absurd h pure_ne_error
    · intro h
      cases h with
      | own fault => cases hown.symm.trans fault
      | predicate own given fault =>
        exact bind_eq_error.2 (.inl (builtPredicate_eq_error.2 ⟨_, given, fault⟩))
      | scope own predicate fault =>
        obtain ⟨w, hw⟩ := exists_builtPredicate.2 predicate
        have hincludes := buildIncludes_eq_error.2 fault
        exact bind_eq_error.2 (.inr ⟨w, hw, bind_eq_error.2 (.inl hincludes)⟩)
      | projection own predicate scopes fault =>
        obtain ⟨w, hw⟩ := exists_builtPredicate.2 predicate
        obtain ⟨is, his⟩ := exists_buildIncludes.2 scopes
        have hcheck := (checkProjection_filterOf (w := w) his).2 ⟨_, fault, rfl⟩
        rw [hw, his, ok_bind, ok_bind, hcheck]
        rfl

end FilterBuilder

/-- **Building gives the first error.** A run of calls is refused exactly if the builder had an
error that no reset drops, or a call behind the last reset fails, and with the first of these
errors; a call with children fails exactly if one of its children cannot be built; and no call but a
reset changes an error. A filter builder is refused with its own error, which nothing that is added
changes, or else with that of its predicate, of the first scope that cannot be built, or of its
projection, and gives a filter if it has none of them. -/
theorem build_gives_first_error :
    (∀ (b : WhereBuilder) (calls : List WhereCall),
      (∀ e, (WhereCall.applyAll b calls).build = .error e ↔
        (b.base calls).error = some e ∨ (b.base calls).error = none ∧
          FirstFails WhereCall.Raises (WhereCall.lasting calls) e) ∧
      ((∃ e, (WhereCall.applyAll b calls).build = .error e) ↔
        (b.base calls).error ≠ none ∨ ∃ c ∈ WhereCall.lasting calls, ∃ e, c.Raises e)) ∧
    (∀ isOr children, (∃ e, (WhereCall.logical isOr children).Raises e) ↔
      ∃ c ∈ children, ∃ e, (WhereCall.applyAll c.1 c.2).build = .error e) ∧
    (∀ (b : WhereBuilder) (calls : List WhereCall) (e : QueryError), b.build = .error e →
      (∀ c ∈ calls, c.isReset = false) → (WhereCall.applyAll b calls).build = .error e) ∧
    ∀ b : FilterBuilder, (∀ e, b.build = .error e ↔ b.FailsWith e) ∧
      (∀ c e, Relation.ReflTransGen FilterBuilder.Call b c → b.error = some e →
        c.build = .error e) ∧
      ((∃ f, b.build = .ok f) ↔ b.error = none ∧ (∀ w ∈ b.predicate, ∃ p, w.build = .ok p) ∧
        (∀ i ∈ b.includes, ∀ s ∈ i.2, ∃ f, s.build = .ok f) ∧ mixedNames b.fields = none) := by
  refine ⟨fun b calls => ⟨?first, ?fails⟩, ?children, ?kept, fun b => ⟨?filter, ?later, ?succeeds⟩⟩
  case first =>
    intro e
    rw [WhereBuilder.build_eq_error]
    exact keeps_applyAll b calls e
  case fails =>
    simp only [WhereBuilder.build_eq_error]
    rw [← Option.ne_none_iff_exists', ne_eq, (keeps_applyAll b calls).error_eq_none, not_and_or,
      not_forall_not, exists_firstFails]
  case children =>
    intro isOr children
    simp only [raises_logical_iff, exists_firstFails]
  case kept =>
    intro b calls e herror hcalls
    rw [WhereBuilder.build_eq_error] at herror ⊢
    exact error_applyAll_of_some herror hcalls
  case filter => exact fun e => FilterBuilder.build_eq_error
  case later =>
    intro c e hcalls herror
    exact FilterBuilder.build_eq_error.2 (.own (FilterBuilder.error_of_calls hcalls herror))
  case succeeds =>
    rw [← FilterBuilder.exists_builtPredicate, ← FilterBuilder.exists_buildIncludes]
    constructor
    · rintro ⟨f, hbuild⟩
      obtain ⟨hown, w, hw, is, his, hcheck, rfl⟩ := FilterBuilder.build_eq_ok.1 hbuild
      exact ⟨hown, ⟨w, hw⟩, ⟨is, his⟩, (Filter.checkProjection_eq_ok.1 hcheck).1⟩
    · rintro ⟨hown, ⟨w, hw⟩, ⟨is, his⟩, hfields⟩
      have hcheck : (b.filterOf w is).checkProjection = .ok () :=
        Filter.checkProjection_eq_ok.2 ⟨hfields, FilterBuilder.checkScopes_of_built his⟩
      exact ⟨_, FilterBuilder.build_eq_ok.2 ⟨hown, w, hw, is, his, hcheck, rfl⟩⟩

/-- A reset drops the first error of a run, and two of its children fail; a filter has two scopes
that fail and a mixed projection. -/
theorem build_gives_first_error_nested :
    let calls : List WhereCall :=
      [.compare .eq "$a" .null, .reset, .compare .gt "a" (.nat 1),
        .logical true [(.empty, [.compare .eq "b" (.nat 2)]),
          (.strictEmpty, [.logical false [(.empty, [.between "c" (.nat 3) (.nat 1) false])],
            .compare .eq "" .null]),
          (.empty, [.exists "or" true])],
        .compare .eq "d" (.object [("$e", .null)])]
    let mixed : FilterBuilder := { fields := .ofPairs [("p", true), ("q", false)] }
    let b : FilterBuilder :=
      { mixed with
        includes := [("r", none), ("s", some mixed), ("t", some { error := some .pageZero })] }
    FirstFails WhereCall.Raises (WhereCall.lasting calls) (.emptyRange "c" (.nat 3) (.nat 1)) ∧
      b.FailsWith (.mixedProjection ["p", "q"]) ∧
      ((b.orderBy "" .asc).page 0 1).build = .error .orderEmpty := by
  intro calls mixed b
  obtain ⟨hruns, -, -, hfilters⟩ := build_gives_first_error
  have hcalls : (WhereCall.applyAll .empty calls).build =
      .error (.emptyRange "c" (.nat 3) (.nat 1)) := by
    decide +kernel
  have hb : b.build = .error (.mixedProjection ["p", "q"]) := by decide +kernel
  have hpage := Relation.ReflTransGen.single (FilterBuilder.Call.page (b.orderBy "" .asc) 0 1)
  refine ⟨?_, ((hfilters b).1 _).1 hb, (hfilters (b.orderBy "" .asc)).2.1 _ _ hpage rfl⟩
  rcases ((hruns .empty calls).1 _).1 hcalls with hbase | ⟨-, hfirst⟩
  · cases hbase
  · exact hfirst

end RestKit.Query
