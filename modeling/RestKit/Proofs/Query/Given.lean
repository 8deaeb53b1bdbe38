import Mathlib.Data.List.DropRight
import RestKit.Proofs.Query.Strict
/-!
# Predicates that are read back as they were built

A predicate of the grammar is read back as it is exactly if it is unambiguous. Joining conditions
keeps every condition, under a list or beside others (`unambiguous_joined`), so nothing hides an
ambiguous one; and a call pushes an ambiguous condition only for a value that it gives to an
implicit equality (`adds_apply`). A run of calls therefore leaves the values of the calls behind its
last reset (`plain_iff_of_calls`), and a built predicate is read back as it was built exactly if
none of these values names an operator (`built_read_back_iff`).
-/
namespace RestKit.Query

open WhereBuilder

/-! ## The values that calls give -/

/-- Whether a call drops the calls before it. -/
def WhereCall.isReset : WhereCall → Bool
  | .reset => true
  | _ => false

/-- The calls that make up what a builder gives: those behind the last reset. -/
def WhereCall.lasting (calls : List WhereCall) : List WhereCall :=
  calls.rtakeWhile fun c => !c.isReset

/-- The values that a call on a builder gives to implicit equalities. A builder that is not strict
gives the value of an equality; a list of children gives what the calls give that make up its
children, each in the mode of its own builder. -/
inductive WhereCall.Gives : Bool → WhereCall → Json → Prop
  | equality {field : String} {v : Json} : Gives false (.compare .eq field v) v
  | child {strict isOr : Bool} {children : List (WhereBuilder × List WhereCall)}
    {b : WhereBuilder} {calls : List WhereCall} {c : WhereCall} {v : Json}
    (child : (b, calls) ∈ children) (lasting : c ∈ WhereCall.lasting calls)
    (gives : Gives b.strict c v) : Gives strict (.logical isOr children) v

/-- An object with the keyword of an operator or the key of pattern options. -/
def NamesOperator (v : Json) : Prop :=
  ∃ es, v = .object es ∧ ∃ e ∈ es, (∃ op : Operator, op.name = e.1) ∨ e.1 = optionsKey

variable {b c : WhereBuilder} {w : Where} {ws : List Where} {o : Operator} {v : Json}
  {calls : List WhereCall}

theorem namesOperator_iff : NamesOperator v ↔ looksLikeOperators v = true := by
  unfold NamesOperator
  cases v with
  | object es =>
    simp only [looksLikeOperators, hasOperatorKey, List.any_eq_true, isOperatorKey_iff,
      parse?_eq_some, Json.object.injEq, exists_eq_left']
  | _ => simp [looksLikeOperators]

/-! ## Ambiguity in lists of predicates -/

theorem unambiguous_iff : Where.Unambiguous w ↔ ∀ e ∈ w, e.2.Unambiguous := by
  induction w with
  | nil => simp [Where.Unambiguous]
  | cons e es ih => simp [Where.Unambiguous, ih]

theorem unambiguousList_iff : Where.UnambiguousList ws ↔ ∀ w ∈ ws, Where.Unambiguous w := by
  induction ws with
  | nil => simp [Where.UnambiguousList]
  | cons w ws ih => simp [Where.UnambiguousList, ih]

theorem unambiguous_logical :
    Where.Unambiguous (Where.logical o ws) ↔ ∀ w ∈ ws, Where.Unambiguous w := by
  simp [Where.logical, Where.single, Where.Unambiguous, Operand.Unambiguous, unambiguousList_iff]

namespace WhereBuilder

theorem unambiguous_flattened :
    (∀ w ∈ flattened ws, Where.Unambiguous w) ↔ ∀ w ∈ ws, Where.Unambiguous w := by
  have hone : ∀ w : Where,
      (∀ v ∈ w.conjuncts?.getD [w], Where.Unambiguous v) ↔ Where.Unambiguous w := by
    intro w
    cases h : w.conjuncts? with
    | none => simp
    | some children =>
      rw [Where.conjuncts?_eq_some.1 h, unambiguous_logical]
      simp
  simp only [flattened, List.mem_flatMap]
  constructor
  · intro h w hw
    exact (hone w).1 fun v hv => h v ⟨w, hw, hv⟩
  · rintro h v ⟨w, hw, hv⟩
    exact (hone w).2 (h w hw) v hv

/-- Joining conditions hides none of them, in each of the three ways. -/
theorem unambiguous_joined :
    Where.Unambiguous (joined ws) ↔ ∀ w ∈ ws, Where.Unambiguous w := by
  unfold joined
  split
  · simp [Where.Unambiguous]
  · simp
  · cases hm : mergeDisjoint ws with
    | none => rw [Option.getD_none, unambiguous_logical, unambiguous_flattened]
    | some w =>
      obtain ⟨hnodup, rfl⟩ := mergeDisjoint_eq_some.1 hm
      -- the keys differ, so that no entry takes the place of another one
      have hmem : ∀ e, e ∈ Json.entriesOf ws.flatten ↔ e ∈ ws.flatten := by
        intro e
        refine ⟨Json.mem_of_mem_entriesOf, fun he => (Json.mem_entriesOf fun p hp hk => ?_).2 he⟩
        exact List.inj_on_of_nodup_map hnodup hp he hk
      simp only [Option.getD_some, unambiguous_iff, hmem, List.mem_flatten]
      constructor
      · intro h w hw e he
        exact h e ⟨w, hw, he⟩
      · rintro h e ⟨w, hw, he⟩
        exact h w hw e he

/-! ## What a call adds -/

/-- No condition of the builder is ambiguous. -/
def Plain (b : WhereBuilder) : Prop := ∀ w ∈ b.conditions, Where.Unambiguous w

/-- A step from a builder to another one keeps its conditions and adds some that are unambiguous
exactly if the proposition holds, unless it leaves an error. -/
def Adds (b c : WhereBuilder) (p : Prop) : Prop :=
  c.error = none → b.error = none ∧ (c.Plain ↔ b.Plain ∧ p)

theorem adds_of_error {p : Prop} (h : c.error ≠ none) : Adds b c p := fun hc => absurd hc h

theorem fail_error_ne_none (b : WhereBuilder) (e : QueryError) : (b.fail e).error ≠ none := by
  simp [fail]

theorem adds_push {p : Prop} (h : Where.Unambiguous w ↔ p) : Adds b (b.push w) p := by
  intro herror
  refine ⟨herror, ?_⟩
  simp only [Plain, push, List.forall_mem_append, List.forall_mem_singleton, h]

theorem adds_attempt {r : Except QueryError Where} {p : Prop}
    (h : ∀ w, r = .ok w → (Where.Unambiguous w ↔ p)) : Adds b (b.attempt r) p := by
  cases r with
  | ok w => exact adds_push (h w rfl)
  | error e => exact adds_of_error (fail_error_ne_none b e)

/-- Operators are written out: they add nothing ambiguous. -/
theorem adds_opWith {field : String} {ops : List (String × Json)} :
    Adds b (b.opWith field ops) True := by
  refine adds_attempt fun w hw => ?_
  obtain ⟨es, -, rfl⟩ := map_eq_ok.1 hw
  simp [Where.single, Where.Unambiguous, Operand.Unambiguous]

/-- An equality adds its value, unless the builder is strict. -/
theorem adds_eq {field : String} :
    Adds b (b.eq field v) (b.strict = false → ¬ NamesOperator v) := by
  unfold WhereBuilder.eq
  cases hstrict : b.strict with
  | true =>
    have h : Adds b (b.op field .eq v) True := adds_opWith
    simpa using h
  | false =>
    refine adds_attempt fun w hw => ?_
    simp only [check_eq_ok, pure_eq_ok] at hw
    obtain ⟨-, -, rfl⟩ := hw
    simp [Where.single, Where.Unambiguous, Operand.Unambiguous, namesOperator_iff]

theorem adds_between {field : String} {min max : Json} {exclusive : Bool} :
    Adds b (b.between field min max exclusive) True := by
  have hbounds : ∀ lower upper : Operator,
      ((empty.op field lower min).op field upper max).error = none →
        (Where.Unambiguous (Where.logical .and
          ((empty.op field lower min).op field upper max).conditions) ↔ True) := by
    intro lower upper herror
    have hupper : Adds (empty.op field lower min)
      ((empty.op field lower min).op field upper max) True := adds_opWith
    have hlower : Adds empty (empty.op field lower min) True := adds_opWith
    obtain ⟨hnone, hplain⟩ := hupper herror
    obtain ⟨-, hplain'⟩ := hlower hnone
    have hempty : empty.Plain := fun w hw => absurd hw List.not_mem_nil
    rw [unambiguous_logical, iff_true]
    exact hplain.2 ⟨hplain'.2 ⟨hempty, trivial⟩, trivial⟩
  unfold between
  split
  · exact adds_of_error (fail_error_ne_none b _)
  · cases exclusive with
    | true =>
      dsimp only
      split
      · exact adds_of_error (fail_error_ne_none b _)
      · rename_i herror
        exact adds_push (hbounds .gt .lt herror)
    | false =>
      dsimp only
      split
      · exact adds_of_error (fail_error_ne_none b _)
      · rename_i herror
        exact adds_push (hbounds .gte .lte herror)

/-! ## Lists of children -/

theorem unambiguous_itemsOf {flatten : Bool} :
    (∀ v ∈ itemsOf flatten w, Where.Unambiguous v) ↔ Where.Unambiguous w := by
  have hsingle : (∀ v ∈ [w], Where.Unambiguous v) ↔ Where.Unambiguous w := by simp
  unfold itemsOf
  split
  · rename_i hempty
    rw [List.isEmpty_iff.1 hempty]
    simp [Where.Unambiguous]
  · split
    · rw [unambiguous_flattened, hsingle]
    · exact hsingle

theorem unambiguous_group {items : List Where} :
    (∀ w ∈ group o items, Where.Unambiguous w) ↔ ∀ v ∈ items, Where.Unambiguous v := by
  unfold group
  split
  · rename_i hempty
    rw [List.isEmpty_iff.1 hempty]
  · simp [unambiguous_logical]

/-- A list of children adds the conditions of all of them. -/
theorem adds_logical {children : List WhereBuilder} {flatten : Bool} {p : Prop}
    (h : (∀ c ∈ children, c.error = none) → ((∀ c ∈ children, c.Plain) ↔ p)) :
    Adds b (b.logical o children flatten) p := by
  intro herror
  obtain ⟨hnone, hchildren⟩ := logical_error_eq_none.1 herror
  refine ⟨hnone, ?_⟩
  have hitems : (∀ w ∈ listItems flatten children, Where.Unambiguous w) ↔
      ∀ c ∈ children, c.Plain := by
    simp only [listItems_of_none hchildren, List.mem_flatMap, List.mem_map]
    constructor
    · intro hall c hc
      have hitem : ∀ w ∈ itemsOf flatten (joined c.conditions), Where.Unambiguous w :=
        fun w hw => hall w ⟨_, ⟨c, hc, rfl⟩, hw⟩
      exact unambiguous_joined.1 (unambiguous_itemsOf.1 hitem)
    · rintro hall w ⟨_, ⟨c, hc, rfl⟩, hw⟩
      exact unambiguous_itemsOf.2 (unambiguous_joined.2 (hall c hc)) w hw
  rw [← h hchildren, ← hitems, logical_eq]
  simp only [Plain, List.forall_mem_append, unambiguous_group]

end WhereBuilder

/-! ## Sequences of calls -/

theorem applyAll_concat (c : WhereCall) :
    WhereCall.applyAll b (calls ++ [c]) = c.apply (WhereCall.applyAll b calls) := by
  induction calls generalizing b with
  | nil => rfl
  | cons d calls ih => exact ih

theorem strict_applyAll : (WhereCall.applyAll b calls).strict = b.strict := by
  induction calls generalizing b with
  | nil => rfl
  | cons c calls ih => rw [WhereCall.applyAll, ih, strict_apply]

theorem applyChildren_eq_map (children : List (WhereBuilder × List WhereCall)) :
    WhereCall.applyChildren children = children.map fun p => WhereCall.applyAll p.1 p.2 := by
  induction children with
  | nil => rfl
  | cons p children ih => rw [WhereCall.applyChildren, ih, List.map_cons]

/-- A call adds the values that it gives. -/
def WhereCall.AddsGiven (c : WhereCall) : Prop :=
  ∀ b : WhereBuilder, Adds b (c.apply b) (∀ v, c.Gives b.strict v → ¬ NamesOperator v)

/-- **What a run of calls leaves.** From a builder without conditions, a run without an error leaves
the values that the calls behind the last reset give. The induction is on the calls from the last
one backwards: a reset as the last call leaves nothing, and any other call adds its own values. -/
theorem plain_iff_of_calls (hempty : b.conditions = [])
    (hcalls : ∀ c ∈ calls, c.isReset = false → c.AddsGiven)
    (herror : (WhereCall.applyAll b calls).error = none) :
    (WhereCall.applyAll b calls).Plain ↔
      ∀ c ∈ WhereCall.lasting calls, ∀ v, c.Gives b.strict v → ¬ NamesOperator v := by
  induction calls using List.reverseRecOn with
  | nil => simp [WhereCall.applyAll, Plain, hempty, WhereCall.lasting]
  | append_singleton calls c ih =>
    obtain ⟨hbefore, hlast⟩ := List.forall_mem_append.1 hcalls
    rw [applyAll_concat] at herror ⊢
    cases hreset : c.isReset with
    | true =>
      have hnone : WhereCall.lasting (calls ++ [c]) = [] :=
        List.rtakeWhile_concat_neg _ _ _ (by simp [hreset])
      cases c with
      | reset => simp [hnone, WhereCall.apply, reset, Plain]
      | _ => cases hreset
    | false =>
      have hlasting : WhereCall.lasting (calls ++ [c]) = WhereCall.lasting calls ++ [c] :=
        List.rtakeWhile_concat_pos _ _ _ (by simp [hreset])
      obtain ⟨hnone, hadds⟩ := hlast c (List.mem_singleton_self c) hreset _ herror
      rw [hadds, ih hbefore hnone, strict_applyAll, hlasting, List.forall_mem_append,
        List.forall_mem_singleton]

theorem addsGiven_of_none {c : WhereCall} (hadds : ∀ b : WhereBuilder, Adds b (c.apply b) True)
    (hnone : ∀ strict v, ¬ c.Gives strict v) : c.AddsGiven := by
  intro b herror
  obtain ⟨hbefore, hplain⟩ := hadds b herror
  refine ⟨hbefore, hplain.trans (and_congr_right fun _ => ?_)⟩
  exact iff_of_true trivial fun v hv => absurd hv (hnone b.strict v)

theorem addsGiven_eq (field : String) (u : Json) :
    (WhereCall.compare .eq field u).AddsGiven := by
  intro b
  have hgives : (∀ v, (WhereCall.compare .eq field u).Gives b.strict v → ¬ NamesOperator v) ↔
      (b.strict = false → ¬ NamesOperator u) := by
    constructor
    · intro h hstrict
      refine h u ?_
      rw [hstrict]
      exact .equality
    · rintro h v hv
      generalize hstrict : b.strict = strict at hv
      cases hv with
      | equality => exact h hstrict
  rw [hgives]
  exact adds_eq

/-- The children of a call give what the calls that make them up give. -/
theorem forall_gives_logical {strict isOr : Bool}
    {children : List (WhereBuilder × List WhereCall)} {p : Json → Prop} :
    (∀ v, (WhereCall.logical isOr children).Gives strict v → p v) ↔
      ∀ child ∈ children, ∀ c ∈ WhereCall.lasting child.2, ∀ v, c.Gives child.1.strict v → p v := by
  constructor
  · intro h child hchild c hc v hv
    exact h v (.child hchild hc hv)
  · intro h v hv
    cases hv with
    | child hchild hc hv => exact h _ hchild _ hc v hv

-- The induction is on the calls, and through the lists of children, whose runs the list adds.
mutual
/-- **What a call adds** is what it gives. -/
theorem adds_apply : ∀ {c : WhereCall}, c.Fluent → c.isReset = false → c.AddsGiven
  | .compare op field u, _, _ => by
    cases op with
    | eq => exact addsGiven_eq field u
    | _ => exact addsGiven_of_none (fun b => adds_opWith) fun _ _ hv => by cases hv
  | .likeWithOptions .., _, _ | .exists .., _, _ | .among .., _, _ =>
    addsGiven_of_none (fun b => adds_opWith) fun _ _ hv => by cases hv
  | .between .., _, _ => addsGiven_of_none (fun b => adds_between) fun _ _ hv => by cases hv
  | .logical isOr children, h, _ => by
    intro b
    have hchildren := plain_applyChildren h
    have hruns : (∀ c ∈ WhereCall.applyChildren children, c.error = none) →
        ((∀ c ∈ WhereCall.applyChildren children, c.Plain) ↔
          ∀ v, (WhereCall.logical isOr children).Gives b.strict v → ¬ NamesOperator v) := by
      rw [forall_gives_logical, applyChildren_eq_map]
      simp only [List.forall_mem_map]
      intro herror
      exact forall₂_congr fun child hchild => hchildren child hchild (herror child hchild)
    cases isOr with
    | true => exact adds_logical hruns
    | false => exact adds_logical hruns
theorem adds_applyAll : ∀ {calls : List WhereCall}, WhereCall.FluentAll calls →
    ∀ c ∈ calls, c.isReset = false → c.AddsGiven
  | [], _, _, hc => by cases hc
  | d :: calls, h, c, hc => by
    rcases List.mem_cons.1 hc with heq | hc
    · rw [heq]
      exact adds_apply h.1
    · exact adds_applyAll h.2 c hc
theorem plain_applyChildren : ∀ {children : List (WhereBuilder × List WhereCall)},
    WhereCall.FluentChildren children → ∀ child ∈ children,
      (WhereCall.applyAll child.1 child.2).error = none →
        ((WhereCall.applyAll child.1 child.2).Plain ↔
          ∀ c ∈ WhereCall.lasting child.2, ∀ v, c.Gives child.1.strict v → ¬ NamesOperator v)
  | [], _, _, hc => by cases hc
  | (b, calls) :: rest, h, child, hchild => by
    rcases List.mem_cons.1 hchild with rfl | hchild
    · have hempty : b.conditions = [] := by
        rcases h.1 with rfl | rfl
        · rfl
        · rfl
      exact plain_iff_of_calls hempty (adds_applyAll h.2.1)
    · exact plain_applyChildren h.2.2 child hchild
end

/-- **Which built predicates are read back as they were built**, with room for their levels: those
for which no value that the calls behind the last reset give to an implicit equality names an
operator. -/
theorem built_read_back_iff {start : WhereBuilder} {calls : List WhereCall} {w : Where} {max : Nat}
    (hs : start = .empty ∨ start = .strictEmpty) (hc : WhereCall.FluentAll calls)
    (hw : (WhereCall.applyAll start calls).build = .ok w) (hn : Where.nesting w ≤ max) :
    Where.parse max w.toValue = .ok w ↔
      ¬ ∃ c ∈ WhereCall.lasting calls, ∃ v, c.Gives start.strict v ∧ NamesOperator v := by
  have hempty : start.conditions = [] := by
    rcases hs with rfl | rfl
    · rfl
    · rfl
  have hwell : Where.WellFormed w := wellFormed_of_build (sound_applyAll (sound_start hs) hc) hw
  obtain ⟨herror, hjoined⟩ := build_eq_ok.1 hw
  have hplain : Where.Unambiguous w ↔ (WhereCall.applyAll start calls).Plain := by
    rw [← hjoined, unambiguous_joined]
    rfl
  calc Where.parse max w.toValue = .ok w
      ↔ Where.Unambiguous w := by
        have hread := @parse_eq_ok max (Where.entriesToValue w) w
        exact hread.trans ⟨fun h => h.2.1, fun h => ⟨hwell, h, hn, rfl⟩⟩
    _ ↔ ∀ c ∈ WhereCall.lasting calls, ∀ v, c.Gives start.strict v → ¬ NamesOperator v :=
        hplain.trans (plain_iff_of_calls hempty (adds_applyAll hc) herror)
    _ ↔ ¬ ∃ c ∈ WhereCall.lasting calls, ∃ v, c.Gives start.strict v ∧ NamesOperator v := by
        simp only [not_exists, not_and]

/-- A value that a reset drops, one that a strict child writes out, and a document that only looks
like one of them. -/
theorem built_read_back_iff_reset :
    let calls : List WhereCall :=
      [.compare .eq "a" (.object [("eq", .nat 1)]), .reset, .compare .gt "age" (.nat 1),
        .logical true [(.strictEmpty, [.compare .eq "a" (.object [("options", .string "i")])]),
          (.empty, [.compare .eq "b" (.object [("city", .object [("eq", .nat 1)])])])]]
    ∃ w, WhereCall.FluentAll calls ∧ (WhereCall.applyAll .empty calls).build = .ok w ∧
      Where.nesting w ≤ 1 ∧
      (Where.parse 1 w.toValue = .ok w ↔
        ¬ ∃ c ∈ WhereCall.lasting calls, ∃ v,
          c.Gives WhereBuilder.empty.strict v ∧ NamesOperator v) := by
  intro calls
  have hf : WhereCall.FluentAll calls :=
    ⟨trivial, trivial, trivial,
      ⟨Or.inr rfl, ⟨trivial, trivial⟩, Or.inl rfl, ⟨trivial, trivial⟩, trivial⟩, trivial⟩
  have hw : (WhereCall.applyAll .empty calls).build = .ok
      [("age", .nested [("gt", .scalar (.nat 1))]),
        ("or", .list [[("a", .nested [("eq", .scalar (.object [("options", .string "i")]))])],
          [("b", .scalar (.object [("city", .object [("eq", .nat 1)])]))]])] := by
    decide +kernel
  exact ⟨_, hf, hw, by decide, built_read_back_iff (Or.inl rfl) hf hw (by decide)⟩

end RestKit.Query
