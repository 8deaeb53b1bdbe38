import RestKit.Proofs.Query.Building
import RestKit.Proofs.Query.Built
import RestKit.Proofs.Query.Equivalence
/-!
# Strict builders

A strict builder writes every equality as an operator, and `Where.normalized` does so afterwards.
Both come to the same: `explicit` is a builder with its conditions in normal form, and each call on
it does what the call does on the builder itself (`apply_explicit`), for joining conditions looks at
keys and at bare conjunctions only, which normal forms have in common. So the strict result is the
normal form of the other one, and the store cannot tell the two apart.
-/
namespace RestKit.Query

open Where WhereBuilder

/-! ## Calls in one mode -/

/-- An empty builder of one mode. -/
def WhereBuilder.start (strict : Bool) : WhereBuilder := if strict then strictEmpty else empty

mutual
/-- The call with every builder of its children in one mode. -/
def WhereCall.inMode (strict : Bool) : WhereCall → WhereCall
  | .logical isOr children => .logical isOr (WhereCall.inModeChildren strict children)
  | .compare op field value => .compare op field value
  | .likeWithOptions field pattern options => .likeWithOptions field pattern options
  | .exists field value => .exists field value
  | .among op field values => .among op field values
  | .between field min max exclusive => .between field min max exclusive
  | .raw w => .raw w
  | .reset => .reset
def WhereCall.inModeAll (strict : Bool) : List WhereCall → List WhereCall
  | [] => []
  | call :: calls => call.inMode strict :: WhereCall.inModeAll strict calls
def WhereCall.inModeChildren (strict : Bool) :
    List (WhereBuilder × List WhereCall) → List (WhereBuilder × List WhereCall)
  | [] => []
  | (_, calls) :: rest =>
    (WhereBuilder.start strict, WhereCall.inModeAll strict calls) ::
      WhereCall.inModeChildren strict rest
end

/-- What some calls give if all builders are in one mode. -/
def buildIn (strict : Bool) (calls : List WhereCall) : Except QueryError Where :=
  (WhereCall.applyAll (WhereBuilder.start strict) (WhereCall.inModeAll strict calls)).build

/-! ## Normal forms of conditions -/

namespace Where

theorem normalized_single_nested (field : String) (es : List (String × Operand)) :
    normalized (single field (.nested es)) = single field (.nested es) := rfl

theorem normalized_single_scalar {field : String} (h : Operator.parse? field = none) (v : Json) :
    normalized (single field (.scalar v)) =
      single field (.nested [(Operator.eq.name, .scalar v)]) := by
  simp [single, normalized, Operand.normalized, h]

theorem normalized_logical (o : Operator) (ws : List Where) :
    normalized (logical o ws) = logical o (ws.map normalized) := by
  simp [logical, single, normalized, Operand.normalized, normalizedList_eq_map]

theorem isEmpty_normalized (w : Where) : (normalized w).isEmpty = w.isEmpty := by
  cases w <;> rfl

theorem conjuncts?_normalized : ∀ w : Where,
    conjuncts? (normalized w) = w.conjuncts?.map (List.map normalized)
  | [] => rfl
  | [(k, .scalar v)] => by
    simp only [normalized, Operand.normalized]
    split <;> rfl
  | [(k, .nested es)] => rfl
  | [(k, .list ws)] => by
    simp only [normalized, Operand.normalized, conjuncts?, normalizedList_eq_map]
    split <;> rfl
  | (_, _) :: (_, _) :: _ => by simp [conjuncts?, normalized]

mutual
/-- A normal form is its own. -/
theorem operand_normalized_normalized (key : String) :
    ∀ x : Operand, (x.normalized key).normalized key = x.normalized key
  | .scalar v => by
    simp only [Operand.normalized]
    cases h : Operator.parse? key <;> simp [Operand.normalized, h]
  | .nested es => rfl
  | .list ws => by
    simp only [Operand.normalized, normalizedList_normalizedList ws]
theorem normalized_normalized : ∀ w : List (String × Operand),
    normalized (normalized w) = normalized w
  | [] => rfl
  | (k, x) :: es => by
    simp only [normalized, operand_normalized_normalized k x, normalized_normalized es]
theorem normalizedList_normalizedList : ∀ ws : List (List (String × Operand)),
    normalizedList (normalizedList ws) = normalizedList ws
  | [] => rfl
  | w :: ws => by
    simp only [normalizedList, normalized_normalized w, normalizedList_normalizedList ws]
end

end Where

namespace WhereBuilder

variable {b : WhereBuilder} {field : String}

theorem flatten_normalized (ws : List Where) :
    (ws.map normalized).flatten = normalized ws.flatten := by
  rw [normalized_eq_map, List.map_flatten]
  congr 1
  exact List.map_congr_left fun w _ => normalized_eq_map w

theorem mergeDisjoint_normalized (ws : List Where) :
    mergeDisjoint (ws.map normalized) = (mergeDisjoint ws).map normalized := by
  have hkeys : (normalized ws.flatten).map (·.1) = ws.flatten.map (·.1) := by
    rw [normalized_eq_map, List.map_map]
    rfl
  have hentries : Json.entriesOf (normalized ws.flatten) =
      normalized (Json.entriesOf ws.flatten) := by
    rw [normalized_eq_map, normalized_eq_map]
    exact Json.entriesOf_mapValues (fun k x => Operand.normalized k x) _
  unfold mergeDisjoint
  simp only [flatten_normalized, hkeys, hentries]
  split <;> rfl

theorem flattened_normalized (ws : List Where) :
    flattened (ws.map normalized) = (flattened ws).map normalized := by
  have hone : ∀ w : Where, (conjuncts? (normalized w)).getD [normalized w] =
      (w.conjuncts?.getD [w]).map normalized := by
    intro w
    rw [conjuncts?_normalized]
    cases w.conjuncts? <;> rfl
  simp only [flattened, List.flatMap_map, List.map_flatMap, hone]

theorem joined_normalized : ∀ ws : List Where,
    joined (ws.map normalized) = normalized (joined ws)
  | [] => rfl
  | [_] => rfl
  | v :: w :: ws => by
    have hjoined : ∀ us : List Where,
        (mergeDisjoint (us.map normalized)).getD
            (Where.logical .and (flattened (us.map normalized))) =
          normalized ((mergeDisjoint us).getD (Where.logical .and (flattened us))) := by
      intro us
      rw [mergeDisjoint_normalized, flattened_normalized, ← normalized_logical]
      cases mergeDisjoint us <;> rfl
    exact hjoined (v :: w :: ws)

theorem itemsOf_normalized (flatten : Bool) (w : Where) :
    itemsOf flatten (normalized w) = (itemsOf flatten w).map normalized := by
  unfold itemsOf
  rw [isEmpty_normalized]
  split
  · rfl
  · split
    · exact flattened_normalized [w]
    · rfl

theorem group_normalized (o : Operator) (items : List Where) :
    group o (items.map normalized) = (group o items).map normalized := by
  cases items with
  | nil => rfl
  | cons w ws => simp [group, normalized_logical]

/-! ## Strict builders -/

/-- The builder with its equalities written out. -/
def explicit (b : WhereBuilder) : WhereBuilder :=
  { conditions := b.conditions.map normalized, strict := true, error := b.error }

theorem build_explicit (b : WhereBuilder) : b.explicit.build = b.build.map normalized := by
  cases h : b.error with
  | some e => rw [build_of_error h, build_of_error (b := b.explicit) h]; rfl
  | none =>
    rw [build_of_none h, build_of_none (b := b.explicit) h, explicit, joined_normalized]
    rfl

theorem explicit_push (b : WhereBuilder) (w : Where) :
    (b.push w).explicit = b.explicit.push (normalized w) := by
  simp [explicit, push]

theorem explicit_attempt (b : WhereBuilder) (r : Except QueryError Where) :
    (b.attempt r).explicit = b.explicit.attempt (r.map normalized) := by
  cases r with
  | ok w => exact explicit_push b w
  | error e => rfl

theorem explicit_opWith (b : WhereBuilder) (field : String) (ops : List (String × Json)) :
    (b.opWith field ops).explicit = b.explicit.opWith field ops := by
  unfold opWith
  rw [explicit_attempt]
  cases operands field ops with
  | ok es => rfl
  | error e => rfl

/-- One operator is checked as an implicit equality is. -/
theorem operands_single (field key : String) (v : Json) :
    operands field [(key, v)] = (do
      checkField field
      rejectDollarDeep v
      return [(key, .scalar v)]) := by
  unfold operands
  cases checkField field with
  | error e => rfl
  | ok u =>
    have hcheck : [(key, v)].forM (fun e => rejectDollarDeep e.2) = rejectDollarDeep v := by
      cases h : rejectDollarDeep v with
      | error e => simp [List.forM, h]
      | ok u => simp [List.forM, h]
    exact congrArg (fun x => x >>= fun _ => pure [(key, Operand.scalar v)]) hcheck

/-- A strict equality is an implicit one written out. -/
theorem explicit_eq (hb : b.strict = false) (field : String) (v : Json) :
    (b.eq field v).explicit = b.explicit.eq field v := by
  -- a keyword is no field, so the normal form of the condition is the one that is pushed
  have hstrict : b.explicit.eq field v = b.explicit.op field .eq v := rfl
  rw [hstrict, op, opWith, operands_single, eq, hb, if_neg Bool.false_ne_true, explicit_attempt]
  congr 1
  cases hf : checkField field with
  | error e => rfl
  | ok u =>
    cases rejectDollarDeep v with
    | error e => rfl
    | ok u => exact congrArg Except.ok (normalized_single_scalar (checkField_eq_ok.1 hf).2.2 v)

theorem explicit_logical (b : WhereBuilder) (o : Operator) (children : List WhereBuilder)
    (flatten : Bool) :
    (b.logical o children flatten).explicit =
      b.explicit.logical o (children.map explicit) flatten := by
  have hitems : listItems flatten (children.map explicit) =
      (listItems flatten children).map normalized := by
    simp only [listItems, List.flatMap_map, List.map_flatMap]
    congr 1
    funext c
    simp only [explicit, joined_normalized, itemsOf_normalized]
    split <;> rfl
  have herror : (children.map explicit).findSome? (·.error) = children.findSome? (·.error) := by
    rw [List.findSome?_map]
    rfl
  rw [logical_eq, logical_eq, hitems, herror, group_normalized]
  simp [explicit]

/-- A condition of operators is its own normal form. -/
theorem normalized_conditions_opWith (h : b.conditions.map normalized = b.conditions)
    (field : String) (ops : List (String × Json)) :
    (b.opWith field ops).conditions.map normalized = (b.opWith field ops).conditions := by
  unfold opWith
  cases operands field ops with
  | ok es => simp [Except.map, attempt, push, h, normalized_single_nested]
  | error e => exact h

theorem explicit_between (b : WhereBuilder) (field : String) (min max : Json) (exclusive : Bool) :
    (b.between field min max exclusive).explicit = b.explicit.between field min max exclusive := by
  have hbounds : ∀ lower upper : Operator,
      ((empty.op field lower min).op field upper max).conditions.map normalized =
        ((empty.op field lower min).op field upper max).conditions := by
    intro lower upper
    exact normalized_conditions_opWith (normalized_conditions_opWith rfl field _) field _
  unfold between
  split
  · rfl
  · cases exclusive with
    | true =>
      dsimp only
      split
      · rfl
      · rw [explicit_push, normalized_logical, hbounds]
    | false =>
      dsimp only
      split
      · rfl
      · rw [explicit_push, normalized_logical, hbounds]

/-! ## The mode of a builder -/

theorem strict_attempt (b : WhereBuilder) (r : Except QueryError Where) :
    (b.attempt r).strict = b.strict := by
  cases r <;> rfl

theorem strict_logical (b : WhereBuilder) (o : Operator) (children : List WhereBuilder)
    (flatten : Bool) : (b.logical o children flatten).strict = b.strict := by
  rw [logical_eq]

/-- No call changes the mode. -/
theorem strict_apply (b : WhereBuilder) (call : WhereCall) : (call.apply b).strict = b.strict := by
  cases call with
  | compare op field value =>
    cases op with
    | eq =>
      simp only [WhereCall.apply, eq]
      split
      · exact strict_attempt ..
      · exact strict_attempt ..
    | _ => exact strict_attempt ..
  | likeWithOptions => exact strict_attempt ..
  | «exists» => exact strict_attempt ..
  | among => exact strict_attempt ..
  | between field min max exclusive =>
    simp only [WhereCall.apply, between]
    split
    · rfl
    · split
      · rfl
      · rfl
  | logical isOr children =>
    cases isOr with
    | true => exact strict_logical ..
    | false => exact strict_logical ..
  | raw w =>
    simp only [WhereCall.apply, whereRaw]
    split
    · rfl
    · rfl
  | reset => rfl

end WhereBuilder

/-! ## Sequences of calls -/

-- The induction is on the calls, and through the lists of children. Only a predicate that is pushed
-- as it stands would break it, and those are no fluent calls.
mutual
/-- **A call in strict mode** does to a builder with its equalities written out what the call does
to the builder itself. -/
theorem apply_explicit {b : WhereBuilder} (hb : b.strict = false) :
    ∀ {call : WhereCall}, call.Fluent →
      (call.inMode true).apply b.explicit = ((call.inMode false).apply b).explicit
  | .compare op field value, _ => by
    cases op with
    | eq => exact (explicit_eq hb field value).symm
    | _ => exact (explicit_opWith b field _).symm
  | .likeWithOptions field pattern options, _ => (explicit_opWith b field _).symm
  | .exists field value, _ => (explicit_opWith b field _).symm
  | .among op field values, _ => (explicit_opWith b field _).symm
  | .between field min max exclusive, _ => (explicit_between b field min max exclusive).symm
  | .logical isOr children, h => by
    have hchildren : WhereCall.applyChildren (WhereCall.inModeChildren true children) =
        (WhereCall.applyChildren (WhereCall.inModeChildren false children)).map explicit :=
      applyChildren_explicit h
    cases isOr with
    | true =>
      simp only [WhereCall.inMode, WhereCall.apply, if_true, hchildren]
      exact (explicit_logical b .or _ false).symm
    | false =>
      simp only [WhereCall.inMode, WhereCall.apply, Bool.false_eq_true, if_false, hchildren]
      exact (explicit_logical b .and _ true).symm
  | .reset, _ => rfl
theorem applyAll_explicit {b : WhereBuilder} (hb : b.strict = false) :
    ∀ {calls : List WhereCall}, WhereCall.FluentAll calls →
      WhereCall.applyAll b.explicit (WhereCall.inModeAll true calls) =
        (WhereCall.applyAll b (WhereCall.inModeAll false calls)).explicit
  | [], _ => rfl
  | call :: calls, h => by
    have hnext : ((call.inMode false).apply b).strict = false := by rw [strict_apply, hb]
    simp only [WhereCall.inModeAll, WhereCall.applyAll]
    rw [apply_explicit hb h.1]
    exact applyAll_explicit hnext h.2
theorem applyChildren_explicit :
    ∀ {children : List (WhereBuilder × List WhereCall)}, WhereCall.FluentChildren children →
      WhereCall.applyChildren (WhereCall.inModeChildren true children) =
        (WhereCall.applyChildren (WhereCall.inModeChildren false children)).map explicit
  | [], _ => rfl
  | (_, calls) :: rest, h => by
    simp only [WhereCall.inModeChildren, WhereCall.applyChildren, List.map_cons]
    rw [applyChildren_explicit h.2.2]
    exact congrArg (· :: _) (applyAll_explicit (b := empty) rfl h.2.1)
end

/-- The strict result is the normal form of the other one, and an error is the same. -/
theorem buildIn_strict {calls : List WhereCall} (h : WhereCall.FluentAll calls) :
    buildIn true calls = (buildIn false calls).map normalized := by
  have hrun := applyAll_explicit (b := empty) rfl h
  exact (congrArg build hrun).trans (build_explicit _)

/-! ## What a mode leaves as it is -/

mutual
/-- Calls in one mode are fluent if they were. -/
theorem fluent_inMode (strict : Bool) :
    ∀ {call : WhereCall}, call.Fluent → (call.inMode strict).Fluent
  | .compare .., h | .likeWithOptions .., h | .exists .., h | .among .., h | .between .., h
  | .reset, h => h
  | .logical _ _, h => fluentChildren_inMode strict h
theorem fluentAll_inMode (strict : Bool) :
    ∀ {calls : List WhereCall}, WhereCall.FluentAll calls →
      WhereCall.FluentAll (WhereCall.inModeAll strict calls)
  | [], _ => trivial
  | _ :: _, h => ⟨fluent_inMode strict h.1, fluentAll_inMode strict h.2⟩
theorem fluentChildren_inMode (strict : Bool) :
    ∀ {children : List (WhereBuilder × List WhereCall)}, WhereCall.FluentChildren children →
      WhereCall.FluentChildren (WhereCall.inModeChildren strict children)
  | [], _ => trivial
  | (_, _) :: _, h => by
    refine ⟨?_, fluentAll_inMode strict h.2.1, fluentChildren_inMode strict h.2.2⟩
    cases strict with
    | true => exact Or.inr rfl
    | false => exact Or.inl rfl
end

theorem wellFormed_buildIn {calls : List WhereCall} {strict : Bool} {w : Where}
    (h : WhereCall.FluentAll calls) (hw : buildIn strict calls = .ok w) : Where.WellFormed w := by
  have hstart : (WhereBuilder.start strict).Sound := by
    apply sound_start
    cases strict with
    | true => exact Or.inr rfl
    | false => exact Or.inl rfl
  exact wellFormed_of_build (sound_applyAll hstart (fluentAll_inMode strict h)) hw

/-- Equivalent predicates that every query translates to the same document, or refuses with the same
error. -/
def Where.Interchangeable (v w : Where) : Prop :=
  v.equivalent w = true ∧ ∀ (f : Filter) (c : Collection),
    ({ f with predicate := some v } : Filter).toDocument c =
      ({ f with predicate := some w } : Filter).toDocument c

theorem interchangeable_normalized {w : Where} (hw : Where.WellFormed w) :
    Where.Interchangeable (normalized w) w := by
  constructor
  · unfold equivalent
    rw [normalized_normalized]
    exact whereSame_refl _
  · intro f c
    have hdocument : Where.toDocument c (normalized w) = Where.toDocument c w := by
      unfold Where.toDocument
      rw [translateEntries_normalized hw]
    simp only [Filter.toDocument, hdocument, Filter.checkProjection, projectionOf]

/-- **Strictness is presentation.** The same calls with all builders strict and with none strict
fail with the same error, or give predicates that no query tells apart. -/
theorem strict_is_presentation (calls : List WhereCall) (h : WhereCall.FluentAll calls) :
    ResultRel Eq Where.Interchangeable (buildIn true calls) (buildIn false calls) := by
  rw [buildIn_strict h]
  cases hw : buildIn false calls with
  | error e => exact rfl
  | ok w => exact interchangeable_normalized (wellFormed_buildIn h hw)

/-- Equalities that collide, in a list of children and beside a range: the modes give different
predicates. -/
theorem strict_is_presentation_collision :
    let calls : List WhereCall :=
      [.compare .eq "a" (.nat 1), .compare .eq "a" .null, .between "b" (.nat 1) (.nat 9) true,
        .logical true [(.strictEmpty, [.compare .eq "c" (.object [("options", .string "i")])]),
          (.empty, [.reset])]]
    WhereCall.FluentAll calls ∧ buildIn true calls ≠ buildIn false calls ∧
      ResultRel Eq Where.Interchangeable (buildIn true calls) (buildIn false calls) := by
  intro calls
  have hf : WhereCall.FluentAll calls :=
    ⟨trivial, trivial, trivial,
      ⟨Or.inr rfl, ⟨trivial, trivial⟩, Or.inl rfl, ⟨trivial, trivial⟩, trivial⟩, trivial⟩
  exact ⟨hf, by decide +kernel, strict_is_presentation calls hf⟩

end RestKit.Query
