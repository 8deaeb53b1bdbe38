import RestKit.Proofs.Json.Same
import RestKit.Proofs.Query.Grammar
import RestKit.Proofs.Query.Translation
/-!
# Equivalent predicates

The translation does not tell equivalent predicates apart. Writing an implicit equality out changes
nothing (`translateEntries_normalized`), and operands that are the same give documents that are the
same or errors that are the same (`translateEntries_same`). Errors quote the value that they refuse
as it is written, so those for `0.0` and `-0.0` are the same without being equal.
-/
namespace RestKit.Query

variable {c : Collection}

/-! ## Results that are the same -/

/-- The same cause; a value that is quoted counts up to `Json.same`. -/
def QueryError.Same : QueryError → QueryError → Prop
  | .notObjectId f v, .notObjectId g u => f = g ∧ v.Same u
  | .notDate f v, .notDate g u => f = g ∧ v.Same u
  | e, f => e = f

theorem QueryError.Same.refl (e : QueryError) : e.Same e := by
  cases e <;> simp [QueryError.Same, Json.Same, Json.same_refl]

/-- Results of which both are errors of one cause or both are values that are related. -/
abbrev SameResult {α β : Type} (R : α → β → Prop) :
    Except QueryError α → Except QueryError β → Prop := ResultRel QueryError.Same R

/-- Documents that are the same. -/
abbrev SameEntries (d e : List (String × Json)) : Prop := Json.sameEntries d e = true

/-! ## Operands -/

theorem same_string {s : String} {u : Json} (h : (Json.string s).Same u) : u = .string s := by
  cases u <;> simp_all [Json.Same, Json.same]

theorem isNull_eq_of_same {v u : Json} (h : v.Same u) : v.isNull = u.isNull := by
  cases v <;> cases u <;> first | rfl | cases h

theorem coerceObjectId_same {field : String} {v u : Json} (h : v.Same u) :
    SameResult Json.Same (coerceObjectId field v) (coerceObjectId field u) := by
  cases v with
  | string s =>
    rw [same_string h]
    exact ResultRel.refl QueryError.Same.refl Json.same_refl _
  | _ => cases u <;> first | exact ⟨rfl, h⟩ | cases h

/-- Only integers are epochs, and integers that are the same are equal. -/
theorem int64?_eq_of_same {m n : Number} (h : m.same n = true) :
    (Json.number m).int64? = (Json.number n).int64? := by
  cases m <;> cases n <;> simp_all [Number.same, Json.int64?]

theorem coerceDate_same {field : String} {v u : Json} (h : v.Same u) :
    SameResult Json.Same (coerceDate field v) (coerceDate field u) := by
  cases v with
  | string s =>
    rw [same_string h]
    exact ResultRel.refl QueryError.Same.refl Json.same_refl _
  | number m =>
    cases u with
    | number n =>
      have hn : (Json.number m).int64? = (Json.number n).int64? := int64?_eq_of_same h
      simp only [coerceDate, hn]
      cases (Json.number n).int64?.bind instantOfEpoch with
      | some t => exact Json.same_refl _
      | none => exact ⟨rfl, h⟩
    | _ => cases h
  | _ => cases u <;> first | exact ⟨rfl, h⟩ | cases h

theorem coerceOperand_same {field : String} {v u : Json} (h : v.Same u) :
    SameResult Json.Same (coerceOperand c field v) (coerceOperand c field u) := by
  unfold coerceOperand
  rw [isNull_eq_of_same h]
  split
  · exact Json.same_refl _
  · split
    · exact coerceObjectId_same h
    · exact coerceDate_same h
    · exact h

mutual
/-- The deep check sees keys only. -/
theorem rejectDollarDeep_same : ∀ {v u : Json}, v.same u = true →
    rejectDollarDeep v = rejectDollarDeep u
  | .null, .null, _ | .bool _, .bool _, _ | .number _, .number _, _ | .string _, .string _, _ => rfl
  | .array xs, .array ys, h => @rejectDollarItems_same xs ys h
  | .object es, .object fs, h => @rejectDollarEntries_same es fs h
theorem rejectDollarItems_same : ∀ {xs ys : List Json}, Json.sameItems xs ys = true →
    rejectDollarItems xs = rejectDollarItems ys
  | [], [], _ => rfl
  | x :: xs, y :: ys, h => by
    simp only [Json.sameItems, Bool.and_eq_true] at h
    simp only [rejectDollarItems, rejectDollarDeep_same h.1, rejectDollarItems_same h.2]
theorem rejectDollarEntries_same : ∀ {es fs : List (String × Json)},
    Json.sameEntries es fs = true → rejectDollarEntries es = rejectDollarEntries fs
  | [], [], _ => rfl
  | (k, x) :: es, (l, y) :: fs, h => by
    simp only [Json.sameEntries, Bool.and_eq_true, beq_iff_eq] at h
    obtain ⟨⟨rfl, hx⟩, hes⟩ := h
    simp only [rejectDollarEntries, rejectDollarDeep_same hx, rejectDollarEntries_same hes]
end

/-! ## Operators -/

theorem sameEntries_single {k : String} {x y : Json} (h : x.Same y) :
    SameEntries [(k, x)] [(k, y)] := by
  simpa [SameEntries, Json.Same, Json.sameEntries] using h

theorem patternEntries_same {v u : Json} {options : Option String} (h : v.Same u) :
    SameEntries (patternEntries v options) (patternEntries u options) := by
  cases options with
  | none => exact sameEntries_single h
  | some o =>
    simpa [SameEntries, Json.Same, patternEntries, Json.sameEntries, Json.same] using h

theorem translateOperator_same {field key : String} {options : Option String} {v u : Json}
    (op : Operator) (h : v.Same u) :
    SameResult SameEntries (translateOperator c field key options v op)
      (translateOperator c field key options u op) := by
  cases op with
  | inq | nin =>
    cases v with
    | array xs =>
      cases u with
      | array ys =>
        have hxs : List.Forall₂ Json.Same xs ys := Json.sameItems_iff.1 h
        refine (ResultRel.mapM hxs fun _ _ => coerceOperand_same).bind fun as bs hab => ?_
        exact sameEntries_single (Json.sameItems_iff.2 hab)
      | _ => cases h
    | _ => cases u <;> first | exact rfl | cases h
  | like => exact patternEntries_same h
  | nlike => exact sameEntries_single (patternEntries_same h)
  | «exists» => exact sameEntries_single h
  | and | or => exact rfl
  | eq | neq | gt | gte | lt | lte =>
    exact (coerceOperand_same h).bind fun _ _ => sameEntries_single

theorem same_scalar {v : Json} {y : Operand} (h : (Operand.scalar v).same y = true) :
    ∃ u, y = .scalar u ∧ v.Same u := by
  cases y with
  | scalar u => exact ⟨u, rfl, h⟩
  | _ => cases h

theorem translateEntry_same {field key : String} {options : Option String} {x y : Operand}
    (h : x.same y = true) :
    SameResult SameEntries (translateEntry c field options key x)
      (translateEntry c field options key y) := by
  unfold translateEntry
  refine ResultRel.bind (R := fun _ _ => True) ?_ fun _ _ _ => ?_
  · exact ResultRel.refl QueryError.Same.refl (fun _ => trivial) _
  · split
    · exact rfl
    · cases Operator.parse? key with
      | none => exact rfl
      | some op =>
        cases x with
        | scalar v =>
          obtain ⟨u, rfl, hu⟩ := same_scalar h
          dsimp only
          rw [rejectDollarDeep_same hu]
          refine ResultRel.bind (R := fun _ _ => True) ?_ fun _ _ _ => translateOperator_same op hu
          exact ResultRel.refl QueryError.Same.refl (fun _ => trivial) _
        | nested es => cases y <;> first | exact rfl | cases h
        | list ws => cases y <;> first | exact rfl | cases h

theorem whereSame_iff {a b : List (String × Operand)} :
    Where.same a b = true ↔
      List.Forall₂ (Json.EntryRel fun x y => Operand.same x y = true) a b := by
  induction a generalizing b with
  | nil => cases b <;> simp [Where.same]
  | cons e a ih => cases b <;> simp [Where.same, ih, Json.EntryRel]

theorem lookup_same {a b : List (String × Operand)} (h : Where.same a b = true) (k : String) :
    Option.Rel (fun x y => Operand.same x y = true) (Json.lookup a k) (Json.lookup b k) :=
  Json.lookup_rel (R := fun _ x y => Operand.same x y = true) (whereSame_iff.1 h) k

/-- Operators that are the same have the same pattern options. -/
theorem patternOptions_same {a b : List (String × Operand)} (h : Where.same a b = true) :
    patternOptions a = patternOptions b := by
  have hl := lookup_same h optionsKey
  unfold patternOptions
  cases ha : Json.lookup a optionsKey with
  | none =>
    cases hb : Json.lookup b optionsKey with
    | none => rfl
    | some y => rw [ha, hb] at hl; cases hl
  | some x =>
    cases hb : Json.lookup b optionsKey with
    | none => rw [ha, hb] at hl; cases hl
    | some y =>
      rw [ha, hb] at hl
      cases hl with
      | some hxy =>
        cases x with
        | scalar v =>
          obtain ⟨u, rfl, hu⟩ := same_scalar hxy
          cases v with
          | string s => rw [same_string hu]
          | _ => cases u <;> first | rfl | cases hu
        | _ => cases y <;> first | rfl | cases hxy

theorem translateOperators_same {field : String} {a b : List (String × Operand)}
    (h : Where.same a b = true) :
    SameResult SameEntries (translateOperators c field a) (translateOperators c field b) := by
  unfold translateOperators
  rw [patternOptions_same h]
  refine ResultRel.bind (ResultRel.mapM (S := SameEntries) (whereSame_iff.1 h) ?_) ?_
  · rintro ⟨k, x⟩ ⟨l, y⟩ ⟨hk, hxy⟩
    simp only at hk hxy
    subst hk
    exact translateEntry_same hxy
  · intro ess fss hess
    refine Json.sameEntries_iff.2 (Json.forall₂_entriesOf ?_)
    induction hess with
    | nil => exact .nil
    | cons hes _ ih => exact List.rel_append (Json.sameEntries_iff.1 hes) ih

/-! ## Predicates -/

mutual
/-- **Same in, same out.** Predicates that are the same give documents that are the same, or errors
of one cause. -/
theorem translateEntries_same : ∀ {a b : List (String × Operand)}, Where.same a b = true →
    SameResult SameEntries (translateEntries c a) (translateEntries c b)
  | [], [], _ => by
    simp only [translateEntries]
    exact Json.sameEntries_iff.2 .nil
  | (k, x) :: a, (l, y) :: b, h => by
    simp only [Where.same, Bool.and_eq_true, beq_iff_eq] at h
    obtain ⟨⟨rfl, hxy⟩, hab⟩ := h
    rw [translateEntries_cons, translateEntries_cons]
    refine ResultRel.bind (R := fun _ _ => True) ?_ fun _ _ _ => ?_
    · exact ResultRel.refl QueryError.Same.refl (fun _ => trivial) _
    · refine (translateMember_same hxy).bind fun e f hef => ?_
      refine (translateEntries_same hab).bind fun d d' hd => ?_
      exact Json.sameEntries_iff.2 (.cons hef (Json.sameEntries_iff.1 hd))
theorem translateMember_same {key : String} : ∀ {x y : Operand}, x.same y = true →
    SameResult (Json.EntryRel Json.Same) (translateMember c key x) (translateMember c key y)
  | .scalar v, .scalar u, h => by
    unfold translateMember
    cases Operator.parse? key with
    | some op => exact rfl
    | none =>
      refine (coerceOperand_same h).map fun i j hij => ⟨rfl, ?_⟩
      exact sameEntries_single hij
  | .nested a, .nested b, h => by
    unfold translateMember
    cases Operator.parse? key with
    | some op => exact rfl
    | none => exact (translateOperators_same h).map fun d e hde => ⟨rfl, hde⟩
  | .list ws, .list vs, h => by
    unfold translateMember
    cases Operator.parse? key with
    | none => exact rfl
    | some op =>
      dsimp only
      split
      · exact (translateList_same h).map fun ds es hde => ⟨rfl, hde⟩
      · exact rfl
theorem translateList_same : ∀ {ws vs : List (List (String × Operand))},
    Where.sameList ws vs = true →
      SameResult (fun ds es => Json.sameItems ds es = true) (translateList c ws)
        (translateList c vs)
  | [], [], _ => by
    simp only [translateList]
    exact Json.sameItems_iff.2 .nil
  | w :: ws, v :: vs, h => by
    simp only [Where.sameList, Bool.and_eq_true] at h
    simp only [translateList]
    refine (translateEntries_same h.1).bind fun d d' hd => ?_
    refine (translateList_same h.2).bind fun ds es hds => ?_
    have hobj : SameEntries (Json.entriesOf d) (Json.entriesOf d') :=
      Json.sameEntries_iff.2 (Json.forall₂_entriesOf (Json.sameEntries_iff.1 hd))
    exact Bool.and_eq_true_iff.2 ⟨hobj, hds⟩
end

/-! ## Implicit equalities -/

theorem normalized_eq_map (w : List (String × Operand)) :
    Where.normalized w = w.map fun e => (e.1, e.2.normalized e.1) := by
  induction w with
  | nil => rfl
  | cons e w ih => rw [Where.normalized, ih, List.map_cons]

theorem normalizedList_eq_map (ws : List (List (String × Operand))) :
    Where.normalizedList ws = ws.map Where.normalized := by
  induction ws with
  | nil => rfl
  | cons w ws ih => rw [Where.normalizedList, ih, List.map_cons]

/-- A map with one equality gives the document of an implicit one. -/
theorem translateOperators_eq {field : String} {v : Json} (hv : DollarFree v) :
    translateOperators c field [(Operator.eq.name, .scalar v)] =
      (coerceOperand c field v).map fun j => [(Operator.eq.document, j)] := by
  have hp : Operator.parse? Operator.eq.name = some .eq := parse?_eq_some.2 rfl
  have ho : (Operator.eq.name == optionsKey) = false := by decide
  have hd : rejectDollar Operator.eq.name = .ok () := rejectDollar_eq_ok.2 (isDollar_name .eq)
  have hf : rejectDollarDeep v = .ok () := (rejectDollarDeep_eq_ok v).2 hv
  have hentry (options : Option String) :
      translateEntry c field options Operator.eq.name (.scalar v) =
        (coerceOperand c field v).map fun j => [(Operator.eq.document, j)] := by
    simp only [translateEntry, hd, ho, hp, hf, translateOperator]
    cases coerceOperand c field v <;> rfl
  simp only [translateOperators, List.mapM_cons, List.mapM_nil, hentry]
  cases coerceOperand c field v <;> rfl

mutual
/-- Writing the implicit equalities of a predicate out does not change its translation. -/
theorem translateEntries_normalized : ∀ {w : List (String × Operand)}, Where.WellFormed w →
    translateEntries c (Where.normalized w) = translateEntries c w
  | [], _ => rfl
  | (k, x) :: w, h => by
    rw [Where.normalized, translateEntries_cons, translateEntries_cons,
      translateMember_normalized h.2.2.1, translateEntries_normalized h.2.2.2]
theorem translateMember_normalized {key : String} : ∀ {x : Operand}, x.WellFormed key →
    translateMember c key (x.normalized key) = translateMember c key x
  | .scalar v, h => by
    simp only [Operand.normalized, h.1, Option.isNone_none, if_true, translateMember,
      translateOperators_eq h.2]
    cases coerceOperand c key v <;> rfl
  | .nested _, _ => rfl
  | .list ws, h => by
    obtain ⟨⟨op, hop, hl⟩, hws⟩ := h
    simp only [Operand.normalized, translateMember, hop, hl, if_true, translateList_normalized hws]
theorem translateList_normalized : ∀ {ws : List (List (String × Operand))},
    Where.WellFormedList ws → translateList c (Where.normalizedList ws) = translateList c ws
  | [], _ => rfl
  | w :: ws, h => by
    simp only [Where.normalizedList, translateList, translateEntries_normalized h.1,
      translateList_normalized h.2]
end

/-- Equivalent predicates of the grammar have the same document, or are refused for one cause. -/
theorem toDocument_same {a b : Where} (ha : Where.WellFormed a) (hb : Where.WellFormed b)
    (h : a.equivalent b = true) : SameResult SameEntries (a.toDocument c) (b.toDocument c) := by
  have hab := translateEntries_same (c := c) h
  rw [translateEntries_normalized ha, translateEntries_normalized hb] at hab
  refine hab.map fun d e hde => ?_
  exact Json.sameEntries_iff.2 (Json.forall₂_entriesOf (Json.sameEntries_iff.1 hde))

end RestKit.Query
