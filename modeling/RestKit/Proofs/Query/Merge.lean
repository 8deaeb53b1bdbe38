import RestKit.Proofs.Json.Ordered
import RestKit.Proofs.Query.Building
/-!
# Merging is associative

Each section of a filter is merged by a rule of its own: the fields of one builder are put over
those of the other unless they disagree (`Agree`), the last limit, skip and order win, relations are
added at the end, and predicates become the children of one `and`, where a conjunction dissolves
into its children (`listItems_and`). For each rule it makes no difference which two of three
builders are merged first; `merge_monoid` puts them together.
-/
namespace RestKit.Query

variable {α : Type}

/-- Both fail, or both give the same. -/
abbrev SameOutcome (x y : Except QueryError α) : Prop := ResultRel (fun _ _ => True) Eq x y

theorem SameOutcome.refl (x : Except QueryError α) : SameOutcome x x :=
  ResultRel.refl (fun _ => trivial) (fun _ => rfl) x

/-- Where one of two errors is there, so is the other. -/
theorem exists_of_none_iff {o p : Option α} {a : α} (h : o = none ↔ p = none) (ho : o = some a) :
    ∃ b, p = some b := by
  have hp : p ≠ none := by
    intro hp
    rw [h.2 hp] at ho
    cases ho
  exact Option.ne_none_iff_exists'.1 hp

/-! ## Predicates -/

namespace WhereBuilder

variable {b c x y z : WhereBuilder} {children : List WhereBuilder}

theorem build_sameOutcome (herr : b.error = none ↔ c.error = none)
    (h : b.error = none → b.conditions = c.conditions) : SameOutcome b.build c.build := by
  cases hb : b.error with
  | some e =>
    obtain ⟨f, hf⟩ := exists_of_none_iff herr hb
    rw [build_of_error hb, build_of_error hf]
    trivial
  | none =>
    rw [build_of_none hb, build_of_none (herr.1 hb), h hb]
    exact SameOutcome.refl _

/-- A conjunction dissolves into its children, and without children there is none. -/
theorem itemsOf_joined_group (items : List Where) :
    itemsOf true (joined (group .and items)) = items := by
  cases items with
  | nil => rfl
  | cons w ws => simp [group, joined, itemsOf, flattened, Where.conjuncts?, Where.logical,
      Where.single]

theorem and_error_eq_none :
    (b.and children).error = none ↔ b.error = none ∧ ∀ c ∈ children, c.error = none :=
  logical_error_eq_none

theorem conditions_and :
    (b.and children).conditions = b.conditions ++ group .and (listItems true children) := by
  rw [and, logical_eq]

theorem listItems_append (flatten : Bool) (cs ds : List WhereBuilder) :
    listItems flatten (cs ++ ds) = listItems flatten cs ++ listItems flatten ds :=
  List.flatMap_append

/-- A child that is an `and` gives what its own children give. -/
theorem listItems_and (h : ∀ c ∈ children, c.error = none) :
    listItems true [empty.and children] = listItems true children := by
  have herr : (empty.and children).error = none := and_error_eq_none.2 ⟨rfl, h⟩
  have hcond : (empty.and children).conditions = group .and (listItems true children) :=
    conditions_and
  rw [listItems_of_none (List.forall_mem_singleton.2 herr), List.map_singleton,
    List.flatMap_singleton, hcond, itemsOf_joined_group]

/-- Of three children it makes no difference which two stand together. -/
theorem pair_assoc :
    SameOutcome (empty.and [empty.and [x, y], z]).build
      (empty.and [x, empty.and [y, z]]).build := by
  apply build_sameOutcome
  · simp [and_error_eq_none, empty, and_assoc]
  · intro h
    have herr := (and_error_eq_none.1 h).2
    have hxy : ∀ c ∈ [x, y], c.error = none :=
      (and_error_eq_none.1 (herr (empty.and [x, y]) (by simp))).2
    have hz : z.error = none := herr z (by simp)
    have hyz : ∀ c ∈ [y, z], c.error = none := by
      simp [hxy y (by simp), hz]
    -- each side pushes one list, and both lists have the items of all three children
    rw [conditions_and, conditions_and]
    congr 2
    calc listItems true ([empty.and [x, y]] ++ [z])
        = listItems true [x, y] ++ listItems true [z] := by
          rw [listItems_append, listItems_and hxy]
      _ = listItems true ([x] ++ [y, z]) := by
          rw [← listItems_append]; rfl
      _ = listItems true ([x] ++ [empty.and [y, z]]) := by
          rw [listItems_append, listItems_append, listItems_and hyz]

end WhereBuilder

namespace FilterBuilder

variable {a b c : FilterBuilder} {config : MergeConfig}

theorem predicate_merge :
    (a.merge b config).predicate = mergePredicate config a.predicate b.predicate := by
  rw [merge_eq]

/-- The predicate that three builders give together. -/
theorem builtPredicate_assoc (hand : config.joinByOr = false) :
    SameOutcome ((a.merge b config).merge c config).builtPredicate
      (a.merge (b.merge c config) config).builtPredicate := by
  simp only [builtPredicate, predicate_merge]
  cases a.predicate with
  | none => exact SameOutcome.refl _
  | some x =>
    cases b.predicate with
    | none => exact SameOutcome.refl _
    | some y =>
      cases c.predicate with
      | none => exact SameOutcome.refl _
      | some z =>
        simp only [mergePredicate, hand, Bool.false_eq_true, if_false]
        exact WhereBuilder.pair_assoc

/-! ## Fields -/

/-- Fields that are put over others have none with a different flag there, or that is allowed. -/
def Agree (config : MergeConfig) (xs : Dict Bool) (ys : List (String × Bool)) : Prop :=
  config.allowFieldConflicts = true ∨
    ∀ k x y, xs.get? k = some x → Json.lookup ys k = some y → x = y

variable {k : String} {v : Bool} {xs : Dict Bool} {ys : List (String × Bool)}

theorem agree_entries (xs ys : Dict Bool) :
    Agree config xs ys.entries ↔ config.allowFieldConflicts = true ∨
      ∀ k x y, xs.get? k = some x → ys.get? k = some y → x = y := Iff.rfl

theorem agree_nil_right : Agree config xs [] := Or.inr fun _ _ _ _ hy => nomatch hy

theorem agree_empty_left : Agree config {} ys := Or.inr fun _ _ _ hx _ => nomatch hx

theorem agree_singleton :
    Agree config xs [(k, v)] ↔
      config.allowFieldConflicts = true ∨ ∀ old, xs.get? k = some old → old = v := by
  refine or_congr_right ⟨fun h old hold => ?_, fun h l x y hx hy => ?_⟩
  · exact h k old v hold (by simp [Json.lookup_cons])
  · rw [Json.lookup_cons] at hy
    by_cases hl : k = l
    · subst hl
      rw [if_pos rfl] at hy
      cases hy
      exact h x hx
    · rw [if_neg hl] at hy
      cases hy

/-- The first of some fields agrees, and the others do once it was inserted. -/
theorem agree_cons (hys : Json.KeyOrdered ((k, v) :: ys)) :
    Agree config xs ((k, v) :: ys) ↔
      Agree config xs [(k, v)] ∧ Agree config (xs.insert k v) ys := by
  rw [agree_singleton]
  cases hconfig : config.allowFieldConflicts with
  | true => simp [Agree, hconfig]
  | false =>
    simp only [Agree, hconfig, Bool.false_eq_true, false_or]
    constructor
    · intro h
      refine ⟨fun old hold => h k old v hold (by simp [Json.lookup_cons]), fun l x y hx hy => ?_⟩
      -- the fields that are left have other names, and those the insertion does not touch
      have hl : k ≠ l := by
        rintro rfl
        rw [hys.lookup_tail] at hy
        cases hy
      rw [Dict.get?_insert, if_neg hl] at hx
      exact h l x y hx (by rw [Json.lookup_cons, if_neg hl, hy])
    · rintro ⟨hhead, hrest⟩ l x y hx hy
      rw [Json.lookup_cons] at hy
      by_cases hl : k = l
      · subst hl
        rw [if_pos rfl] at hy
        cases hy
        exact hhead x hx
      · rw [if_neg hl] at hy
        exact hrest l x y (by rw [Dict.get?_insert, if_neg hl, hx]) hy

theorem mergeField_of_agree (h : Agree config b.fields [(k, v)]) :
    mergeField config b (k, v) = { b with fields := b.fields.insert k v } := by
  unfold mergeField
  dsimp only
  cases hold : b.fields.get? k with
  | none => rfl
  | some old =>
    rcases agree_singleton.1 h with hconfig | hflag
    · simp [hconfig]
    · simp [hflag old hold]

theorem mergeField_of_not_agree (h : ¬ Agree config b.fields [(k, v)]) :
    mergeField config b (k, v) = b.fail (.fieldConflict k) := by
  rw [agree_singleton, not_or, Bool.not_eq_true] at h
  obtain ⟨hconfig, hflag⟩ := h
  unfold mergeField
  dsimp only
  cases hold : b.fields.get? k with
  | none => simp [hold] at hflag
  | some old =>
    have hne : old ≠ v := by simpa [hold] using hflag
    simp [hne, hconfig]

/-- Fields that agree are put over those of the builder, and nothing else changes. -/
theorem mergeFields_of_agree (hys : Json.KeyOrdered ys) (h : Agree config b.fields ys) :
    b.mergeFields config ys = { b with fields := b.fields.overlaid ys } := by
  induction ys generalizing b with
  | nil => cases b; rfl
  | cons y ys ih =>
    obtain ⟨hhead, hrest⟩ := (agree_cons hys).1 h
    rw [mergeFields_cons, mergeField_of_agree hhead, ih hys.tail hrest]
    rfl

/-- Fields that do not agree are an error. -/
theorem mergeFields_of_not_agree (hys : Json.KeyOrdered ys) (h : ¬ Agree config b.fields ys) :
    (b.mergeFields config ys).error ≠ none := by
  induction ys generalizing b with
  | nil => exact absurd agree_nil_right h
  | cons y ys ih =>
    obtain ⟨k, v⟩ := y
    rw [mergeFields_cons]
    by_cases hhead : Agree config b.fields [(k, v)]
    · rw [mergeField_of_agree hhead]
      exact ih hys.tail fun hrest => h ((agree_cons hys).2 ⟨hhead, hrest⟩)
    · rw [mergeField_of_not_agree hhead, mergeFields_eq]
      simp [fail]

/-- **Merged fields.** A merge has no error if neither builder has one and their fields agree. -/
theorem merge_error_eq_none :
    (a.merge b config).error = none ↔
      a.error = none ∧ b.error = none ∧ Agree config a.fields b.fields.entries := by
  rw [merge_eq]
  simp only [Option.or_eq_none_iff, and_assoc]
  refine and_congr_right fun _ => and_congr_right fun _ => ?_
  constructor
  · intro herr
    by_contra h
    exact mergeFields_of_not_agree (b := { fields := a.fields }) b.fields.ordered h herr
  · intro h
    rw [mergeFields_of_agree (b := { fields := a.fields }) b.fields.ordered h]

theorem fields_merge (h : Agree config a.fields b.fields.entries) :
    (a.merge b config).fields = a.fields.overlaid b.fields.entries := by
  rw [merge_eq, mergeFields_of_agree (b := { fields := a.fields }) b.fields.ordered h]

/-- Three maps of fields agree in one order as in the other: what is said of one field is said of
the first flag that is found. -/
theorem agree_assoc (xs ys zs : Dict Bool) :
    Agree config xs ys.entries ∧ Agree config (xs.overlaid ys.entries) zs.entries ↔
      Agree config ys zs.entries ∧ Agree config xs (ys.overlaid zs.entries).entries := by
  simp only [agree_entries, Dict.get?_overlaid]
  cases config.allowFieldConflicts with
  | true => simp
  | false =>
    simp only [Bool.false_eq_true, false_or, ← forall_and]
    refine forall_congr' fun k => ?_
    cases xs.get? k <;> cases ys.get? k <;> cases zs.get? k <;> grind

/-! ## Counts and order -/

theorem capped_assoc (i j k max : Option Nat) :
    capped (k.or (capped (j.or i) max)) max = capped ((capped (k.or j) max).or i) max := by
  cases max with
  | none => simp [capped, Option.or_assoc]
  | some m =>
    cases k with
    | some n => simp [capped]
    | none => cases j <;> cases i <;> simp [capped]

/-- The last order that is not empty. -/
theorem order_assoc (r s t : List OrderEntry) :
    (if t.isEmpty then (if s.isEmpty then r else s) else t) =
      if (if t.isEmpty then s else t).isEmpty then r else if t.isEmpty then s else t := by
  cases t with
  | nil => simp
  | cons e es => simp

/-! ## Filters -/

/-- Builders with the same sections have the same outcome. -/
theorem build_sameOutcome {x y : FilterBuilder} (herr : x.error = none ↔ y.error = none)
    (hpredicate : SameOutcome x.builtPredicate y.builtPredicate)
    (hfields : x.error = none → x.fields = y.fields) (horder : x.order = y.order)
    (hlimit : x.limit = y.limit) (hskip : x.skip = y.skip) (hincludes : x.includes = y.includes) :
    SameOutcome x.build y.build := by
  rw [build_eq, build_eq]
  cases hx : x.error with
  | some e =>
    obtain ⟨f, hf⟩ := exists_of_none_iff herr hx
    rw [hf]
    trivial
  | none =>
    rw [herr.1 hx]
    refine hpredicate.bind fun w w' hw => ?_
    subst hw
    have hfilter : ∀ is, x.filterOf w is = y.filterOf w is := by
      intro is
      simp [filterOf, hfields hx, horder, hlimit, hskip]
    simp only [hfilter, hincludes]
    exact SameOutcome.refl _

theorem error_assoc :
    ((a.merge b config).merge c config).error = none ↔
      (a.merge (b.merge c config) config).error = none := by
  simp only [merge_error_eq_none]
  constructor
  · rintro ⟨⟨haerr, hberr, hab⟩, hcerr, h⟩
    rw [fields_merge hab] at h
    obtain ⟨hbc, h⟩ := (agree_assoc ..).1 ⟨hab, h⟩
    refine ⟨haerr, ⟨hberr, hcerr, hbc⟩, ?_⟩
    rwa [fields_merge hbc]
  · rintro ⟨haerr, ⟨hberr, hcerr, hbc⟩, h⟩
    rw [fields_merge hbc] at h
    obtain ⟨hab, h⟩ := (agree_assoc ..).2 ⟨hbc, h⟩
    refine ⟨⟨haerr, hberr, hab⟩, hcerr, ?_⟩
    rwa [fields_merge hab]

theorem fields_assoc (herr : ((a.merge b config).merge c config).error = none) :
    ((a.merge b config).merge c config).fields =
      (a.merge (b.merge c config) config).fields := by
  have herr' := error_assoc.1 herr
  obtain ⟨hab, -, habc⟩ := merge_error_eq_none.1 herr
  obtain ⟨-, hbc, habc'⟩ := merge_error_eq_none.1 herr'
  have hab := (merge_error_eq_none.1 hab).2.2
  have hbc := (merge_error_eq_none.1 hbc).2.2
  rw [fields_merge habc, fields_merge hab, fields_merge habc', fields_merge hbc,
    Dict.overlaid_assoc]

theorem merge_assoc (hand : config.joinByOr = false) :
    SameOutcome ((a.merge b config).merge c config).build
      (a.merge (b.merge c config) config).build := by
  apply build_sameOutcome
  case herr => exact error_assoc
  case hpredicate => exact builtPredicate_assoc hand
  case hfields => exact fields_assoc
  all_goals simp only [merge_eq]
  case horder => exact order_assoc ..
  case hlimit => exact capped_assoc ..
  case hskip => exact Option.or_assoc.symm
  case hincludes => exact List.append_assoc ..

/-- An empty builder after another one changes nothing. -/
theorem merge_empty (a : FilterBuilder) : a.merge {} {} = a := by
  have hfields : mergeFields { fields := a.fields } {} ({} : Dict Bool).entries =
      { fields := a.fields } := rfl
  obtain ⟨predicate, fields, order, limit, skip, includes, error⟩ := a
  cases predicate <;> simp_all [merge_eq, mergePredicate, capped]

/-- An empty builder before another one changes nothing. -/
theorem empty_merge (a : FilterBuilder) : merge {} a {} = a := by
  have hfields : mergeFields {} {} a.fields.entries = { fields := a.fields } := by
    rw [mergeFields_of_agree a.fields.ordered agree_empty_left, Dict.empty_overlaid]
  obtain ⟨predicate, fields, order, limit, skip, includes, error⟩ := a
  cases order <;> cases predicate <;> simp_all [merge_eq, mergePredicate, capped]

end FilterBuilder

/-- **Merging is a monoid.** Under a configuration that joins predicates by `and`, it makes no
difference which two of three builders are merged first, and under the default one an empty builder
changes nothing. -/
theorem merge_monoid (a b c : FilterBuilder) (config : MergeConfig)
    (hand : config.joinByOr = false) :
    SameOutcome ((a.merge b config).merge c config).build
        (a.merge (b.merge c config) config).build ∧
      (a.merge {} {}).build = a.build ∧ (FilterBuilder.merge {} a {}).build = a.build := by
  refine ⟨FilterBuilder.merge_assoc hand, ?_, ?_⟩
  · rw [FilterBuilder.merge_empty]
  · rw [FilterBuilder.empty_merge]

/-- A bare conjunction, a builder that asks for nothing and a condition, with fields, limits under a
maximum and relations. -/
theorem merge_monoid_conjunction :
    let config : MergeConfig := { maxLimit := some 5 }
    let a : FilterBuilder :=
      { predicate := some ((WhereBuilder.empty.gt "a" (.nat 1)).lt "a" (.nat 9))
        fields := .ofPairs [("a", true)], limit := some 9, includes := [("owner", none)] }
    let b : FilterBuilder :=
      { predicate := some .empty, fields := .ofPairs [("a", true), ("b", true)]
        order := [⟨"a", .asc⟩] }
    let c : FilterBuilder :=
      { predicate := some (WhereBuilder.empty.eq "b" .null), fields := .ofPairs [("c", true)]
        limit := some 7, includes := [("tags", none)] }
    config.joinByOr = false ∧
    SameOutcome ((a.merge b config).merge c config).build
        (a.merge (b.merge c config) config).build ∧
      (a.merge {} {}).build = a.build ∧ (FilterBuilder.merge {} a {}).build = a.build :=
  ⟨rfl, merge_monoid _ _ _ _ rfl⟩

end RestKit.Query
