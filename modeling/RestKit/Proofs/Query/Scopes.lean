import RestKit.Proofs.Query.Restored
/-!
# Projections at every level

The levels of a filter are the filter itself and the levels of the scopes in it. The rule that a
projection is of one kind is checked at each of them (`checkProjection_eq_ok_iff`), and a filter
against it is refused with the names of one level that mixes the kinds (`checkProjection_eq_error`).
Building checks the scopes on its way and all levels at its end. So a filter that was read is put
back together unless one of its levels is mixed, and no builder gives a filter with a mixed level
(`levels_of_one_kind`).
-/
namespace RestKit.Query

variable {max : Nat} {v : Json} {f g : Filter} {b : FilterBuilder} {e : QueryError}
  {is : List (String × Option Filter)} {names : List String}

namespace Filter

/-! ## Levels -/

/-- The levels of a filter: itself, and the levels of the scope of each relation. -/
inductive Level : Filter → Filter → Prop
  | self {f : Filter} : Level f f
  | scope {f g h : Filter} {i : String × Option Filter} (relation : i ∈ f.includes)
    (scope : g ∈ i.2) (level : Level g h) : Level f h

/-- What holds at every level holds of the filter, and at every level of each scope. -/
theorem forall_level_iff {P : Filter → Prop} :
    (∀ g, f.Level g → P g) ↔
      P f ∧ ∀ i ∈ f.includes, ∀ g ∈ i.2, ∀ h, g.Level h → P h := by
  constructor
  · intro hall
    exact ⟨hall f .self, fun i hi g hg h hlevel => hall h (.scope hi hg hlevel)⟩
  · rintro ⟨hself, hscopes⟩ g hlevel
    cases hlevel with
    | self => exact hself
    | scope hi hg hlevel => exact hscopes _ hi _ hg g hlevel

/-! ## Mixed projections -/

/-- The filter includes a field and excludes another one, the primary key apart. -/
def IsMixed (f : Filter) : Prop :=
  ∃ k l, isPrimaryKey k = false ∧ isPrimaryKey l = false ∧
    (k, true) ∈ f.fields ∧ (l, false) ∈ f.fields

/-- The names are those that a mixed projection includes or excludes, the primary key apart. -/
structure Offends (f : Filter) (names : List String) : Prop where
  mixed : f.IsMixed
  mem_iff : ∀ k, k ∈ names ↔ isPrimaryKey k = false ∧ ∃ flag, (k, flag) ∈ f.fields

/-- The names in a projection with one flag, the primary key apart. -/
theorem mem_flagged {fields : Dict Bool} {p : Bool → Bool} {flag : Bool}
    (hp : ∀ b, p b = true ↔ b = flag) {k : String} :
    k ∈ ((fields.entries.filter fun f => !isPrimaryKey f.1).filter fun f => p f.2).map (·.1) ↔
      isPrimaryKey k = false ∧ (k, flag) ∈ fields := by
  simp only [List.mem_map, List.mem_filter, Bool.not_eq_true', hp, Dict.mem_def]
  constructor
  · rintro ⟨⟨l, b⟩, ⟨⟨hmem, hl⟩, rfl⟩, rfl⟩
    exact ⟨hl, hmem⟩
  · rintro ⟨hk, hmem⟩
    exact ⟨(k, flag), ⟨⟨hmem, hk⟩, rfl⟩, rfl⟩

theorem isMixed_iff : f.IsMixed ↔ mixedNames f.fields ≠ none := by
  unfold mixedNames
  dsimp only
  have hincluded := @mem_flagged f.fields (fun b => b) true (by simp)
  have hexcluded := @mem_flagged f.fields (fun b => !b) false (by simp)
  rw [ne_eq, ite_eq_left_iff, Classical.not_imp, Bool.or_eq_true, List.isEmpty_iff,
    List.isEmpty_iff, not_or]
  constructor
  · rintro ⟨k, l, hk, hl, hkt, hlf⟩
    refine ⟨⟨?_, ?_⟩, by simp⟩
    · exact List.ne_nil_of_mem (hincluded.2 ⟨hk, hkt⟩)
    · exact List.ne_nil_of_mem (hexcluded.2 ⟨hl, hlf⟩)
  · rintro ⟨⟨hsome, hsome'⟩, -⟩
    obtain ⟨k, hk⟩ := List.exists_mem_of_ne_nil _ hsome
    obtain ⟨l, hl⟩ := List.exists_mem_of_ne_nil _ hsome'
    obtain ⟨hk, hkt⟩ := hincluded.1 hk
    obtain ⟨hl, hlf⟩ := hexcluded.1 hl
    exact ⟨k, l, hk, hl, hkt, hlf⟩

/-- The names that are reported are the offending ones. -/
theorem offends_of_mixedNames (h : mixedNames f.fields = some names) : f.Offends names := by
  refine ⟨isMixed_iff.2 (by simp [h]), fun k => ?_⟩
  unfold mixedNames at h
  dsimp only at h
  split at h
  · cases h
  · cases h
    have hincluded := @mem_flagged f.fields (fun b => b) true (by simp)
    have hexcluded := @mem_flagged f.fields (fun b => !b) false (by simp)
    rw [List.mem_append, hincluded, hexcluded]
    constructor
    · rintro (⟨hk, hmem⟩ | ⟨hk, hmem⟩)
      · exact ⟨hk, true, hmem⟩
      · exact ⟨hk, false, hmem⟩
    · rintro ⟨hk, flag, hmem⟩
      cases flag with
      | true => exact .inl ⟨hk, hmem⟩
      | false => exact .inr ⟨hk, hmem⟩

/-! ## The check -/

theorem checkScopes_eq_ok :
    checkScopes is = .ok () ↔ ∀ i ∈ is, ∀ g ∈ i.2, g.checkProjection = .ok () := by
  induction is with
  | nil => simp [checkScopes]
  | cons i is ih =>
    obtain ⟨relation, scope⟩ := i
    cases scope with
    | none => simp [checkScopes, ih]
    | some g => simp [checkScopes, check_eq_ok, ih]

/-- The check of the scopes fails as that of one of them. -/
theorem exists_of_checkScopes (h : checkScopes is = .error e) :
    ∃ i ∈ is, ∃ g ∈ i.2, g.checkProjection = .error e := by
  induction is with
  | nil => cases h
  | cons i is ih =>
    obtain ⟨relation, scope⟩ := i
    cases scope with
    | none =>
      rw [checkScopes] at h
      obtain ⟨j, hj, hfails⟩ := ih h
      exact ⟨j, List.mem_cons_of_mem _ hj, hfails⟩
    | some g =>
      rw [checkScopes] at h
      rcases bind_eq_error.1 h with h | ⟨-, -, h⟩
      · exact ⟨_, List.mem_cons_self .., g, rfl, h⟩
      · obtain ⟨j, hj, hfails⟩ := ih h
        exact ⟨j, List.mem_cons_of_mem _ hj, hfails⟩

/-- The check passes exactly if no level is mixed. -/
theorem checkProjection_eq_ok_iff :
    f.checkProjection = .ok () ↔ ∀ g, f.Level g → ¬ g.IsMixed := by
  induction f using scopes_induction with
  | step f ih =>
    rw [checkProjection_eq_ok, checkScopes_eq_ok, forall_level_iff, isMixed_iff, not_not]
    refine and_congr_right fun _ => ?_
    exact forall₂_congr fun i hi => forall₂_congr fun g hg => ih i hi g hg

/-- The check fails with the names of one level that is mixed. -/
theorem checkProjection_eq_error (h : f.checkProjection = .error e) :
    ∃ g names, f.Level g ∧ g.Offends names ∧ e = .mixedProjection names := by
  induction f using scopes_induction with
  | step f ih =>
    cases hnames : mixedNames f.fields with
    | some names =>
      have hfails : f.checkProjection = .error (.mixedProjection names) := by
        cases f
        rw [checkProjection, hnames]
      rw [hfails] at h
      exact ⟨f, names, .self, offends_of_mixedNames hnames, (Except.error.inj h).symm⟩
    | none =>
      have hscopes : f.checkProjection = checkScopes f.includes := by
        cases f
        rw [checkProjection, hnames]
      rw [hscopes] at h
      obtain ⟨i, hi, g, hg, hfails⟩ := exists_of_checkScopes h
      obtain ⟨l, names, hlevel, hrest⟩ := ih i hi g hg hfails
      exact ⟨l, names, .scope hi hg hlevel, hrest⟩

end Filter

namespace FilterBuilder

/-! ## Building -/

/-- Scopes that cannot be put back together fail as one of them does. -/
theorem exists_of_buildIncludes (h : buildIncludes (ofIncludes is) = .error e) :
    ∃ i ∈ is, ∃ g ∈ i.2, (ofFilter g).build = .error e := by
  induction is with
  | nil => cases h
  | cons i is ih =>
    have hrest : buildIncludes (ofIncludes is) = .error e →
        ∃ j ∈ i :: is, ∃ g ∈ j.2, (ofFilter g).build = .error e := by
      intro h
      obtain ⟨j, hj, hfails⟩ := ih h
      exact ⟨j, List.mem_cons_of_mem _ hj, hfails⟩
    obtain ⟨relation, scope⟩ := i
    cases scope with
    | none =>
      simp only [ofIncludes, buildIncludes] at h
      rcases bind_eq_error.1 h with h | ⟨_, -, h⟩
      · exact hrest h
      · exact absurd h pure_ne_error
    | some g =>
      simp only [ofIncludes, buildIncludes] at h
      rcases bind_eq_error.1 h with h | ⟨_, -, h⟩
      · exact ⟨_, List.mem_cons_self .., g, rfl, h⟩
      · rcases bind_eq_error.1 h with h | ⟨_, -, h⟩
        · exact hrest h
        · exact absurd h pure_ne_error

/-- A filter that was read and cannot be put back together has a mixed level, and the error names
the fields of one such level. -/
theorem build_ofFilter_eq_error (hf : f.Sound max) (h : (ofFilter f).build = .error e) :
    ∃ g names, f.Level g ∧ g.Offends names ∧ e = .mixedProjection names := by
  induction f using Filter.scopes_induction with
  | step f ih =>
    cases hf with
    | mk sections relations scopes =>
      obtain ⟨w, hw, hfilter⟩ := filterOf_ofFilter sections
      have hincludes : (ofFilter f).includes = ofIncludes f.includes := by cases f; rfl
      have herror : (ofFilter f).error = none := by cases f; rfl
      rw [build_eq, herror, hw, hincludes] at h
      dsimp only at h
      rw [ok_bind] at h
      rcases bind_eq_error.1 h with h | ⟨js, hjs, h⟩
      -- a scope fails before the filter is looked at
      · obtain ⟨i, hi, g, hg, hfails⟩ := exists_of_buildIncludes h
        obtain ⟨l, names, hlevel, hrest⟩ := ih i hi g hg (scopes i hi g hg) hfails
        exact ⟨l, names, .scope hi hg hlevel, hrest⟩
      · have hsame : f.includes = js := by
          refine ((buildIncludes_ofIncludes_eq_ok fun i hi g hg g' => ?_).1 hjs).2
          exact build_ofFilter_eq_ok (scopes i hi g hg)
        rw [← hsame, hfilter] at h
        rcases bind_eq_error.1 h with h | ⟨_, -, h⟩
        · exact Filter.checkProjection_eq_error h
        · exact absurd h pure_ne_error

end FilterBuilder

/-- **One kind at every level.** A filter that was read is put back together as it was if none of
its levels mixes inclusion and exclusion, and is refused with the offending names of one such level
otherwise; and whatever calls made a builder, no level of a filter that it gives mixes them. -/
theorem levels_of_one_kind :
    (∀ (max : Nat) (v : Json) (f : Filter), Filter.parse max v = .ok f →
      ((∀ g, f.Level g → ¬ g.IsMixed) → (FilterBuilder.ofFilter f).build = .ok f) ∧
      ((∃ g, f.Level g ∧ g.IsMixed) → ∃ g names, f.Level g ∧ g.Offends names ∧
        (FilterBuilder.ofFilter f).build = .error (.mixedProjection names))) ∧
    ∀ (b : FilterBuilder) (f : Filter), b.build = .ok f → ∀ g, f.Level g → ¬ g.IsMixed := by
  constructor
  · intro max v f hparse
    have hsound : f.Sound max := Filter.sound_of_parse hparse
    constructor
    · intro hnone
      exact (FilterBuilder.build_ofFilter_eq_ok hsound).2
        ⟨Filter.checkProjection_eq_ok_iff.2 hnone, rfl⟩
    · rintro ⟨l, hlevel, hmixed⟩
      cases hbuild : (FilterBuilder.ofFilter f).build with
      | ok f' =>
        obtain ⟨hcheck, -⟩ := (FilterBuilder.build_ofFilter_eq_ok hsound).1 hbuild
        exact absurd hmixed (Filter.checkProjection_eq_ok_iff.1 hcheck l hlevel)
      | error e =>
        obtain ⟨g, names, hg, hoffends, rfl⟩ :=
          FilterBuilder.build_ofFilter_eq_error hsound hbuild
        exact ⟨g, names, hg, hoffends, rfl⟩
  · intro b f hbuild
    obtain ⟨-, -, -, -, -, hcheck, -⟩ := FilterBuilder.build_eq_ok.1 hbuild
    exact Filter.checkProjection_eq_ok_iff.1 hcheck

/-- A mixed scope two levels down, the same query without it, and a merge of two builders that
exclude fields at one level and include some at another one. -/
theorem levels_of_one_kind_scoped :
    let mixed : Filter := { fields := .ofPairs [("_id", true), ("p", true), ("q", false)] }
    let f : Filter :=
      { fields := .ofPairs [("id", false), ("name", true)]
        includes := [("a", some { includes := [("b", some mixed)] })] }
    let kept : Filter := { f with includes := [("a", some { includes := [("b", none)] })] }
    let doc (scope : List (String × Json)) : Json := .object
      [("fields", .object [("id", .nat 0), ("name", .bool true)]),
        ("include", .object [("relation", .string "a"), ("scope", .object
          [("include", .object (("relation", .string "b") :: scope))])])]
    let scope : Json := .object
      [("fields", .object [("_id", .bool true), ("p", .bool true), ("q", .bool false)])]
    let b : FilterBuilder := FilterBuilder.merge
      (FilterBuilder.excludeFields {} ["secret"])
      (FilterBuilder.includeRelation {} "a" (some (FilterBuilder.includeFields {} ["name"]))) {}
    let built : Filter := {
      fields := .ofPairs [("secret", false)]
      includes := [("a", some { fields := .ofPairs [("name", true)] })] }
    (Filter.parse 0 (doc [("scope", scope)]) = .ok f ∧ (f.Level mixed ∧ mixed.IsMixed) ∧
      ∃ g names, f.Level g ∧ g.Offends names ∧
        (FilterBuilder.ofFilter f).build = .error (.mixedProjection names)) ∧
    (Filter.parse 0 (doc []) = .ok kept ∧ (∀ g, kept.Level g → ¬ g.IsMixed) ∧
      (FilterBuilder.ofFilter kept).build = .ok kept) ∧
    b.build = .ok built ∧ ∀ g, built.Level g → ¬ g.IsMixed := by
  intro mixed f kept doc scope b built
  obtain ⟨hread, hbuilt⟩ := levels_of_one_kind
  have hf : Filter.parse 0 (doc [("scope", scope)]) = .ok f := by decide +kernel
  have hkept : Filter.parse 0 (doc []) = .ok kept := by decide +kernel
  have hb : b.build = .ok built := by decide +kernel
  have hmixed : f.Level mixed ∧ mixed.IsMixed := by
    refine ⟨.scope (List.mem_singleton_self _) rfl
      (.scope (List.mem_singleton_self _) rfl .self), "p", "q", rfl, rfl, ?_, ?_⟩
    · decide
    · decide
  have hnone : ∀ g, kept.Level g → ¬ g.IsMixed := Filter.checkProjection_eq_ok_iff.1 rfl
  exact ⟨⟨hf, hmixed, (hread 0 _ f hf).2 ⟨mixed, hmixed⟩⟩,
    ⟨hkept, hnone, (hread 0 _ kept hkept).1 hnone⟩, hb, hbuilt b built hb⟩

end RestKit.Query
