import RestKit.Proofs.Query.Building
import RestKit.Proofs.Query.Merged
import RestKit.Proofs.Query.Reread
/-!
# Filters put back together

A filter that was read is taken apart into a builder, which may be changed before it is built. Built
unchanged it is the same filter again, if its projections are of one kind (`build_ofFilter_eq_ok`);
with another limit it is that filter with the limit (`build_withLimit_eq_ok`).
-/
namespace RestKit.Query

variable {max : Nat} {limit : Option Nat} {text : String} {f g : Filter} {b : FilterBuilder}
  {is js : List (String × Option Filter)}

namespace FilterBuilder

/-! ## Scopes -/

/-- Scopes that can be put back together are those whose projections can. -/
theorem buildIncludes_ofIncludes_eq_ok
    (h : ∀ i ∈ is, ∀ f ∈ i.2, ∀ g,
      (ofFilter f).build = .ok g ↔ f.checkProjection = .ok () ∧ f = g) :
    buildIncludes (ofIncludes is) = .ok js ↔ Filter.checkScopes is = .ok () ∧ is = js := by
  induction is generalizing js with
  | nil => simp [ofIncludes, buildIncludes, Filter.checkScopes]
  | cons i is ih =>
    obtain ⟨relation, scope⟩ := i
    obtain ⟨hscope, hrest⟩ := List.forall_mem_cons.1 h
    cases scope with
    | none =>
      simp only [ofIncludes, buildIncludes, Filter.checkScopes, bind_eq_ok, pure_eq_ok, ih hrest]
      constructor
      · rintro ⟨_, ⟨hcheck, rfl⟩, rfl⟩
        exact ⟨hcheck, rfl⟩
      · rintro ⟨hcheck, rfl⟩
        exact ⟨_, ⟨hcheck, rfl⟩, rfl⟩
    | some f =>
      simp only [ofIncludes, buildIncludes, Filter.checkScopes, bind_eq_ok, pure_eq_ok, ih hrest,
        hscope f rfl]
      constructor
      · rintro ⟨_, ⟨hf, rfl⟩, _, ⟨hcheck, rfl⟩, rfl⟩
        exact ⟨⟨(), hf, hcheck⟩, rfl⟩
      · rintro ⟨⟨_, hf, hcheck⟩, rfl⟩
        exact ⟨_, ⟨hf, rfl⟩, _, ⟨hcheck, rfl⟩, rfl⟩

/-! ## Filters -/

/-- The predicate of a filter that was read is put back as it was. -/
theorem filterOf_ofFilter (h : f.SoundSections max) :
    ∃ w, (ofFilter f).builtPredicate = .ok w ∧ (ofFilter f).filterOf w f.includes = f := by
  obtain ⟨predicate, fields, order, limit, skip, includes⟩ := f
  cases predicate with
  | none => exact ⟨[], rfl, rfl⟩
  | some w =>
    have hne : w.isEmpty = false := by simpa using (h.predicate w rfl).1
    refine ⟨w, ?_, ?_⟩
    · simp [ofFilter, builtPredicate, WhereBuilder.raw, WhereBuilder.whereRaw, hne,
        WhereBuilder.push, WhereBuilder.empty, WhereBuilder.build]
    · simp [ofFilter, filterOf, hne]

/-- **A filter that was read is put back together** if its projections are of one kind. -/
theorem build_ofFilter_eq_ok (h : f.Sound max) :
    (ofFilter f).build = .ok g ↔ f.checkProjection = .ok () ∧ f = g := by
  induction f using Filter.scopes_induction generalizing g with
  | step f ih =>
    cases h with
    | mk sections relations scopes =>
      obtain ⟨w, hw, hfilter⟩ := filterOf_ofFilter sections
      have hincludes : (ofFilter f).includes = ofIncludes f.includes := by cases f; rfl
      have herror : (ofFilter f).error = none := by cases f; rfl
      rw [build_eq_ok, hincludes, hw, herror]
      simp only [buildIncludes_ofIncludes_eq_ok fun i hi f hf g => ih i hi f hf (scopes i hi f hf),
        Except.ok.injEq, exists_eq_left', true_and]
      constructor
      · rintro ⟨_, ⟨hscopes, rfl⟩, hcheck, rfl⟩
        rw [hfilter] at hcheck ⊢
        exact ⟨hcheck, rfl⟩
      · rintro ⟨hcheck, rfl⟩
        exact ⟨_, ⟨(Filter.checkProjection_eq_ok.1 hcheck).2, rfl⟩, hcheck, hfilter⟩

/-! ## Another limit -/

/-- The limit decides nothing about whether a builder can be built. -/
theorem build_withLimit_eq_ok :
    { b with limit }.build = .ok g ↔ ∃ f, b.build = .ok f ∧ g = { f with limit } := by
  have hpredicate : builtPredicate { b with limit } = b.builtPredicate := rfl
  simp only [build_eq_ok, hpredicate, Filter.checkProjection_eq_ok]
  constructor
  · rintro ⟨herror, w, hw, is, his, hcheck, rfl⟩
    exact ⟨b.filterOf w is, ⟨herror, w, hw, is, his, hcheck, rfl⟩, rfl⟩
  · rintro ⟨f, ⟨herror, w, hw, is, his, hcheck, rfl⟩, rfl⟩
    exact ⟨herror, w, hw, is, his, hcheck, rfl⟩

end FilterBuilder
end RestKit.Query
