import RestKit.Proofs.Endpoint.FilterParam
import RestKit.Proofs.Endpoint.Handler
/-!
# The limits of a filter at the handler

A filter has a limit of its own, and each of its scopes has one (`HasLimit`). The filter step lowers
the first to the greatest that is allowed. It leaves the scopes as they were asked for, so that no
limit at the handler is above the greatest exactly if that is so of the scopes in the request
(`limits_le_iff`).
-/
namespace RestKit
open Query

variable {σ : Type} {v : Visit σ} {w : World σ} {p q r : Passage σ} {step : Step}
  {steps : List Step} {max n : Nat} {limit : Option Nat}

namespace Query

/-! ## Limits at all depths -/

/-- A limit of the filter, or of a scope in it at any depth. -/
inductive Filter.HasLimit : Filter → Nat → Prop
  | own {f : Filter} {n : Nat} (h : f.limit = some n) : HasLimit f n
  | scope {f g : Filter} {relation : String} {n : Nat} (hg : (relation, some g) ∈ f.includes)
    (h : HasLimit g n) : HasLimit f n

/-- A limit of the builder, or of a scope in it at any depth. -/
inductive FilterBuilder.HasLimit : FilterBuilder → Nat → Prop
  | own {b : FilterBuilder} {n : Nat} (h : b.limit = some n) : HasLimit b n
  | scope {b c : FilterBuilder} {relation : String} {n : Nat}
    (hc : (relation, some c) ∈ b.includes) (h : HasLimit c n) : HasLimit b n

namespace FilterBuilder

variable {b : FilterBuilder} {f : Filter}

/-- A limit of a scope, at any depth. -/
def HasScopeLimit (b : FilterBuilder) (n : Nat) : Prop :=
  ∃ relation c, (relation, some c) ∈ b.includes ∧ c.HasLimit n

theorem hasLimit_iff : b.HasLimit n ↔ b.limit = some n ∨ b.HasScopeLimit n := by
  constructor
  · intro h
    cases h with
    | own h => exact .inl h
    | scope hc h => exact .inr ⟨_, _, hc, h⟩
  · rintro (h | ⟨_, _, hc, h⟩)
    · exact .own h
    · exact .scope hc h

theorem hasLimit_withLimit_iff :
    { b with limit }.HasLimit n ↔ limit = some n ∨ b.HasScopeLimit n := hasLimit_iff

/-- A filter has the limits of its builder. -/
theorem hasLimit_of_build (h : b.build = .ok f) : f.HasLimit n ↔ b.HasLimit n := by
  constructor
  · intro hf
    induction hf generalizing b with
    | own hlimit =>
      obtain ⟨-, w, -, is, -, -, rfl⟩ := build_eq_ok.1 h
      exact .own hlimit
    | scope hg _ ih =>
      obtain ⟨-, w, -, is, his, -, rfl⟩ := build_eq_ok.1 h
      obtain ⟨_, hc, hbuilds⟩ := mem_of_forall₂ (buildIncludes_eq_ok.1 his) hg
      cases hbuilds with
      | scope hbuild => exact .scope hc (ih hbuild)
  · intro hb
    induction hb generalizing f with
    | own hlimit =>
      obtain ⟨-, w, -, is, -, -, rfl⟩ := build_eq_ok.1 h
      exact .own hlimit
    | scope hc _ ih =>
      obtain ⟨-, w, -, is, his, -, rfl⟩ := build_eq_ok.1 h
      obtain ⟨_, hg, hbuilds⟩ := mem_of_forall₂_left (buildIncludes_eq_ok.1 his) hc
      cases hbuilds with
      | scope hbuild => exact .scope hg (ih hbuild)

end FilterBuilder

theorem le_of_capped (h : capped limit (some max) = some n) : n ≤ max := by
  cases limit with
  | none => cases h
  | some m =>
    cases h
    exact Nat.min_le_right ..

end Query

/-! ## From the request to the handler -/

/-- The builder that a parameter's value asks for; a text is read as a document. -/
inductive ParamValue.Asks (maxDepth : Nat) : ParamValue → FilterBuilder → Prop
  | filter {b : FilterBuilder} : Asks maxDepth (.filter b) b
  | text {raw : String} {b : FilterBuilder} (hread : FilterBuilder.ofJson maxDepth raw = .ok b) :
    Asks maxDepth (.string raw) b

/-- The builder that a request asks for, as the endpoint declares its filter. -/
def Visit.Requests (v : Visit σ) (w : World σ) (b : FilterBuilder) : Prop :=
  ∃ s value, ParamSet.parse v.maxDepth v.endpoint.params (v.rawParams (.start v w)) = .ok s ∧
    s.get? .query Context.filterName = some value ∧ value.Asks v.maxDepth b

theorem Passes.rawParams_eq (h : Passes v p step q) : v.rawParams q = v.rawParams p := by
  cases h <;> rfl

theorem Along.rawParams_eq (h : Along v steps p q) : v.rawParams q = v.rawParams p :=
  h.kept (f := v.rawParams) (fun _ _ => rfl) fun _ hpasses => hpasses.rawParams_eq

/-- Only two steps write parameters. -/
theorem Passes.params_eq (h : Passes v p step q) (hparams : step ≠ .params)
    (hfilter : step ≠ .filter) : q.context.params = p.context.params := by
  cases h <;> first | rfl | exact absurd rfl hparams | exact absurd rfl hfilter

theorem Along.params_eq (h : Along v steps p q) (hparams : .params ∉ steps)
    (hfilter : .filter ∉ steps) : q.context.params = p.context.params :=
  h.kept (f := fun p => p.context.params) (fun _ _ => rfl) fun hstep hpasses =>
    hpasses.params_eq (fun heq => hparams (heq ▸ hstep)) fun heq => hfilter (heq ▸ hstep)

/-- On the way to the handler the parameters of the request are read, and then its filter. -/
theorem Along.params_filter (h : Along v Step.order p q) :
    ∃ p' q', v.rawParams p' = v.rawParams p ∧ Along v [.params, .filter] p' q' ∧
      q.context.params = q'.context.params := by
  have horder : Step.order =
      Step.before .params ++ ([.params, .filter] ++ Step.after .filter) := by decide
  rw [horder, Along.append_iff] at h
  obtain ⟨p', hbefore, h⟩ := h
  rw [Along.append_iff] at h
  obtain ⟨q', hread, hafter⟩ := h
  exact ⟨p', q', hbefore.rawParams_eq, hread, hafter.params_eq (by decide) (by decide)⟩

/-- What is delivered comes to the handler. -/
theorem Visit.Delivers.atHandler {others : List Param} {p' q' : Passage σ}
    (h : v.Delivers others p q) (hraw : v.rawParams p = v.rawParams p')
    (hparams : q'.context.params = q.context.params) : v.Delivers others p' q' := by
  obtain ⟨given, absent, hothers⟩ := h
  have hquery : q'.context.queryParam = q.context.queryParam := by
    unfold Context.queryParam
    rw [hparams]
  refine ⟨?_, ?_, ?_⟩
  · rw [← hraw, Context.filterParam, hquery]
    exact given
  · rw [← hraw, hquery]
    exact absent
  · rw [← hraw, hparams]
    exact hothers

/-- The filter behind its step has the limit lowered to the greatest that is allowed. -/
theorem exists_of_filterParam {b : FilterBuilder} (h : Passes v q .filter r)
    (hfilter : r.context.filterParam = some b) :
    ∃ value b₀, q.context.queryParam Context.filterName = some value ∧
      value.Asks v.maxDepth b₀ ∧
      { b₀ with limit := capped b₀.limit v.app.config.query.maxLimit } = b := by
  cases h with
  | unfiltered hnone =>
    rw [Context.filterParam, hnone] at hfilter
    cases hfilter
  | filterText hvalue hread =>
    rw [filterParam_withFilter] at hfilter
    cases hfilter
    exact ⟨_, _, hvalue, .text hread, rfl⟩
  | @filterRead value hvalue =>
    rw [filterParam_withFilter] at hfilter
    cases value with
    | filter b₀ =>
      cases hfilter
      exact ⟨_, _, hvalue, .filter, rfl⟩
    -- A value of another kind stays what it is, and is no filter.
    | _ => cases hfilter

/-- **The limits that come to a handler.** The filter is the one that the request asks for, with its
own limit lowered to the greatest that is allowed; its scopes, at any depth, keep theirs. -/
theorem limits_le_iff {b : FilterBuilder} (hmax : v.app.config.query.maxLimit = some max)
    (hreach : Along v Step.order (.start v w) p) (hfilter : p.context.filterParam = some b) :
    ∃ b₀, v.Requests w b₀ ∧ b = { b₀ with limit := capped b₀.limit (some max) } ∧
      (∀ n, b.limit = some n → n ≤ max) ∧
      ((∀ n, b.HasLimit n → n ≤ max) ↔ ∀ n, b₀.HasScopeLimit n → n ≤ max) ∧
      ∀ f, b.build = .ok f → ∀ n, f.HasLimit n ↔ b.HasLimit n := by
  obtain ⟨q, r, hraw, hread, hparams⟩ := hreach.params_filter
  rw [Context.filterParam, Context.queryParam, hparams] at hfilter
  obtain ⟨s, hs, hpasses⟩ := along_params_filter_iff.1 hread
  obtain ⟨value, b₀, hvalue, hasks, rfl⟩ := exists_of_filterParam hpasses hfilter
  rw [hraw] at hs
  rw [hmax]
  refine ⟨b₀, ⟨s, value, hs, hvalue, hasks⟩, rfl, fun n hn => le_of_capped hn, ?_,
    fun f hf n => FilterBuilder.hasLimit_of_build hf⟩
  simp only [FilterBuilder.hasLimit_withLimit_iff]
  constructor
  · exact fun h n hn => h n (.inr hn)
  · rintro h n (hn | hn)
    · exact le_of_capped hn
    · exact h n hn

/-- A request to an endpoint with a filter; limits of more than 1000 are lowered. -/
def listVisit (query : String) : Visit Unit := (queryVisit query).taking [.filter .string true]

/-- What the request finds at the handler is the filter of its document. -/
theorem exists_filter_of_listVisit {query text : String} {f : Filter}
    (hreach : .handler ∈ stepsOf (listVisit query) { state := () })
    (htext : ((queryVisit query).rawParams (queryPassage query)).filterText? = some text)
    (hf : Filter.ofJson 10 text = .ok f) :
    ∃ p b, Along (listVisit query) Step.order (.start (listVisit query) { state := () }) p ∧
      p.context.filterParam = some b ∧
      b.build = .ok { f with limit := capped f.limit (some 1000) } := by
  obtain ⟨-, p, hp⟩ := mem_stepsOf_iff.1 hreach
  rw [Step.before_handler] at hp
  obtain ⟨q, r, hraw, hread, hparams⟩ := hp.params_filter
  have hothers : ∀ x ∈ ([] : List Param) ++ [], x.IsOther := nofun
  have hdelivers := (delivers_of_along hothers (.inl rfl) hread).atHandler hraw hparams
  obtain ⟨b, g, hb, hg, hbuild⟩ := hdelivers.given text htext
  cases hf.symm.trans hg
  exact ⟨p, b, hp, hb, hbuild⟩

/-- The document `{"limit":5000,"include":{"relation":"a","scope":{"limit":20}}}`. -/
def lowQuery : String :=
  "filter=%7B%22limit%22:5000,%22include%22:%7B%22relation%22:%22a%22,%22scope%22:" ++
    "%7B%22limit%22:20%7D%7D%7D"

def lowText : String :=
  "\x7b\"limit\":5000,\"include\":\x7b\"relation\":\"a\",\"scope\":" ++
    "\x7b\"limit\":20\x7d\x7d\x7d"

theorem limits_le_iff_low :
    (listVisit lowQuery).app.config.query.maxLimit = some 1000 ∧
      ∃ p b b₀, Along (listVisit lowQuery) Step.order
          (.start (listVisit lowQuery) { state := () }) p ∧
        p.context.filterParam = some b ∧ (listVisit lowQuery).Requests { state := () } b₀ ∧
        (∀ n, b.HasLimit n → n ≤ 1000) ∧ ∀ n, b₀.HasScopeLimit n → n ≤ 1000 := by
  have hreach : .handler ∈ stepsOf (listVisit lowQuery) { state := () } := by decide +kernel
  have htext : ((queryVisit lowQuery).rawParams (queryPassage lowQuery)).filterText? =
      some lowText := by decide +kernel
  have hdocument : Filter.ofJson 10 lowText =
      .ok { limit := some 5000, includes := [("a", some { limit := some 20 })] } := by
    decide +kernel
  obtain ⟨p, b, hp, hb, hbuild⟩ := exists_filter_of_listVisit hreach htext hdocument
  obtain ⟨b₀, hrequests, -, -, hiff, hlimits⟩ := limits_le_iff rfl hp hb
  have hlow : ∀ n, b.HasLimit n → n ≤ 1000 := by
    intro n hn
    cases (hlimits _ hbuild n).2 hn with
    | own h => cases h; decide
    | scope hg h =>
      cases List.mem_singleton.1 hg
      cases h with
      | own h => cases h; decide
      | scope hg => cases hg
  exact ⟨rfl, p, b, b₀, hp, hb, hrequests, hlow, hiff.1 hlow⟩

/-- The document `{"include":{"relation":"a","scope":{"limit":5000}}}`. -/
def scopeQuery : String :=
  "filter=%7B%22include%22:%7B%22relation%22:%22a%22,%22scope%22:%7B%22limit%22:5000%7D%7D%7D"

def scopeText : String :=
  "\x7b\"include\":\x7b\"relation\":\"a\",\"scope\":\x7b\"limit\":5000\x7d\x7d\x7d"

/-- The limit of a scope comes to the handler as it is. -/
theorem scope_limit_not_lowered :
    (listVisit scopeQuery).app.config.query.maxLimit = some 1000 ∧
      ∃ p b f, Along (listVisit scopeQuery) Step.order
          (.start (listVisit scopeQuery) { state := () }) p ∧
        p.context.filterParam = some b ∧ b.build = .ok f ∧ f.HasLimit 5000 := by
  have hreach : .handler ∈ stepsOf (listVisit scopeQuery) { state := () } := by decide +kernel
  have htext : ((queryVisit scopeQuery).rawParams (queryPassage scopeQuery)).filterText? =
      some scopeText := by decide +kernel
  have hdocument : Filter.ofJson 10 scopeText =
      .ok { includes := [("a", some { limit := some 5000 })] } := by
    decide +kernel
  obtain ⟨p, b, hp, hb, hbuild⟩ := exists_filter_of_listVisit hreach htext hdocument
  exact ⟨rfl, p, b, _, hp, hb, hbuild, .scope (List.mem_singleton.2 rfl) (.own rfl)⟩

end RestKit
