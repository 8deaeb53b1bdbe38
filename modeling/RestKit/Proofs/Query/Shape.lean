import RestKit.Proofs.Query.Building
import RestKit.Proofs.Query.Built
import RestKit.Proofs.Query.Injection
import RestKit.Proofs.Query.Refused
import RestKit.Proofs.Query.Reread
/-!
# Filters are in shape

Both ways to a filter give one in the shape that the translation asks for (`Filter.Shaped`): reading
a document (`shaped_of_parse`), and building it with calls (`shaped_of_build`). For a builder the
shape is an invariant that every call keeps, `merge` of two builders included. So
`only_values_refused`: the translation of such a filter fails for a value that a field cannot store,
or for a projection that was not checked, and for nothing else.
-/
namespace RestKit.Query

variable {c : Collection} {max : Nat} {v : Json} {f g : Filter}

/-! ## Parsed filters -/

/-- What every section keeps holds of the filter that was read. -/
theorem parseEntries_keeps {P : Filter → Prop} {es : List (String × Json)}
    (hsection : ∀ f g key v, P f → f.parseSection max key v = .ok g → P g)
    (hinclude : ∀ f is, P f → P { f with includes := is }) (hf : P f)
    (h : Filter.parseEntries max f es = .ok g) : P g := by
  induction es generalizing f with
  | nil =>
    simp only [Filter.parseEntries, Except.ok.injEq] at h
    exact h ▸ hf
  | cons e es ih =>
    obtain ⟨key, value⟩ := e
    simp only [Filter.parseEntries] at h
    obtain ⟨-, h⟩ := check_eq_ok.1 h
    split at h
    · obtain ⟨f', hf', h⟩ := bind_eq_ok.1 h
      obtain ⟨is, -, rfl⟩ := map_eq_ok.1 hf'
      exact ih (hinclude f is hf) h
    · obtain ⟨f', hf', h⟩ := bind_eq_ok.1 h
      exact ih (hsection f f' key value hf hf') h

/-- Only the section `order` changes the order of a filter. -/
theorem order_of_parseSection {key : String} (hf : ∀ e ∈ f.order, isDollar e.field = false)
    (h : f.parseSection max key v = .ok g) : ∀ e ∈ g.order, isDollar e.field = false := by
  unfold Filter.parseSection at h
  split at h
  -- the section `order` itself, then `where`, which keeps the filter if it is empty
  case h_3 =>
    obtain ⟨es, hes, h⟩ := bind_eq_ok.1 h
    rw [← pure_eq_ok.1 h]
    exact dollar_of_parseOrder hes
  case h_1 =>
    obtain ⟨w, -, h⟩ := bind_eq_ok.1 h
    rw [← pure_eq_ok.1 h]
    split
    · exact hf
    · exact hf
  all_goals
    first
    | obtain ⟨_, -, h⟩ := bind_eq_ok.1 h; rw [← pure_eq_ok.1 h]
    | rw [← Except.ok.inj h]
    exact hf

theorem order_of_parse (h : Filter.parse max v = .ok f) :
    ∀ e ∈ f.order, isDollar e.field = false := by
  have hempty : ∀ e ∈ ({} : Filter).order, isDollar e.field = false :=
    fun _ he => absurd he List.not_mem_nil
  cases v with
  | null =>
    rw [Filter.parse] at h
    rw [← Except.ok.inj h]
    exact hempty
  | object es =>
    rw [Filter.parse] at h
    exact parseEntries_keeps (P := fun f => ∀ e ∈ f.order, isDollar e.field = false)
      (fun _ _ _ _ => order_of_parseSection) (fun _ _ hf => hf) hempty h
  | _ => simp [Filter.parse] at h

/-- **A filter that was read is in shape.** -/
theorem shaped_of_parse (h : Filter.parse max v = .ok f) : f.Shaped := by
  refine ⟨fun w hw => (wellFormed_of_parse h hw).1, ?_, order_of_parse h⟩
  cases Filter.sound_of_parse h with
  | mk sections => exact sections.fields

/-! ## Builders in shape -/

namespace FilterBuilder

variable {a b : FilterBuilder}

/-- A builder of filters in shape. -/
structure Shaped (b : FilterBuilder) : Prop where
  predicate : ∀ w ∈ b.predicate, w.Sound
  fields : ∀ e ∈ b.fields, isDollar e.1 = false
  order : ∀ e ∈ b.order, isDollar e.field = false

theorem shaped_new : Shaped {} := ⟨nofun, nofun, nofun⟩

theorem shaped_ofFilter (hf : f.Shaped) : (ofFilter f).Shaped := by
  obtain ⟨predicate, fields, order, limit, skip, includes⟩ := f
  rw [ofFilter]
  refine ⟨fun b hb => ?_, hf.fields, hf.order⟩
  obtain ⟨w, hw, rfl⟩ := Option.map_eq_some_iff.1 hb
  exact (sound_start (Or.inl rfl)).whereRaw (hf.predicate w hw)

theorem Shaped.field (hb : b.Shaped) (name : String) (included : Bool) :
    (b.field name included).Shaped := by
  unfold FilterBuilder.field
  by_cases hd : isDollar name = true
  · rw [if_pos hd]
    exact ⟨hb.predicate, hb.fields, hb.order⟩
  · rw [if_neg hd]
    refine ⟨hb.predicate, fun e he => ?_, hb.order⟩
    rcases Dict.mem_of_mem_insert he with rfl | he
    · exact Bool.eq_false_iff.2 hd
    · exact hb.fields e he

theorem Shaped.fields_foldl (hb : b.Shaped) (included : Bool) (names : List String) :
    (names.foldl (fun b name => b.field name included) b).Shaped := by
  induction names generalizing b with
  | nil => exact hb
  | cons name names ih => exact ih (hb.field name included)

theorem Shaped.orderBy (hb : b.Shaped) (name : String) (direction : Direction) :
    (b.orderBy name direction).Shaped := by
  unfold FilterBuilder.orderBy
  split
  · exact ⟨hb.predicate, hb.fields, hb.order⟩
  · split
    · exact ⟨hb.predicate, hb.fields, hb.order⟩
    · rename_i hd
      refine ⟨hb.predicate, hb.fields, fun e he => ?_⟩
      rcases List.mem_append.1 he with he | he
      · exact hb.order e he
      · rw [List.mem_singleton.1 he]
        exact Bool.eq_false_iff.2 hd

theorem Shaped.page (hb : b.Shaped) (page size : Nat) : (b.page page size).Shaped := by
  unfold FilterBuilder.page
  split
  · exact ⟨hb.predicate, hb.fields, hb.order⟩
  · exact ⟨hb.predicate, hb.fields, hb.order⟩

theorem Shaped.includeRelation (hb : b.Shaped) (relation : String)
    (scope : Option FilterBuilder) : (b.includeRelation relation scope).Shaped := by
  unfold FilterBuilder.includeRelation
  split
  · exact ⟨hb.predicate, hb.fields, hb.order⟩
  · exact ⟨hb.predicate, hb.fields, hb.order⟩

/-! ## Merging -/

/-- Merged fields come from either side. -/
theorem mem_of_mem_mergeFields {config : MergeConfig} {ys : List (String × Bool)}
    {e : String × Bool} (h : e ∈ (b.mergeFields config ys).fields) : e ∈ b.fields ∨ e ∈ ys := by
  induction ys generalizing b with
  | nil => exact Or.inl h
  | cons y ys ih =>
    rw [mergeFields_cons] at h
    rcases ih h with h | h
    · have hstep : e = y ∨ e ∈ b.fields := by
        unfold mergeField at h
        split at h
        · split at h
          · exact Or.inr h
          · exact Dict.mem_of_mem_insert h
        · exact Dict.mem_of_mem_insert h
      rcases hstep with rfl | h
      · exact Or.inr (List.mem_cons_self ..)
      · exact Or.inl h
    · exact Or.inr (List.mem_cons_of_mem _ h)

theorem sound_of_mergePredicate {config : MergeConfig} {p q : Option WhereBuilder}
    (hp : ∀ w ∈ p, w.Sound) (hq : ∀ w ∈ q, w.Sound) :
    ∀ w ∈ mergePredicate config p q, w.Sound := by
  cases p with
  | none => exact hq
  | some x =>
    cases q with
    | none => exact hp
    | some y =>
      have hempty : WhereBuilder.empty.Sound := sound_start (Or.inl rfl)
      have hxy : ∀ w ∈ [x, y], w.Sound := by
        simp [hp x rfl, hq y rfl]
      intro w hw
      rw [← Option.some.inj hw]
      cases config.joinByOr with
      | true => exact hempty.logical rfl hxy
      | false => exact hempty.logical rfl hxy

theorem Shaped.merge (ha : a.Shaped) (hb : b.Shaped) (config : MergeConfig) :
    (a.merge b config).Shaped := by
  rw [merge_eq]
  refine ⟨sound_of_mergePredicate ha.predicate hb.predicate, fun e he => ?_, ?_⟩
  · rcases mem_of_mem_mergeFields he with he | he
    · exact ha.fields e he
    · exact hb.fields e he
  · dsimp only
    split
    · exact ha.order
    · exact hb.order

/-- A builder that is made by calls. The predicates come from fluent calls; scopes are not part of
the query, and may be any builders. -/
inductive Fluent : FilterBuilder → Prop
  | new : Fluent {}
  | parsed {max : Nat} {v : Json} {f : Filter} : Filter.parse max v = .ok f → Fluent (ofFilter f)
  | withWhere {b : FilterBuilder} {start : WhereBuilder} {calls : List WhereCall} : Fluent b →
      start = .empty ∨ start = .strictEmpty → WhereCall.FluentAll calls →
        Fluent (b.withWhere (WhereCall.applyAll start calls))
  | field {b : FilterBuilder} (name : String) (included : Bool) : Fluent b →
      Fluent (b.field name included)
  | includeFields {b : FilterBuilder} (names : List String) : Fluent b →
      Fluent (b.includeFields names)
  | excludeFields {b : FilterBuilder} (names : List String) : Fluent b →
      Fluent (b.excludeFields names)
  | orderBy {b : FilterBuilder} (name : String) (direction : Direction) : Fluent b →
      Fluent (b.orderBy name direction)
  | setLimit {b : FilterBuilder} (n : Nat) : Fluent b → Fluent (b.setLimit n)
  | setSkip {b : FilterBuilder} (n : Nat) : Fluent b → Fluent (b.setSkip n)
  | page {b : FilterBuilder} (page size : Nat) : Fluent b → Fluent (b.page page size)
  | includeRelation {b : FilterBuilder} (relation : String) (scope : Option FilterBuilder) :
      Fluent b → Fluent (b.includeRelation relation scope)
  | merge {a b : FilterBuilder} (config : MergeConfig) : Fluent a → Fluent b →
      Fluent (a.merge b config)

/-- **Calls keep the shape.** -/
theorem shaped_of_fluent (h : b.Fluent) : b.Shaped := by
  induction h with
  | new => exact shaped_new
  | parsed hf => exact shaped_ofFilter (shaped_of_parse hf)
  | withWhere _ hs hc ih =>
    refine ⟨fun w hw => ?_, ih.fields, ih.order⟩
    rw [← Option.some.inj hw]
    exact sound_applyAll (sound_start hs) hc
  | field name included _ ih => exact ih.field name included
  | includeFields names _ ih => exact ih.fields_foldl true names
  | excludeFields names _ ih => exact ih.fields_foldl false names
  | orderBy name direction _ ih => exact ih.orderBy name direction
  | setLimit n _ ih => exact ⟨ih.predicate, ih.fields, ih.order⟩
  | setSkip n _ ih => exact ⟨ih.predicate, ih.fields, ih.order⟩
  | page page size _ ih => exact ih.page page size
  | includeRelation relation scope _ ih => exact ih.includeRelation relation scope
  | merge config _ _ iha ihb => exact iha.merge ihb config

/-- **A filter that was built is in shape**, and its projection was checked. -/
theorem shaped_of_build (hb : b.Shaped) (h : b.build = .ok f) :
    f.Shaped ∧ f.checkProjection = .ok () := by
  obtain ⟨-, w, hw, is, -, hcheck, rfl⟩ := build_eq_ok.1 h
  refine ⟨⟨fun u hu => ?_, hb.fields, hb.order⟩, hcheck⟩
  have huw : u = w := by
    by_cases hempty : w.isEmpty = true
    · rw [filterOf, if_pos hempty] at hu
      cases hu
    · rw [filterOf, if_neg hempty] at hu
      exact (Option.some.inj hu).symm
  rw [huw]
  unfold builtPredicate at hw
  cases hp : b.predicate with
  | none =>
    rw [hp] at hw
    rw [← Except.ok.inj hw]
    trivial
  | some x =>
    rw [hp] at hw
    exact WhereBuilder.wellFormed_of_build (hb.predicate x hp) hw

end FilterBuilder

/-- **Only values are refused.** A parsed filter fails to be translated for a value that a field of
its predicate cannot store, or because its projection was never checked; a filter that was built,
for a value only. -/
theorem only_values_refused (c : Collection) :
    (∀ (max : Nat) (v : Json) (f : Filter) (e : QueryError),
      Filter.parse max v = .ok f → f.toDocument c = .error e →
        RefusesValue c f e ∨ e.kind = .mixedProjection ∧ f.checkProjection = .error e) ∧
    (∀ (b : FilterBuilder) (f : Filter) (e : QueryError),
      b.Fluent → b.build = .ok f → f.toDocument c = .error e → RefusesValue c f e) := by
  constructor
  · intro max v f e hparse h
    rcases toDocument_eq_error (shaped_of_parse hparse) h with hvalue | hcheck
    · exact Or.inl hvalue
    · exact Or.inr ⟨kind_of_checkProjection hcheck, hcheck⟩
  · intro b f e hb hbuild h
    obtain ⟨hshaped, hcheck⟩ :=
      FilterBuilder.shaped_of_build (FilterBuilder.shaped_of_fluent hb) hbuild
    rcases toDocument_eq_error hshaped h with hvalue | herror
    · exact hvalue
    · rw [hcheck] at herror
      cases herror

/-- A text that is no object id in a list of values, a projection of both kinds, and a boolean at a
field of dates in a filter that was built. -/
theorem only_values_refused_list :
    let c : Collection := { fields := [("at", .date)] }
    let list : Json := .object [("where", .object [("or", .array
      [.object [("_id", .object [("inq", .array [.null, .string "x"])])]])])]
    let mixed : Json := .object [("fields", .object [("a", .bool true), ("b", .bool false)])]
    let calls : List WhereCall := [.logical false [(.empty, [.compare .eq "at" (.bool true)])]]
    let b := FilterBuilder.withWhere {} (WhereCall.applyAll .strictEmpty calls)
    let f₁ : Filter :=
      { predicate := some [("or", .list [[("_id",
        .nested [("inq", .scalar (.array [.null, .string "x"]))])]])] }
    let f₂ : Filter := { fields := .ofPairs [("a", true), ("b", false)] }
    let f₃ : Filter := { predicate := some [("and", .list [[("at", .scalar (.bool true))]])] }
    let e₁ : QueryError := .notObjectId "_id" (.string "x")
    let e₂ : QueryError := .mixedProjection ["a", "b"]
    let e₃ : QueryError := .notDate "at" (.bool true)
    (Filter.parse 1 list = .ok f₁ ∧ f₁.toDocument c = .error e₁ ∧
      (RefusesValue c f₁ e₁ ∨ e₁.kind = .mixedProjection ∧ f₁.checkProjection = .error e₁)) ∧
    (Filter.parse 1 mixed = .ok f₂ ∧ f₂.toDocument c = .error e₂ ∧
      (RefusesValue c f₂ e₂ ∨ e₂.kind = .mixedProjection ∧ f₂.checkProjection = .error e₂)) ∧
    b.Fluent ∧ b.build = .ok f₃ ∧ f₃.toDocument c = .error e₃ ∧ RefusesValue c f₃ e₃ := by
  intro c list mixed calls b f₁ f₂ f₃ e₁ e₂ e₃
  have hlist : Filter.parse 1 list = .ok f₁ := by decide +kernel
  have hmixed : Filter.parse 1 mixed = .ok f₂ := by decide +kernel
  have hfluent : b.Fluent :=
    .withWhere .new (Or.inr rfl) ⟨⟨Or.inl rfl, ⟨trivial, trivial⟩, trivial⟩, trivial⟩
  have hbuild : b.build = .ok f₃ := by decide +kernel
  have h₁ : f₁.toDocument c = .error e₁ := by decide +kernel
  have h₂ : f₂.toDocument c = .error e₂ := by decide +kernel
  have h₃ : f₃.toDocument c = .error e₃ := by decide +kernel
  obtain ⟨hparsed, hbuilt⟩ := only_values_refused c
  exact ⟨⟨hlist, h₁, hparsed 1 list f₁ e₁ hlist h₁⟩, ⟨hmixed, h₂, hparsed 1 mixed f₂ e₂ hmixed h₂⟩,
    hfluent, hbuild, h₃, hbuilt b f₃ e₃ hfluent hbuild h₃⟩

end RestKit.Query
