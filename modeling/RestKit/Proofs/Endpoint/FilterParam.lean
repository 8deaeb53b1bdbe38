import RestKit.Proofs.Endpoint.Run
import RestKit.Proofs.Query.Restored
/-!
# Two ways to declare the filter

The filter parameter is declared as a text, which a step of its own reads, or as a filter, which is
read with the other parameters. A request that passes both steps leaves the same filter in both
ways, under the same conditions (`declarations_agree`): the one that its document reads as, with the
limit lowered to the greatest that is allowed. A blank text counts as absent, and then there is no
filter.
-/
namespace RestKit
open Query

variable {σ : Type} {v : Visit σ} {p q r : Passage σ} {maxDepth : Nat} {raw : RawParams}
  {text : String} {type : ParamType} {required : Bool} {xs ys params : List Param} {s : ParamSet}
  {b : FilterBuilder} {f : Filter} {value : ParamValue}

/-- The filter parameter, declared with a type. -/
def Param.filter (type : ParamType) (required : Bool) : Param :=
  { Param.query Context.filterName type with required }

/-- The parameter is not the filter parameter. -/
def Param.IsOther (x : Param) : Prop := x.place ≠ .query ∨ x.name ≠ Context.filterName

/-- The text of the filter parameter, if it is not blank. -/
def RawParams.filterText? (raw : RawParams) : Option String :=
  (lastValue? raw.query Context.filterName).filter fun text => !Text.isBlankText text

/-- The visit to an endpoint with these parameters. -/
def Visit.taking (v : Visit σ) (params : List Param) : Visit σ :=
  { v with endpoint := { v.endpoint with params } }

/-! ## Reading the parameter -/

/-- Neither declaration makes a flag of the parameter. -/
theorem ParamType.ne_bool (h : type = .string ∨ type = .filter) : type ≠ .bool := by
  rcases h with rfl | rfl <;> decide

theorem RawParams.filterText?_eq_some :
    raw.filterText? = some text ↔
      lastValue? raw.query Context.filterName = some text ∧ Text.isBlankText text = false := by
  rw [filterText?, Option.filter_eq_some_iff, Bool.not_eq_true']

theorem Param.absent_filter (htype : type ≠ .bool) (h : raw.filterText? = none) :
    (Param.filter type required).Absent raw := by
  cases hlast : lastValue? raw.query Context.filterName with
  | none => exact .inl (congrArg Except.ok hlast)
  | some text =>
    refine .inr ⟨text, congrArg Except.ok hlast, ?_, fun hflag => htype hflag.bool⟩
    by_contra hblank
    rw [RawParams.filterText?_eq_some.2 ⟨hlast, Bool.eq_false_iff.2 hblank⟩] at h
    cases h

/-- A blank text counts as absent. -/
theorem Param.read_filter_of_none (htype : type ≠ .bool) (h : raw.filterText? = none) :
    (Param.filter type required).read maxDepth raw =
      if required then .error "is required" else .ok none :=
  read_of_absent (absent_filter htype h)

theorem Param.coerce_filter :
    (Param.filter type required).coerce maxDepth text = ParamValue.coerce maxDepth type text := rfl

/-- Any other text is read as the type says. -/
theorem Param.read_filter_of_some (h : raw.filterText? = some text) :
    (Param.filter type required).read maxDepth raw =
      (ParamValue.coerce maxDepth type text).map some := by
  obtain ⟨hlast, hblank⟩ := RawParams.filterText?_eq_some.1 h
  have htext : raw.text? (Param.filter type required) = .ok (some text) :=
    congrArg Except.ok hlast
  rw [read_of_text htext hblank, coerce_filter]

/-- A text that is read as a filter, with projections of one kind. -/
def ReadsFilter (maxDepth : Nat) (text : String) (f : Filter) : Prop :=
  Filter.ofJson maxDepth text = .ok f ∧ f.checkProjection = .ok ()

theorem sound_of_ofJson (h : Filter.ofJson maxDepth text = .ok f) : f.Sound maxDepth := by
  unfold Filter.ofJson at h
  split at h
  · exact Filter.sound_of_parse h
  · cases h

/-- The builder of a text, if it can be built. -/
def checkedBuilder (maxDepth : Nat) (text : String) : Except QueryError FilterBuilder := do
  let b ← FilterBuilder.ofJson maxDepth text
  let _ ← b.build
  pure b

theorem checkedBuilder_eq_ok :
    checkedBuilder maxDepth text = .ok b ↔ ∃ f, ReadsFilter maxDepth text f ∧ .ofFilter f = b := by
  unfold checkedBuilder FilterBuilder.ofJson ReadsFilter
  simp only [bind_eq_ok, map_eq_ok, pure_eq_ok]
  constructor
  · rintro ⟨_, ⟨f, hf, rfl⟩, g, hg, rfl⟩
    exact ⟨f, ⟨hf, ((FilterBuilder.build_ofFilter_eq_ok (sound_of_ofJson hf)).1 hg).1⟩, rfl⟩
  · rintro ⟨f, ⟨hf, hcheck⟩, rfl⟩
    exact ⟨_, ⟨f, hf, rfl⟩, f,
      (FilterBuilder.build_ofFilter_eq_ok (sound_of_ofJson hf)).2 ⟨hcheck, rfl⟩, rfl⟩

theorem coerce_filter_eq_ok :
    ParamValue.coerce maxDepth .filter text = .ok value ↔
      ∃ b, checkedBuilder maxDepth text = .ok b ∧ .filter b = value := by
  constructor
  · intro h
    unfold ParamValue.coerce at h
    dsimp only at h
    split at h
    · rename_i b hb
      exact ⟨b, hb, Except.ok.inj h⟩
    · cases h
  · rintro ⟨b, hb, rfl⟩
    unfold checkedBuilder at hb
    unfold ParamValue.coerce
    dsimp only
    rw [hb]

/-! ## Other parameters -/

/-- A parameter without a value under a name has no part in what is found there. -/
theorem lastGives_skip {place : ParamPlace} {name : String} {x : Param} {u : ParamValue}
    (h : ∀ u, ¬ x.Gives maxDepth raw place name u) :
    LastGives maxDepth raw (xs ++ x :: ys) place name u ↔
      LastGives maxDepth raw (xs ++ ys) place name u := by
  -- From the end of the list, since the last of the parameters is looked at first.
  induction ys using List.reverseRecOn generalizing u with
  | nil => rw [lastGives_concat, List.append_nil]; simp [h]
  | append_singleton ys y ih =>
    rw [← List.cons_append, ← List.append_assoc, ← List.append_assoc, lastGives_concat,
      lastGives_concat, ih]

/-- Where the others have no value under a name, that of the parameter is found. -/
theorem lastGives_only {place : ParamPlace} {name : String} {x : Param} {u : ParamValue}
    (h : ∀ y ∈ xs ++ ys, ∀ u, ¬ y.Gives maxDepth raw place name u) :
    LastGives maxDepth raw (xs ++ x :: ys) place name u ↔ x.Gives maxDepth raw place name u := by
  constructor
  · rintro ⟨before, y, after, heq, hgives, -⟩
    have hy : y ∈ xs ++ x :: ys := by simp [heq]
    rcases List.mem_append.1 hy with hy | hy
    · exact absurd hgives (h y (List.mem_append_left _ hy) u)
    · rcases List.mem_cons.1 hy with rfl | hy
      · exact hgives
      · exact absurd hgives (h y (List.mem_append_right _ hy) u)
  · intro hgives
    exact ⟨xs, x, ys, rfl, hgives, fun y hy => h y (List.mem_append_right _ hy)⟩

theorem Param.IsOther.not_gives {x : Param} {u : ParamValue} (h : x.IsOther) :
    ¬ x.Gives maxDepth raw .query Context.filterName u := by
  intro hgives
  rcases h with h | h
  · exact h hgives.place
  · exact h hgives.name

/-- With the others, the filter parameter is found under its name, if it has a value. -/
theorem get?_filter_of_parse (hothers : ∀ x ∈ xs ++ ys, x.IsOther)
    (h : ParamSet.parse maxDepth (xs ++ .filter type required :: ys) raw = .ok s) :
    s.get? .query Context.filterName = some value ↔
      (Param.filter type required).read maxDepth raw = .ok (some value) := by
  rw [ParamSet.get?_of_parse h, lastGives_only fun x hx u => (hothers x hx).not_gives,
    ← Param.reads_iff]
  exact ⟨fun hgives => hgives.reads, fun hreads => ⟨rfl, rfl, hreads⟩⟩

theorem get?_filter_of_none (hothers : ∀ x ∈ xs ++ ys, x.IsOther)
    (htype : type = .string ∨ type = .filter)
    (h : ParamSet.parse maxDepth (xs ++ .filter type required :: ys) raw = .ok s)
    (htext : raw.filterText? = none) : s.get? .query Context.filterName = none := by
  refine Option.eq_none_iff_forall_ne_some.2 fun u hu => ?_
  rw [get?_filter_of_parse hothers h,
    Param.read_filter_of_none (ParamType.ne_bool htype) htext] at hu
  split at hu <;> cases hu

/-- The others are read as they are without the filter parameter. -/
theorem get?_other_of_parse {place : ParamPlace} {name : String} {s' : ParamSet}
    (hname : place ≠ .query ∨ name ≠ Context.filterName)
    (h : ParamSet.parse maxDepth (xs ++ .filter type required :: ys) raw = .ok s)
    (h' : ParamSet.parse maxDepth (xs ++ ys) raw = .ok s') :
    s.get? place name = s'.get? place name := by
  refine Option.ext fun u => ?_
  rw [ParamSet.get?_of_parse h, ParamSet.get?_of_parse h', lastGives_skip]
  intro u hgives
  rcases hname with hplace | hname
  · exact hplace hgives.place.symm
  · exact hname hgives.name.symm

/-- All parameters are read if the others are, and the filter parameter is. -/
theorem exists_parse_iff :
    (∃ s, ParamSet.parse maxDepth (xs ++ .filter type required :: ys) raw = .ok s) ↔
      (∃ s, ParamSet.parse maxDepth (xs ++ ys) raw = .ok s) ∧
        ∃ v?, (Param.filter type required).read maxDepth raw = .ok v? := by
  simp only [ParamSet.parse_eq_ok_iff, exists_and_left, exists_eq', and_true, Param.reads_iff,
    List.forall_mem_append, List.forall_mem_cons]
  constructor
  · rintro ⟨hxs, hfilter, hys⟩
    exact ⟨⟨hxs, hys⟩, hfilter⟩
  · rintro ⟨⟨hxs, hys⟩, hfilter⟩
    exact ⟨hxs, hfilter, hys⟩

/-! ## The two steps -/

theorem passes_params_iff :
    Passes v p .params q ↔
      ∃ s, ParamSet.parse v.maxDepth v.endpoint.params (v.rawParams p) = .ok s ∧
        p.withParams s = q := by
  simp only [ParamSet.parse_eq_ok_iff, Param.reads_iff]
  constructor
  · intro h
    cases h with
    | params hparams => exact ⟨_, ⟨hparams, rfl⟩, rfl⟩
  · rintro ⟨s, ⟨hparams, rfl⟩, rfl⟩
    exact .params hparams

/-- The passage with a filter whose limit is lowered to the greatest that is allowed. -/
def Visit.capped (v : Visit σ) (p : Passage σ) (b : FilterBuilder) : Passage σ :=
  p.withFilter (.filter { b with limit := Query.capped b.limit v.app.config.query.maxLimit })

theorem passes_filter_of_none (h : p.context.queryParam Context.filterName = none) :
    Passes v p .filter r ↔ p = r := by
  constructor
  · intro hpasses
    cases hpasses with
    | unfiltered => rfl
    | filterText hvalue | filterRead hvalue => rw [h] at hvalue; cases hvalue
  · rintro rfl
    exact .unfiltered h

theorem passes_filter_of_text
    (h : p.context.queryParam Context.filterName = some (.string text)) :
    Passes v p .filter r ↔ ∃ b, checkedBuilder v.maxDepth text = .ok b ∧ v.capped p b = r := by
  simp only [checkedBuilder, bind_eq_ok, pure_eq_ok]
  constructor
  · intro hpasses
    cases hpasses with
    | unfiltered hnone => rw [h] at hnone; cases hnone
    | filterText hvalue hread hbuild =>
      cases h.symm.trans hvalue
      exact ⟨_, ⟨_, hread, _, hbuild, rfl⟩, rfl⟩
    | filterRead hvalue hread =>
      cases h.symm.trans hvalue
      exact absurd rfl (hread text)
  · rintro ⟨_, ⟨b, hread, f, hbuild, rfl⟩, rfl⟩
    exact .filterText h hread hbuild

theorem passes_filter_of_filter (h : p.context.queryParam Context.filterName = some (.filter b)) :
    Passes v p .filter r ↔ v.capped p b = r := by
  constructor
  · intro hpasses
    cases hpasses with
    | unfiltered hnone => rw [h] at hnone; cases hnone
    | filterText hvalue => cases h.symm.trans hvalue
    | filterRead hvalue => cases h.symm.trans hvalue; rfl
  · rintro rfl
    exact .filterRead h nofun

/-- The filter step leaves the passage as it is without a text, and with one puts the builder of the
text into it. -/
def Visit.Resolves (v : Visit σ) (q r : Passage σ) : Option String → Prop
  | none => q = r
  | some text => ∃ b, checkedBuilder v.maxDepth text = .ok b ∧ v.capped q b = r

/-- In both declarations the filter step does the same. -/
theorem passes_filter_iff (hothers : ∀ x ∈ xs ++ ys, x.IsOther)
    (htype : type = .string ∨ type = .filter) (hq : q.context.params = s)
    (hs : ParamSet.parse v.maxDepth (xs ++ .filter type required :: ys) raw = .ok s) :
    Passes (v.taking params) q .filter r ↔ v.Resolves q r raw.filterText? := by
  have hget u : q.context.queryParam Context.filterName = some u ↔
      (Param.filter type required).read v.maxDepth raw = .ok (some u) := by
    rw [Context.queryParam, hq, get?_filter_of_parse hothers hs]
  obtain ⟨-, v?, hread⟩ := exists_parse_iff.1 ⟨s, hs⟩
  cases htext : raw.filterText? with
  | none =>
    have hnone : q.context.queryParam Context.filterName = none := by
      rw [Context.queryParam, hq]
      exact get?_filter_of_none hothers htype hs htext
    rw [passes_filter_of_none hnone]
    rfl
  | some text =>
    rw [Param.read_filter_of_some htext] at hread
    rcases htype with rfl | rfl
    · have hvalue : q.context.queryParam Context.filterName = some (.string text) :=
        (hget _).2 (Param.read_filter_of_some htext)
      exact passes_filter_of_text hvalue
    · -- The document was built when the parameter was read; only the limit is left to the step.
      obtain ⟨value, hvalue, rfl⟩ := map_eq_ok.1 hread
      obtain ⟨b, hb, rfl⟩ := coerce_filter_eq_ok.1 hvalue
      have hvalue' : q.context.queryParam Context.filterName = some (.filter b) :=
        (hget _).2 ((Param.read_filter_of_some htext).trans hread)
      rw [passes_filter_of_filter hvalue']
      constructor
      · rintro rfl
        exact ⟨b, hb, rfl⟩
      · rintro ⟨b', hb', rfl⟩
        cases hb.symm.trans hb'
        rfl

/-- The passage once its parameters have been read. -/
def Passage.reading (p : Passage σ) (s : ParamSet) : Passage σ := (p.enter .params).withParams s

theorem along_params_iff :
    Along v [.params] p q ↔
      ∃ s, ParamSet.parse v.maxDepth v.endpoint.params (v.rawParams p) = .ok s ∧
        p.reading s = q := by
  constructor
  · intro h
    cases h with
    | cons head tail => cases tail; exact passes_params_iff.1 head
  · exact fun h => .cons (passes_params_iff.2 h) .nil

/-- Both steps in a row. -/
theorem along_params_filter_iff :
    Along v [.params, .filter] p r ↔
      ∃ s, ParamSet.parse v.maxDepth v.endpoint.params (v.rawParams p) = .ok s ∧
        Passes v ((p.reading s).enter .filter) .filter r := by
  constructor
  · intro h
    cases h with
    | cons head tail =>
      obtain ⟨s, hs, rfl⟩ := passes_params_iff.1 head
      cases tail with
      | cons head' tail' =>
        cases tail'
        exact ⟨s, hs, head'⟩
  · rintro ⟨s, hs, hpasses⟩
    exact .cons (passes_params_iff.2 ⟨s, hs, rfl⟩) (.cons hpasses .nil)

theorem along_filter_iff (hothers : ∀ x ∈ xs ++ ys, x.IsOther)
    (htype : type = .string ∨ type = .filter) :
    Along (v.taking (xs ++ .filter type required :: ys)) [.params, .filter] p r ↔
      ∃ s, ParamSet.parse v.maxDepth (xs ++ .filter type required :: ys) (v.rawParams p) = .ok s ∧
        v.Resolves ((p.reading s).enter .filter) r (v.rawParams p).filterText? := by
  rw [along_params_filter_iff]
  exact exists_congr fun s => and_congr_right fun hs => passes_filter_iff hothers htype rfl hs

/-- What a request that passes both steps brings with it. -/
structure Visit.Delivers (v : Visit σ) (others : List Param) (p r : Passage σ) : Prop where
  /-- The filter is the document's, with the limit lowered to the greatest that is allowed. -/
  given : ∀ text, (v.rawParams p).filterText? = some text → ∃ b f,
    r.context.filterParam = some b ∧ Filter.ofJson v.maxDepth text = .ok f ∧
      b.build = .ok { f with limit := Query.capped f.limit v.app.config.query.maxLimit }
  absent : (v.rawParams p).filterText? = none → r.context.queryParam Context.filterName = none
  others : ∃ s, ParamSet.parse v.maxDepth others (v.rawParams p) = .ok s ∧
    ∀ place name, place ≠ .query ∨ name ≠ Context.filterName →
      r.context.params.get? place name = s.get? place name

/-- The filter that is put into a passage is found there, and nothing else has changed. -/
theorem filterParam_withFilter : (p.withFilter value).context.filterParam = value.filter? := by
  simp [Passage.withFilter, Passage.withParams, Context.filterParam, Context.queryParam,
    ParamSet.get?_insert]

theorem get?_capped {place : ParamPlace} {name : String}
    (h : place ≠ .query ∨ name ≠ Context.filterName) :
    (v.capped p b).context.params.get? place name = p.context.params.get? place name := by
  have hother : ¬ (ParamPlace.query = place ∧ Context.filterName = name) := by
    rintro ⟨rfl, rfl⟩
    simp at h
  rw [Visit.capped, Passage.withFilter, Passage.withParams, ParamSet.get?_insert, if_neg hother]

theorem delivers_of_along (hothers : ∀ x ∈ xs ++ ys, x.IsOther)
    (htype : type = .string ∨ type = .filter)
    (h : Along (v.taking (xs ++ .filter type required :: ys)) [.params, .filter] p r) :
    v.Delivers (xs ++ ys) p r := by
  obtain ⟨s, hs, hresolves⟩ := (along_filter_iff hothers htype).1 h
  obtain ⟨⟨s', hs'⟩, -⟩ := exists_parse_iff.1 ⟨s, hs⟩
  refine ⟨fun text htext => ?_, fun htext => ?_, s', hs', fun place name hname => ?_⟩
  · rw [htext] at hresolves
    obtain ⟨b, hb, rfl⟩ := hresolves
    obtain ⟨f, ⟨hf, hcheck⟩, rfl⟩ := checkedBuilder_eq_ok.1 hb
    have hbuild := (FilterBuilder.build_ofFilter_eq_ok (sound_of_ofJson hf)).2 ⟨hcheck, rfl⟩
    have hlimit : (FilterBuilder.ofFilter f).limit = f.limit := by cases f; rfl
    refine ⟨_, f, filterParam_withFilter, hf, FilterBuilder.build_withLimit_eq_ok.2 ⟨f, hbuild, ?_⟩⟩
    rw [hlimit]
  · rw [htext] at hresolves
    obtain rfl := hresolves
    exact get?_filter_of_none hothers htype hs htext
  · rw [← get?_other_of_parse hname hs hs']
    cases htext : (v.rawParams p).filterText? with
    | none =>
      rw [htext] at hresolves
      obtain rfl := hresolves
      rfl
    | some text =>
      rw [htext] at hresolves
      obtain ⟨b, -, rfl⟩ := hresolves
      exact get?_capped hname

/-- A filter is read where a text is, and the text can be built. -/
theorem exists_read_filter_iff :
    (∃ v?, (Param.filter .filter required).read maxDepth raw = .ok v?) ↔
      (∃ v?, (Param.filter .string required).read maxDepth raw = .ok v?) ∧
        ∀ text, raw.filterText? = some text → ∃ b, checkedBuilder maxDepth text = .ok b := by
  cases htext : raw.filterText? with
  | none =>
    rw [Param.read_filter_of_none (by decide) htext, Param.read_filter_of_none (by decide) htext]
    simp
  | some text =>
    rw [Param.read_filter_of_some htext, Param.read_filter_of_some htext]
    have hstring : ParamValue.coerce maxDepth .string text = .ok (.string text) := rfl
    simp only [map_eq_ok, coerce_filter_eq_ok, hstring]
    constructor
    · rintro ⟨_, _, ⟨b, hb, rfl⟩, rfl⟩
      refine ⟨⟨_, _, rfl, rfl⟩, ?_⟩
      rintro _ ⟨⟩
      exact ⟨b, hb⟩
    · rintro ⟨-, hbuilt⟩
      obtain ⟨b, hb⟩ := hbuilt text rfl
      exact ⟨_, _, ⟨b, hb, rfl⟩, rfl⟩

theorem exists_resolves_iff {text? : Option String} :
    (∃ r, v.Resolves q r text?) ↔
      ∀ text, text? = some text → ∃ b, checkedBuilder v.maxDepth text = .ok b := by
  cases text? <;> simp [Visit.Resolves]

theorem exists_along_params_iff :
    (∃ q, Along (v.taking params) [.params] p q) ↔
      ∃ s, ParamSet.parse v.maxDepth params (v.rawParams p) = .ok s := by
  constructor
  · rintro ⟨q, h⟩
    obtain ⟨s, hs, -⟩ := along_params_iff.1 h
    exact ⟨s, hs⟩
  · rintro ⟨s, hs⟩
    exact ⟨p.reading s, along_params_iff.2 ⟨s, hs, rfl⟩⟩

/-- In both declarations a request passes both steps if its parameters are read, and the text of the
filter can be built. -/
theorem exists_along_filter_iff (hothers : ∀ x ∈ xs ++ ys, x.IsOther)
    (htype : type = .string ∨ type = .filter) :
    (∃ r, Along (v.taking (xs ++ .filter type required :: ys)) [.params, .filter] p r) ↔
      (∃ s, ParamSet.parse v.maxDepth (xs ++ .filter type required :: ys) (v.rawParams p) = .ok s) ∧
        ∀ text, (v.rawParams p).filterText? = some text →
          ∃ b, checkedBuilder v.maxDepth text = .ok b := by
  simp only [along_filter_iff hothers htype]
  constructor
  · rintro ⟨r, s, hs, hresolves⟩
    exact ⟨⟨s, hs⟩, exists_resolves_iff.1 ⟨r, hresolves⟩⟩
  · rintro ⟨⟨s, hs⟩, hbuilt⟩
    obtain ⟨r, hresolves⟩ := exists_resolves_iff.2 hbuilt
    exact ⟨r, s, hs, hresolves⟩

/-- **The two declarations agree.** A request passes both steps where the filter is declared as a
text exactly when its parameters are read where it is declared as a filter; it passes both steps
there then, and brings the same with it. -/
theorem declarations_agree (v : Visit σ) (p : Passage σ) (required : Bool)
    (hothers : ∀ x ∈ xs ++ ys, x.IsOther) :
    ((∃ r, Along (v.taking (xs ++ .filter .string required :: ys)) [.params, .filter] p r) ↔
      ∃ q, Along (v.taking (xs ++ .filter .filter required :: ys)) [.params] p q) ∧
    ((∃ r, Along (v.taking (xs ++ .filter .filter required :: ys)) [.params, .filter] p r) ↔
      ∃ q, Along (v.taking (xs ++ .filter .filter required :: ys)) [.params] p q) ∧
    ∀ type r, type = .string ∨ type = .filter →
      Along (v.taking (xs ++ .filter type required :: ys)) [.params, .filter] p r →
      v.Delivers (xs ++ ys) p r := by
  refine ⟨?_, ?_, fun type r htype h => delivers_of_along hothers htype h⟩
  · rw [exists_along_filter_iff hothers (.inl rfl), exists_along_params_iff, exists_parse_iff,
      exists_parse_iff, exists_read_filter_iff, and_assoc]
  · rw [exists_along_filter_iff hothers (.inr rfl), exists_along_params_iff, exists_parse_iff,
      exists_read_filter_iff]
    tauto

/-- A request with a query, to an endpoint without parameters. -/
def queryVisit (query : String) : Visit Unit where
  app := { process := .development }
  endpoint := {
    info := { name := "list", method := "GET", path := "/list", isPublic := true }
    params := [], body := none, contentTypes := [], upload := none, limiter := none
    handler := fun _ _ s => { outcome := .done (.bare 204), state := s }
    disabled := false }
  request := { method := "GET", uri := ⟨"/list", some query⟩ }
  path := []

/-- The request before its first step. -/
def queryPassage (query : String) : Passage Unit := .start (queryVisit query) { state := () }

/-- Asks for more than the 1000 that are allowed. -/
def largeQuery : String := "page=2&filter=%7B%22limit%22%3A5000%7D"

theorem declarations_agree_large :
    (∀ x ∈ [Param.query "page" .int] ++ [], x.IsOther) ∧
    ∃ r b, Along ((queryVisit largeQuery).taking [.query "page" .int, .filter .string true])
      [.params, .filter] (queryPassage largeQuery) r ∧
      r.context.filterParam = some b ∧ b.build = .ok { limit := some 1000 } := by
  have hothers : ∀ x ∈ [Param.query "page" .int] ++ [], x.IsOther := by
    intro x hx
    cases List.mem_singleton.1 hx
    exact .inr (by decide)
  obtain ⟨haccepts, -, hdelivers⟩ :=
    declarations_agree (queryVisit largeQuery) (queryPassage largeQuery) true hothers
  have hread : (ParamSet.parse 10 [.query "page" .int, .filter .filter true]
      ((queryVisit largeQuery).rawParams (queryPassage largeQuery))).isOk = true := by
    decide +kernel
  have htext : ((queryVisit largeQuery).rawParams (queryPassage largeQuery)).filterText? =
      some "\x7b\"limit\":5000\x7d" := by decide +kernel
  have hdocument : Filter.ofJson 10 "\x7b\"limit\":5000\x7d" = .ok { limit := some 5000 } := by
    decide +kernel
  obtain ⟨r, hr⟩ := haccepts.2 (exists_along_params_iff.2 (isOk_iff.1 hread))
  obtain ⟨b, f, hb, hf, hbuild⟩ := (hdelivers .string r (.inl rfl) hr).given _ htext
  cases hdocument.symm.trans hf
  exact ⟨hothers, r, b, hr, hb, hbuild⟩

/-- A blank text of an optional filter is accepted in both declarations, and leaves none. -/
theorem blank_filter_absent :
    (∃ r, Along ((queryVisit "filter=").taking [.filter .string false]) [.params, .filter]
      (queryPassage "filter=") r) ∧
    (∃ q, Along ((queryVisit "filter=").taking [.filter .filter false]) [.params]
      (queryPassage "filter=") q) ∧
    ∀ type r, type = .string ∨ type = .filter →
      Along ((queryVisit "filter=").taking [.filter type false]) [.params, .filter]
        (queryPassage "filter=") r →
      r.context.filterParam = none := by
  have hothers : ∀ x ∈ ([] : List Param) ++ [], x.IsOther := nofun
  have htext : ((queryVisit "filter=").rawParams (queryPassage "filter=")).filterText? = none := by
    decide +kernel
  have hread : (ParamSet.parse 10 [.filter .string false]
      ((queryVisit "filter=").rawParams (queryPassage "filter="))).isOk = true := by
    decide +kernel
  have hread' : (ParamSet.parse 10 [.filter .filter false]
      ((queryVisit "filter=").rawParams (queryPassage "filter="))).isOk = true := by
    decide +kernel
  refine ⟨(exists_along_filter_iff hothers (.inl rfl)).2 ⟨isOk_iff.1 hread, fun text h => ?_⟩,
    exists_along_params_iff.2 (isOk_iff.1 hread'), fun type r htype h => ?_⟩
  · rw [htext] at h
    cases h
  · have habsent := (delivers_of_along hothers htype h).absent htext
    rw [Context.filterParam, habsent]
    rfl

end RestKit
