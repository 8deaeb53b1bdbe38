import RestKit.Proofs.Json.Ordered
import RestKit.Proofs.Query.Grammar
import RestKit.Proofs.Query.OrderText
import RestKit.Query.Filter
/-!
# Reading filters again

A filter document has several shapes and is rendered in one of them. What was read from any shape
is sound (`sound_of_parse`): its rendering is read in the same way, but for the names in it. So a
filter that was parsed is read back from its rendering exactly if its names are ones that the
rendering can carry (`reread_iff_plain`): an order is rendered as texts, and the relations as
objects, whose names may not start with a dollar sign.
-/
namespace RestKit.Query

namespace Filter

variable {max : Nat} {f g : Filter} {v : Json} {es : List (String × Json)}
  {is : List (String × Option Filter)}

mutual
/-- What holds of a filter as soon as it holds of its scopes holds of every filter. -/
theorem scopes_induction {P : Filter → Prop}
    (step : ∀ f : Filter, (∀ i ∈ f.includes, ∀ g ∈ i.2, P g) → P f) : ∀ f, P f
  | ⟨_, _, _, _, _, includes⟩ => step _ (includes_induction step includes)
theorem includes_induction {P : Filter → Prop}
    (step : ∀ f : Filter, (∀ i ∈ f.includes, ∀ g ∈ i.2, P g) → P f) :
    ∀ is : List (String × Option Filter), ∀ i ∈ is, ∀ g ∈ i.2, P g
  | [], _, hi, _, _ => nomatch hi
  | (r, none) :: is, i, hi, g, hg => by
    rcases List.mem_cons.1 hi with h | hi
    · rw [h] at hg
      cases hg
    · exact includes_induction step is i hi g hg
  | (r, some s) :: is, i, hi, g, hg => by
    rcases List.mem_cons.1 hi with h | hi
    · rw [h] at hg
      exact Option.some.inj hg ▸ scopes_induction step s
    · exact includes_induction step is i hi g hg
end

/-! ## Filters that were read -/

/-- The sections of a filter that hold no filter, as they are read: the predicate is read back from
its rendering, and no field starts with a dollar sign. -/
structure SoundSections (max : Nat) (f : Filter) : Prop where
  predicate : ∀ w ∈ f.predicate, w ≠ [] ∧ Where.parse max w.toValue = .ok w
  fields : ∀ e ∈ f.fields, isDollar e.1 = false

/-- A filter as it is read: so are its sections and scopes, and its relations are trimmed. -/
inductive Sound (max : Nat) : Filter → Prop
  | mk {f : Filter} (sections : f.SoundSections max)
    (relations : ∀ i ∈ f.includes, i.1 ≠ "" ∧ Text.trim i.1 = i.1)
    (scopes : ∀ i ∈ f.includes, ∀ g ∈ i.2, Sound max g) : Sound max f

/-- A filter whose names its rendering can carry. -/
inductive Plain : Filter → Prop
  | mk {f : Filter} (order : ∀ e ∈ f.order, PlainName e.field)
    (relations : ∀ i ∈ f.includes, isDollar i.1 = false)
    (scopes : ∀ i ∈ f.includes, ∀ g ∈ i.2, Plain g) : Plain f

/-- Relations and scopes as they are read. -/
def SoundIncludes (max : Nat) (is : List (String × Option Filter)) : Prop :=
  ∀ i ∈ is, (i.1 ≠ "" ∧ Text.trim i.1 = i.1) ∧ ∀ g ∈ i.2, Sound max g

theorem soundIncludes_nil : SoundIncludes max [] := fun _ hi => absurd hi List.not_mem_nil

theorem soundSections_empty : ({} : Filter).SoundSections max := ⟨nofun, nofun⟩

theorem reparse_of_parse {w : Where} (h : Where.parse max v = .ok w) (hne : w ≠ []) :
    Where.parse max w.toValue = .ok w := by
  cases v with
  | object es => rw [(parse_eq_ok.1 h).2.2.2, h]
  | null =>
    simp only [Where.parse, Where.parseAt, Nat.not_lt_zero, if_false, Except.ok.injEq] at h
    exact absurd h.symm hne
  | _ => simp [Where.parse, Where.parseAt] at h

theorem dollar_of_parseFields {fs : Dict Bool} (h : parseFields v = .ok fs) :
    ∀ e ∈ fs, isDollar e.1 = false := by
  intro e he
  cases v with
  | object es =>
    obtain ⟨flags, hflags, hfs⟩ := bind_eq_ok.1 h
    rw [← pure_eq_ok.1 hfs] at he
    obtain ⟨⟨k, x⟩, -, hx⟩ := mem_of_forall₂ (mapM_eq_ok.1 hflags) (Dict.mem_of_mem_ofPairs he)
    obtain ⟨hdollar, hx⟩ := check_eq_ok.1 hx
    obtain ⟨b, -, hb⟩ := bind_eq_ok.1 hx
    rw [← pure_eq_ok.1 hb]
    exact rejectDollar_eq_ok.1 hdollar
  | array xs =>
    obtain ⟨names, hnames, hfs⟩ := bind_eq_ok.1 h
    rw [← pure_eq_ok.1 hfs] at he
    obtain ⟨x, -, hx⟩ := mem_of_forall₂ (mapM_eq_ok.1 hnames) (Dict.mem_of_mem_ofPairs he)
    cases x with
    | string s =>
      obtain ⟨hdollar, hx⟩ := check_eq_ok.1 hx
      rw [← pure_eq_ok.1 hx]
      exact rejectDollar_eq_ok.1 hdollar
    | _ => cases hx
  | string s =>
    obtain ⟨hdollar, hfs⟩ := check_eq_ok.1 h
    rw [← pure_eq_ok.1 hfs] at he
    rw [List.mem_singleton.1 (Dict.mem_of_mem_ofPairs he)]
    exact rejectDollar_eq_ok.1 hdollar
  | null =>
    cases h
    cases he
  | _ => cases h

theorem soundSections_of_parseSection {key : String} (h : f.parseSection max key v = .ok g)
    (hf : f.SoundSections max) : g.SoundSections max ∧ g.includes = f.includes := by
  unfold parseSection at h
  split at h
  · obtain ⟨w, hw, h⟩ := bind_eq_ok.1 h
    rw [pure_eq_ok] at h
    by_cases he : w.isEmpty = true
    · rw [if_pos he] at h
      exact h ▸ ⟨hf, rfl⟩
    · rw [if_neg he] at h
      have hne : w ≠ [] := by simpa using he
      subst h
      refine ⟨⟨fun u hu => ?_, hf.fields⟩, rfl⟩
      cases hu
      exact ⟨hne, reparse_of_parse hw hne⟩
  · obtain ⟨fs, hfs, h⟩ := bind_eq_ok.1 h
    rw [← pure_eq_ok.1 h]
    exact ⟨⟨hf.predicate, dollar_of_parseFields hfs⟩, rfl⟩
  -- the other sections have nothing to be sound
  all_goals
    first
    | obtain ⟨_, -, h⟩ := bind_eq_ok.1 h; rw [← pure_eq_ok.1 h]
    | rw [← Except.ok.inj h]
    exact ⟨⟨hf.predicate, hf.fields⟩, rfl⟩

/-- A relation as it is read. -/
theorem relation_of_parseRelation {r : String} (h : parseRelation es = .ok r) :
    r ≠ "" ∧ Text.trim r = r := by
  unfold parseRelation at h
  split at h
  · split at h
    · cases h
    · rename_i s _ hblank
      obtain ⟨-, h⟩ := check_eq_ok.1 h
      rw [← pure_eq_ok.1 h]
      exact ⟨mt Text.trim_eq_empty_iff.1 hblank, Text.trim_trim s⟩
  · cases h

theorem soundIncludes_relationsOf (s : String) : SoundIncludes max (relationsOf s) := by
  intro i hi
  obtain ⟨r, hr, rfl⟩ := List.mem_map.1 hi
  obtain ⟨hmem, hne⟩ := List.mem_filter.1 hr
  obtain ⟨part, -, rfl⟩ := List.mem_map.1 hmem
  exact ⟨⟨by simpa using hne, Text.trim_trim part⟩, nofun⟩

/-! ## Reading is sound -/

/-- What reading a value gives, as a filter or as relations. -/
def ReadSound (max : Nat) (v : Json) : Prop :=
  (∀ f, Filter.parse max v = .ok f → f.Sound max) ∧
    ∀ is, Filter.parseInclude max v = .ok is → SoundIncludes max is

theorem sound_of_parseEntries (h : ∀ e ∈ es, ReadSound max e.2) (hf : f.SoundSections max)
    (his : SoundIncludes max f.includes) (hg : Filter.parseEntries max f es = .ok g) :
    g.SoundSections max ∧ SoundIncludes max g.includes := by
  induction es generalizing f with
  | nil =>
    simp only [Filter.parseEntries, Except.ok.injEq] at hg
    exact hg ▸ ⟨hf, his⟩
  | cons e es ih =>
    obtain ⟨k, x⟩ := e
    obtain ⟨hx, hes⟩ := List.forall_mem_cons.1 h
    simp only [Filter.parseEntries] at hg
    obtain ⟨-, hg⟩ := check_eq_ok.1 hg
    split at hg
    · obtain ⟨f', hf', hg⟩ := bind_eq_ok.1 hg
      obtain ⟨is, hread, rfl⟩ := map_eq_ok.1 hf'
      exact ih (f := { f with includes := is }) hes ⟨hf.predicate, hf.fields⟩ (hx.2 is hread) hg
    · obtain ⟨f', hf', hg⟩ := bind_eq_ok.1 hg
      obtain ⟨hsections, hsame⟩ := soundSections_of_parseSection hf' hf
      exact ih hes hsections (hsame ▸ his) hg

theorem sound_of_parts (hf : f.SoundSections max) (his : SoundIncludes max f.includes) :
    f.Sound max :=
  .mk hf (fun i hi => (his i hi).1) fun i hi => (his i hi).2

theorem parseScope_cons_of_ne {k : String} (hk : k ≠ "scope") :
    Filter.parseScope max ((k, v) :: es) = Filter.parseScope max es := by
  cases v <;> simp only [Filter.parseScope, hk, if_false]

theorem sound_of_parseScope {scope : Option Filter} (h : ∀ e ∈ es, ReadSound max e.2)
    (hscope : Filter.parseScope max es = .ok scope) : ∀ g ∈ scope, g.Sound max := by
  induction es with
  | nil =>
    cases hscope
    exact nofun
  | cons e es ih =>
    obtain ⟨k, x⟩ := e
    obtain ⟨hx, hes⟩ := List.forall_mem_cons.1 h
    by_cases hk : k = "scope"
    · cases x with
      | null =>
        simp only [Filter.parseScope, hk, if_true, Except.ok.injEq] at hscope
        rw [← hscope]
        exact nofun
      | _ =>
        simp only [Filter.parseScope, hk, if_true] at hscope
        obtain ⟨g, hg, rfl⟩ := map_eq_ok.1 hscope
        exact fun g' hg' => Option.some.inj hg' ▸ hx.1 g hg
    · rw [parseScope_cons_of_ne hk] at hscope
      exact ih hes hscope

theorem soundIncludes_of_parseIncludes {xs : List Json} (h : ∀ x ∈ xs, ReadSound max x)
    (his : Filter.parseIncludes max xs = .ok is) : SoundIncludes max is := by
  induction xs generalizing is with
  | nil =>
    cases his
    exact soundIncludes_nil
  | cons x xs ih =>
    obtain ⟨hx, hxs⟩ := List.forall_mem_cons.1 h
    cases x with
    | array => cases his
    | _ =>
      simp only [Filter.parseIncludes, bind_eq_ok, pure_eq_ok] at his
      obtain ⟨first, hfirst, rest, hrest, rfl⟩ := his
      exact List.forall_mem_append.2 ⟨hx.2 first hfirst, ih hxs hrest⟩

theorem readSound (v : Json) : ReadSound max v := by
  induction v using Json.elements_induction with
  | step v ih =>
    refine ⟨fun f hf => ?_, fun is his => ?_⟩
    · cases v with
      | object es =>
        have hes : ∀ e ∈ es, ReadSound max e.2 := fun e he => ih e.2 (List.mem_map_of_mem he)
        rw [Filter.parse] at hf
        obtain ⟨hsections, hincludes⟩ :=
          sound_of_parseEntries hes soundSections_empty soundIncludes_nil hf
        exact sound_of_parts hsections hincludes
      | null =>
        rw [Filter.parse, Except.ok.injEq] at hf
        exact hf ▸ sound_of_parts soundSections_empty soundIncludes_nil
      | _ => cases hf
    · cases v with
      | object es =>
        have hes : ∀ e ∈ es, ReadSound max e.2 := fun e he => ih e.2 (List.mem_map_of_mem he)
        simp only [Filter.parseInclude, bind_eq_ok, pure_eq_ok] at his
        obtain ⟨r, hr, scope, hscope, rfl⟩ := his
        intro i hi
        rw [List.mem_singleton.1 hi]
        exact ⟨relation_of_parseRelation hr, sound_of_parseScope hes hscope⟩
      | array xs =>
        rw [Filter.parseInclude] at his
        exact soundIncludes_of_parseIncludes ih his
      | string s =>
        rw [Filter.parseInclude, Except.ok.injEq] at his
        exact his ▸ soundIncludes_relationsOf s
      | null =>
        rw [Filter.parseInclude, Except.ok.injEq] at his
        exact his ▸ soundIncludes_nil
      | _ => cases his

/-- Every filter that was read is sound. -/
theorem sound_of_parse (h : Filter.parse max v = .ok f) : f.Sound max := (readSound v).1 f h

/-! ## Reading the rendering -/

theorem parseEntries_append {fs : List (String × Json)} :
    Filter.parseEntries max f (es ++ fs) =
      (Filter.parseEntries max f es >>= fun g => Filter.parseEntries max g fs) := by
  induction es generalizing f with
  | nil => rfl
  | cons e es ih =>
    obtain ⟨k, v⟩ := e
    simp only [List.cons_append, Filter.parseEntries, ih, bind_assoc]
    split <;> simp only [bind_assoc]

/-- A section that holds no filter is read by itself. -/
theorem parseEntries_section {key : String} (hdollar : isDollar key = false)
    (hne : key ≠ "include") :
    Filter.parseEntries max f [(key, v)] = f.parseSection max key v := by
  have hcheck : rejectDollar key = .ok () := rejectDollar_eq_ok.2 hdollar
  simp only [Filter.parseEntries, hcheck, hne, if_false]
  cases f.parseSection max key v <;> rfl

theorem parseEntries_include :
    Filter.parseEntries max f [("include", v)] =
      (Filter.parseInclude max v).map fun is => { f with includes := is } := by
  have hcheck : rejectDollar "include" = .ok () := rejectDollar_eq_ok.2 rfl
  simp only [Filter.parseEntries, hcheck, if_true]
  cases Filter.parseInclude max v <;> rfl

theorem parseFields_render {fs : Dict Bool} (h : ∀ e ∈ fs, isDollar e.1 = false) :
    parseFields (.object (fs.entries.map fun (k, b) => (k, .bool b))) = .ok fs := by
  rw [parseFields]
  refine bind_eq_ok.2 ⟨fs.entries, mapM_eq_ok.2 ?_, congrArg Except.ok (Dict.ofPairs_entries fs)⟩
  refine List.forall₂_map_left_iff.2 (List.forall₂_same.2 fun e he => ?_)
  exact check_eq_ok.2 ⟨rejectDollar_eq_ok.2 (h e he), rfl⟩

theorem parseEntries_fields (h : ∀ e ∈ f.fields, isDollar e.1 = false) (hg : g.fields = {}) :
    Filter.parseEntries max g (entryIf (!f.fields.isEmpty) "fields"
      (.object (f.fields.entries.map fun (k, b) => (k, .bool b)))) =
        .ok { g with fields := f.fields } := by
  by_cases hempty : f.fields.isEmpty = true
  · rw [Dict.isEmpty_iff.1 hempty]
    cases g
    cases hg
    rfl
  · have hread := parseFields_render h
    rw [Bool.not_eq_true] at hempty
    rw [hempty, entryIf, Bool.not_false, if_pos rfl, parseEntries_section rfl (by decide),
      parseSection, hread]
    rfl

theorem parseEntries_includes (hg : g.includes = []) :
    Filter.parseEntries max g (entryIf (!f.includes.isEmpty) "include"
      (.array (Filter.includesToValue f.includes))) =
        (Filter.parseIncludes max (Filter.includesToValue f.includes)).map fun is =>
          { g with includes := is } := by
  cases f.includes with
  | nil =>
    cases g
    cases hg
    rfl
  | cons i is =>
    rw [List.isEmpty_cons, entryIf, Bool.not_false, if_pos rfl, parseEntries_include,
      Filter.parseInclude]

theorem parseEntries_order (hg : g.order = []) :
    Filter.parseEntries max g (entryIf (!f.order.isEmpty) "order" (Order.render f.order)) =
      (Order.parse (Order.render f.order)).map fun os => { g with order := os } := by
  cases f.order with
  | nil =>
    cases g
    cases hg
    rfl
  | cons o os =>
    rw [List.isEmpty_cons, entryIf, Bool.not_false, if_pos rfl,
      parseEntries_section rfl (by decide), parseSection]
    cases Order.parse (Order.render (o :: os)) <;> rfl

theorem parseEntries_limit (hg : g.limit = none) :
    Filter.parseEntries max g (f.limit.map fun n => ("limit", Json.nat n)).toList =
      .ok { g with limit := f.limit } := by
  cases f.limit with
  | none =>
    cases g
    cases hg
    rfl
  | some n => exact parseEntries_section rfl (by decide)

theorem parseEntries_skip (hg : g.skip = none) :
    Filter.parseEntries max g (f.skip.map fun n => ("skip", Json.nat n)).toList =
      .ok { g with skip := f.skip } := by
  cases f.skip with
  | none =>
    cases g
    cases hg
    rfl
  | some n => exact parseEntries_section rfl (by decide)

theorem parseEntries_where (h : ∀ w ∈ f.predicate, w ≠ [] ∧ Where.parse max w.toValue = .ok w)
    (hg : g.predicate = none) :
    Filter.parseEntries max g (f.predicate.map fun w => ("where", Where.toValue w)).toList =
      .ok { g with predicate := f.predicate } := by
  cases hw : f.predicate with
  | none =>
    cases g
    cases hg
    rfl
  | some w =>
    obtain ⟨hne, hread⟩ := h w hw
    have hempty : w.isEmpty = false := by simpa using hne
    refine (parseEntries_section rfl (by decide)).trans ?_
    rw [parseSection, hread]
    simp [bind, Except.bind, pure, Except.pure, hempty]

/-- Of the rendering of a filter whose sections are sound, only the names can be read as something
else. -/
theorem parse_toValue (h : f.SoundSections max) :
    Filter.parse max f.toValue = do
      let is ← Filter.parseIncludes max (Filter.includesToValue f.includes)
      let os ← Order.parse (Order.render f.order)
      return { f with includes := is, order := os } := by
  have hvalue : f.toValue = .object
      (entryIf (!f.fields.isEmpty) "fields"
          (.object (f.fields.entries.map fun (k, b) => (k, .bool b)))
        ++ entryIf (!f.includes.isEmpty) "include" (.array (Filter.includesToValue f.includes))
        ++ (f.limit.map fun n => ("limit", Json.nat n)).toList
        ++ entryIf (!f.order.isEmpty) "order" (Order.render f.order)
        ++ (f.skip.map fun n => ("skip", Json.nat n)).toList
        ++ (f.predicate.map fun w => ("where", Where.toValue w)).toList) := by
    cases f
    rfl
  rw [hvalue, Filter.parse]
  simp only [parseEntries_append]
  rw [parseEntries_fields h.fields rfl, ok_bind, parseEntries_includes rfl]
  cases Filter.parseIncludes max (Filter.includesToValue f.includes) with
  | error e => rfl
  | ok is =>
    simp only [Except.map, ok_bind]
    rw [parseEntries_limit rfl, ok_bind, parseEntries_order rfl]
    cases Order.parse (Order.render f.order) with
    | error e => rfl
    | ok os =>
      simp only [Except.map, ok_bind]
      rw [parseEntries_skip rfl, ok_bind, parseEntries_where h.predicate rfl]
      rfl

/-- A trimmed relation is read back unless it starts with a dollar sign. -/
theorem parseRelation_eq_ok {r t : String} (h : r ≠ "" ∧ Text.trim r = r) :
    parseRelation (("relation", .string r) :: es) = .ok t ↔ isDollar r = false ∧ r = t := by
  have hblank : Text.isBlankText r = false :=
    Bool.eq_false_iff.2 fun hb => h.1 (h.2.symm.trans (Text.trim_eq_empty_iff.2 hb))
  have hlookup : Json.lookup (("relation", Json.string r) :: es) "relation" = some (.string r) :=
    Json.lookup_cons.trans (if_pos rfl)
  simp only [parseRelation, hlookup, hblank, Bool.false_eq_true, if_false, check_eq_ok,
    rejectDollar_eq_ok, pure_eq_ok, h.2]

theorem toValue_eq_object (g : Filter) : ∃ es, g.toValue = .object es := by
  cases g
  exact ⟨_, rfl⟩

theorem includesToValue_cons {r : String} {scope : Option Filter} :
    Filter.includesToValue ((r, scope) :: is) =
      .object (("relation", .string r) :: (scope.map fun g => ("scope", g.toValue)).toList)
        :: Filter.includesToValue is := by
  cases scope <;> rfl

theorem parseScope_eq_ok {scope : Option Filter} :
    Filter.parseScope max (scope.map fun g => ("scope", g.toValue)).toList = .ok scope ↔
      ∀ g ∈ scope, Filter.parse max g.toValue = .ok g := by
  cases scope with
  | none => exact iff_of_true rfl nofun
  | some g =>
    obtain ⟨es, hes⟩ := toValue_eq_object g
    simp only [Option.map_some, Option.toList_some, hes, Filter.parseScope, if_true, map_eq_ok,
      Option.some.injEq, exists_eq_right, Option.mem_def, forall_eq']

/-- Relations that were read are read back one by one. -/
theorem parseIncludes_eq_ok (h : ∀ i ∈ is, i.1 ≠ "" ∧ Text.trim i.1 = i.1) :
    Filter.parseIncludes max (Filter.includesToValue is) = .ok is ↔
      ∀ i ∈ is, isDollar i.1 = false ∧ ∀ g ∈ i.2, Filter.parse max g.toValue = .ok g := by
  induction is with
  | nil => exact iff_of_true rfl nofun
  | cons i is ih =>
    obtain ⟨r, scope⟩ := i
    obtain ⟨hr, hrest⟩ := List.forall_mem_cons.1 h
    rw [List.forall_mem_cons, ← ih hrest, includesToValue_cons, ← parseScope_eq_ok]
    simp only [Filter.parseIncludes, Filter.parseInclude, bind_eq_ok, pure_eq_ok,
      parseRelation_eq_ok hr, parseScope_cons_of_ne (show "relation" ≠ "scope" by decide)]
    constructor
    · rintro ⟨_, ⟨t, ⟨hdollar, rfl⟩, scope', hscope, rfl⟩, is', his, heq⟩
      simp only [List.cons_append, List.nil_append, List.cons.injEq, Prod.mk.injEq, true_and] at heq
      obtain ⟨rfl, rfl⟩ := heq
      exact ⟨⟨hdollar, hscope⟩, his⟩
    · rintro ⟨⟨hdollar, hscope⟩, his⟩
      exact ⟨_, ⟨r, ⟨hdollar, rfl⟩, scope, hscope, rfl⟩, is, his, rfl⟩

/-- A sound filter is read back from its rendering exactly if it is plain. -/
theorem parse_toValue_eq_ok (h : f.Sound max) :
    Filter.parse max f.toValue = .ok f ↔ f.Plain := by
  induction f using scopes_induction with
  | step f ih =>
    cases h with
    | mk sections relations scopes =>
      have hscopes : ∀ i ∈ f.includes, ∀ g ∈ i.2,
          (Filter.parse max g.toValue = .ok g ↔ g.Plain) :=
        fun i hi g hg => ih i hi g hg (scopes i hi g hg)
      rw [parse_toValue sections]
      simp only [bind_eq_ok, pure_eq_ok]
      constructor
      · rintro ⟨is, his, os, hos, heq⟩
        have hisf : is = f.includes := congrArg Filter.includes heq
        have hosf : os = f.order := congrArg Filter.order heq
        rw [hisf, parseIncludes_eq_ok relations] at his
        rw [hosf, parse_render_eq_ok] at hos
        exact ⟨hos, fun i hi => (his i hi).1,
          fun i hi g hg => (hscopes i hi g hg).1 ((his i hi).2 g hg)⟩
      · rintro ⟨horder, hdollar, hplain⟩
        refine ⟨f.includes, (parseIncludes_eq_ok relations).2 fun i hi => ⟨hdollar i hi, ?_⟩,
          f.order, parse_render_eq_ok.2 horder, by cases f; rfl⟩
        exact fun g hg => (hscopes i hi g hg).2 (hplain i hi g hg)

end Filter

/-- **Which filters survive.** A filter that was parsed is read back from its rendering exactly if
it is plain: no relation in it starts with a dollar sign, and every name that an order sorts by is
a word without commas. -/
theorem reread_iff_plain {max : Nat} {v : Json} {f : Filter} (h : Filter.parse max v = .ok f) :
    Filter.parse max f.toValue = .ok f ↔ f.Plain :=
  Filter.parse_toValue_eq_ok (Filter.sound_of_parse h)

/-- A filter in other shapes than the rendered ones, with a scope that has a scope. -/
theorem reread_iff_plain_scoped :
    let v : Json := .object [
      ("fields", .array [.string "b", .string "a"]),
      ("include", .array [.string "r, s", .object [("relation", .string " t "),
        ("scope", .object [("include", .string "u"), ("limit", .string "3")])]]),
      ("order", .string "a desc, b"), ("where", .object [("k", .nat 1)])]
    ∃ f, Filter.parse 1 v = .ok f ∧ Filter.parse 1 f.toValue = .ok f := by
  intro v
  have hf : Filter.parse 1 v = .ok
      { fields := .ofPairs [("a", true), ("b", true)], predicate := some [("k", .scalar (.nat 1))],
        order := [⟨"a", .desc⟩, ⟨"b", .asc⟩],
        includes := [("r", none), ("s", none),
          ("t", some { limit := some 3, includes := [("u", none)] })] } := by
    decide +kernel
  have hscope : Filter.Plain { limit := some 3, includes := [("u", none)] } :=
    ⟨nofun, by decide, by simp⟩
  exact ⟨_, hf, (reread_iff_plain hf).2 ⟨by decide, by decide, by simpa using hscope⟩⟩

/-- A relation in a text may start with a dollar sign, but not in the object that it is rendered as;
and a name that an object sorts by may be one that no text can spell. -/
theorem dollar_relation_not_reread :
    (∃ f, Filter.parse 1 (.object [("include", .string "$x")]) = .ok f ∧
      Filter.parse 1 f.toValue ≠ .ok f) ∧
    ∃ f, Filter.parse 1 (.object [("order", .object [("a b", .string "ASC")])]) = .ok f ∧
      Filter.parse 1 f.toValue ≠ .ok f := by
  refine ⟨⟨{ includes := [("$x", none)] }, ?_, ?_⟩, { order := [⟨"a b", .asc⟩] }, ?_, ?_⟩ <;>
    decide +kernel

end RestKit.Query
