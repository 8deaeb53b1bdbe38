import RestKit.Proofs.Json.Read
import RestKit.Proofs.Query.DollarFree
import RestKit.Proofs.Text.Blank
import RestKit.Query.Filter
/-!
# The relations of a filter

A document writes the relations to include in two spellings, at every depth: as the parts of a text
between commas, and as the `relation` of an object (`Writes`). What it writes, without blanks around
it, are the relations of the filter that is read from it (`hasRelation_iff`). The check for dollar
signs looks at one of the two spellings only, with the blanks around it (`ReadsChecked`), so it lets
some of them through.
-/
namespace RestKit.Query

variable {max : Nat} {f g : Filter} {v x : Json} {r s raw : String} {es : List (String × Json)}
  {xs : List Json} {is : List (String × Option Filter)}

/-! ## Relations of filters and of documents -/

/-- A relation of the filter, or of a scope in it at any depth. -/
inductive Filter.HasRelation : Filter → String → Prop
  | here {f : Filter} {i : String × Option Filter} (hi : i ∈ f.includes) : HasRelation f i.1
  | inside {f g : Filter} {i : String × Option Filter} {r : String} (hi : i ∈ f.includes)
    (hg : i.2 = some g) (h : HasRelation g r) : HasRelation f r

/-- How a document spells a relation. -/
inductive Spelling where
  | text
  | object
deriving DecidableEq, Repr

/-- What the value of an `include` writes in a spelling, and what it writes in the scopes in it. -/
inductive IncludeWrites : Json → Spelling → String → Prop
  | text {s raw : String} (hpart : raw ∈ Text.splitOn ',' s)
    (hblank : Text.isBlankText raw = false) : IncludeWrites (.string s) .text raw
  | object {es : List (String × Json)} {raw : String}
    (h : Json.lookup es "relation" = some (.string raw)) : IncludeWrites (.object es) .object raw
  | scope {es fs : List (String × Json)} {x : Json} {spelling : Spelling} {raw : String}
    (hscope : Json.lookup es "scope" = some (.object fs))
    (hinclude : Json.lookup fs "include" = some x) (h : IncludeWrites x spelling raw) :
    IncludeWrites (.object es) spelling raw
  | item {xs : List Json} {x : Json} {spelling : Spelling} {raw : String} (hx : x ∈ xs)
    (h : IncludeWrites x spelling raw) : IncludeWrites (.array xs) spelling raw

/-- What a filter document writes. -/
def Writes (v : Json) (spelling : Spelling) (raw : String) : Prop :=
  ∃ x, v.get? "include" = some x ∧ IncludeWrites x spelling raw

/-! ## Reading entry by entry -/

namespace Filter

theorem includes_of_parseSection {key : String} (h : f.parseSection max key v = .ok g) :
    g.includes = f.includes := by
  unfold parseSection at h
  split at h
  · obtain ⟨w, -, h⟩ := bind_eq_ok.1 h
    rw [← pure_eq_ok.1 h]
    split <;> rfl
  -- the other sections set one field each
  all_goals
    first
    | obtain ⟨_, -, h⟩ := bind_eq_ok.1 h; rw [← pure_eq_ok.1 h]
    | rw [← Except.ok.inj h]

/-- What is at `include` gives the relations, if it is there. -/
theorem includes_of_parseEntries (hes : Json.KeyOrdered es)
    (h : Filter.parseEntries max f es = .ok g) :
    match Json.lookup es "include" with
    | some x => Filter.parseInclude max x = .ok g.includes
    | none => g.includes = f.includes := by
  induction es generalizing f with
  | nil =>
    cases h
    rfl
  | cons e es ih =>
    obtain ⟨k, x⟩ := e
    simp only [Filter.parseEntries] at h
    obtain ⟨-, h⟩ := check_eq_ok.1 h
    rw [Json.lookup_cons]
    by_cases hk : k = "include"
    · subst hk
      rw [if_pos rfl] at h ⊢
      obtain ⟨f', hf', h⟩ := bind_eq_ok.1 h
      obtain ⟨is, his, rfl⟩ := map_eq_ok.1 hf'
      have hrest := ih hes.tail h
      rw [hes.lookup_tail] at hrest
      exact his.trans (congrArg Except.ok hrest.symm)
    · rw [if_neg hk] at h ⊢
      obtain ⟨f', hf', h⟩ := bind_eq_ok.1 h
      have hrest := ih hes.tail h
      rwa [includes_of_parseSection hf'] at hrest

/-- The scope of an include object is what stands at `scope`, unless that is null. -/
theorem parseScope_eq (es : List (String × Json)) :
    Filter.parseScope max es =
      match Json.lookup es "scope" with
      | none | some .null => .ok none
      | some x => (Filter.parse max x).map some := by
  induction es with
  | nil => rfl
  | cons e es ih =>
    obtain ⟨k, x⟩ := e
    rw [Json.lookup_cons]
    by_cases hk : k = "scope"
    · rw [if_pos hk]
      cases x <;> simp only [Filter.parseScope, hk, if_true]
    · rw [if_neg hk, ← ih]
      cases x <;> simp only [Filter.parseScope, hk, if_false]

end Filter

/-- An include object has a relation that is checked and then trimmed. -/
theorem parseRelation_iff :
    parseRelation es = .ok r ↔ ∃ raw, Json.lookup es "relation" = some (.string raw) ∧
      Text.isBlankText raw = false ∧ isDollar raw = false ∧ Text.trim raw = r := by
  unfold parseRelation
  split
  · rename_i s hs
    simp only [hs, Option.some.injEq, Json.string.injEq, exists_eq_left']
    by_cases hblank : Text.isBlankText s = true
    · simp [hblank]
    · rw [if_neg hblank, check_eq_ok, rejectDollar_eq_ok, pure_eq_ok]
      simp [hblank]
  · rename_i hnone
    constructor
    · intro h
      cases h
    · rintro ⟨raw, hraw, -⟩
      exact absurd hraw (hnone raw)

theorem mem_relationsOf {i : String × Option Filter} :
    i ∈ relationsOf s ↔ i.2 = none ∧ ∃ raw ∈ Text.splitOn ',' s,
      Text.isBlankText raw = false ∧ Text.trim raw = i.1 := by
  have hkept : ∀ raw, ((!(Text.trim raw).isEmpty) = true ↔ Text.isBlankText raw = false) := by
    intro raw
    rw [Bool.not_eq_true', ← Bool.not_eq_true, ← Bool.not_eq_true, String.isEmpty_iff,
      Text.trim_eq_empty_iff]
  obtain ⟨t, scope⟩ := i
  simp only [relationsOf, List.mem_map, List.mem_filter, Prod.mk.injEq]
  constructor
  · rintro ⟨t', ⟨⟨raw, hraw, rfl⟩, hne⟩, rfl, rfl⟩
    exact ⟨rfl, raw, hraw, (hkept raw).1 hne, rfl⟩
  · rintro ⟨rfl, raw, hraw, hblank, rfl⟩
    exact ⟨_, ⟨⟨raw, hraw, rfl⟩, (hkept raw).2 hblank⟩, rfl, rfl⟩

/-! ## What is written is what is read -/

/-- Some of the relations, or a scope among them, has the relation. -/
def IncludesHave (is : List (String × Option Filter)) (r : String) : Prop :=
  ∃ i ∈ is, i.1 = r ∨ ∃ g, i.2 = some g ∧ g.HasRelation r

theorem not_includesHave_nil : ¬ IncludesHave [] r := by
  rintro ⟨i, hi, -⟩
  cases hi

theorem Filter.hasRelation_iff_includes : f.HasRelation r ↔ IncludesHave f.includes r := by
  constructor
  · intro h
    cases h with
    | here hi => exact ⟨_, hi, .inl rfl⟩
    | inside hi hg h => exact ⟨_, hi, .inr ⟨_, hg, h⟩⟩
  · rintro ⟨i, hi, rfl | ⟨g, hg, h⟩⟩
    · exact .here hi
    · exact .inside hi hg h

theorem writes_object {spelling : Spelling} :
    Writes (.object es) spelling raw ↔
      ∃ x, Json.lookup es "include" = some x ∧ IncludeWrites x spelling raw := Iff.rfl

theorem includeWrites_object {spelling : Spelling} :
    IncludeWrites (.object es) spelling raw ↔
      (spelling = .object ∧ Json.lookup es "relation" = some (.string raw)) ∨
        ∃ x, Json.lookup es "scope" = some x ∧ Writes x spelling raw := by
  constructor
  · intro h
    cases h with
    | object h => exact .inl ⟨rfl, h⟩
    | scope hscope hinclude h => exact .inr ⟨_, hscope, _, hinclude, h⟩
  · rintro (⟨rfl, h⟩ | ⟨x, hscope, y, hinclude, h⟩)
    · exact .object h
    · cases x with
      | object fs => exact .scope hscope hinclude h
      | _ => cases hinclude

/-- Some spelling of the relation is written, perhaps with blanks around it. -/
def Spelled (writes : Spelling → String → Prop) (r : String) : Prop :=
  ∃ spelling raw, writes spelling raw ∧ Text.trim raw = r

/-- What reading a value gives, as a filter or as relations, has the relations that it writes. -/
structure ReadsWritten (max : Nat) (v : Json) : Prop where
  filter : ∀ f, Filter.parse max v = .ok f → ∀ r, f.HasRelation r ↔ Spelled (Writes v) r
  includes : ∀ is, Filter.parseInclude max v = .ok is →
    ∀ r, IncludesHave is r ↔ Spelled (IncludeWrites v) r

theorem hasRelation_of_parseEntries (hes : Json.KeyOrdered es)
    (ih : ∀ e ∈ es, ReadsWritten max e.2) (h : Filter.parseEntries max {} es = .ok f) :
    f.HasRelation r ↔ Spelled (Writes (.object es)) r := by
  rw [Filter.hasRelation_iff_includes]
  have hincludes := Filter.includes_of_parseEntries hes h
  cases hx : Json.lookup es "include" with
  | some x =>
    rw [hx] at hincludes
    rw [(ih _ (Json.mem_of_lookup hx)).includes _ hincludes]
    simp only [Spelled, writes_object, hx, Option.some.injEq, exists_eq_left']
  | none =>
    rw [hx] at hincludes
    simp only [Spelled, writes_object, hx, hincludes]
    refine iff_of_false not_includesHave_nil ?_
    rintro ⟨_, _, ⟨_, hnone, -⟩, -⟩
    cases hnone

/-- What a scope has is what is written in it. -/
theorem hasRelation_of_parseScope {scope : Option Filter} (ih : ∀ e ∈ es, ReadsWritten max e.2)
    (h : Filter.parseScope max es = .ok scope) :
    (∃ g, scope = some g ∧ g.HasRelation r) ↔
      ∃ x, Json.lookup es "scope" = some x ∧ Spelled (Writes x) r := by
  rw [Filter.parseScope_eq] at h
  cases hx : Json.lookup es "scope" with
  | none =>
    rw [hx] at h
    cases h
    simp
  | some x =>
    rw [hx] at h
    simp only [Option.some.injEq, exists_eq_left']
    cases x with
    | null =>
      cases h
      constructor
      · rintro ⟨g, hg, -⟩
        cases hg
      · rintro ⟨_, _, ⟨_, hnone, -⟩, -⟩
        cases hnone
    | _ =>
      obtain ⟨g, hg, rfl⟩ := map_eq_ok.1 h
      simp only [Option.some.injEq, exists_eq_left']
      exact (ih _ (Json.mem_of_lookup hx)).filter g hg r

theorem includesHave_of_parseIncludes (ih : ∀ x ∈ xs, ReadsWritten max x)
    (h : Filter.parseIncludes max xs = .ok is) :
    IncludesHave is r ↔ ∃ x ∈ xs, Spelled (IncludeWrites x) r := by
  induction xs generalizing is with
  | nil =>
    cases h
    simp [IncludesHave]
  | cons x xs ihxs =>
    obtain ⟨hx, hxs⟩ := List.forall_mem_cons.1 ih
    cases x with
    | array => cases h
    | _ =>
      simp only [Filter.parseIncludes, bind_eq_ok, pure_eq_ok] at h
      obtain ⟨first, hfirst, rest, hrest, rfl⟩ := h
      rw [List.exists_mem_cons_iff, ← hx.includes first hfirst, ← ihxs hxs hrest]
      simp only [IncludesHave, List.mem_append, or_and_right, exists_or]

theorem spelled_array :
    Spelled (IncludeWrites (.array xs)) r ↔ ∃ x ∈ xs, Spelled (IncludeWrites x) r := by
  constructor
  · rintro ⟨spelling, raw, hwrites, htrim⟩
    cases hwrites with
    | item hx hwrites => exact ⟨_, hx, spelling, raw, hwrites, htrim⟩
  · rintro ⟨x, hx, spelling, raw, hwrites, htrim⟩
    exact ⟨spelling, raw, .item hx hwrites, htrim⟩

/-- An include object has its own relation and those of its scope. -/
theorem includesHave_of_object (ih : ∀ e ∈ es, ReadsWritten max e.2)
    (h : Filter.parseInclude max (.object es) = .ok is) :
    IncludesHave is r ↔ Spelled (IncludeWrites (.object es)) r := by
  simp only [Filter.parseInclude, bind_eq_ok, pure_eq_ok] at h
  obtain ⟨t, ht, scope, hscope, rfl⟩ := h
  obtain ⟨raw, hraw, -, -, rfl⟩ := parseRelation_iff.1 ht
  have hinside := hasRelation_of_parseScope (r := r) ih hscope
  simp only [IncludesHave, List.mem_singleton, exists_eq_left, hinside, Spelled,
    includeWrites_object]
  constructor
  · rintro (htrim | ⟨x, hx, spelling, raw', hwrites, htrim⟩)
    · exact ⟨.object, raw, .inl ⟨rfl, hraw⟩, htrim⟩
    · exact ⟨spelling, raw', .inr ⟨x, hx, hwrites⟩, htrim⟩
  · rintro ⟨spelling, raw', ⟨rfl, hraw'⟩ | ⟨x, hx, hwrites⟩, htrim⟩
    · cases hraw.symm.trans hraw'
      exact .inl htrim
    · exact .inr ⟨x, hx, spelling, raw', hwrites, htrim⟩

theorem includesHave_relationsOf :
    IncludesHave (relationsOf s) r ↔ Spelled (IncludeWrites (.string s)) r := by
  constructor
  · rintro ⟨i, hi, h⟩
    obtain ⟨hnone, raw, hraw, hblank, htrim⟩ := mem_relationsOf.1 hi
    rcases h with rfl | ⟨g, hg, -⟩
    · exact ⟨.text, raw, .text hraw hblank, htrim⟩
    · rw [hnone] at hg
      cases hg
  · rintro ⟨_, raw, hwrites, htrim⟩
    cases hwrites with
    | text hraw hblank =>
      exact ⟨(r, none), mem_relationsOf.2 ⟨rfl, raw, hraw, hblank, htrim⟩, .inl rfl⟩

theorem readsWritten (hv : v.Ordered) : ReadsWritten max v := by
  induction v using Json.elements_induction with
  | step v ih =>
    cases v with
    | object es =>
      obtain ⟨hes, hordered⟩ := Json.ordered_object.1 hv
      have hentries : ∀ e ∈ es, ReadsWritten max e.2 :=
        fun e he => ih e.2 (List.mem_map_of_mem he) (hordered e he)
      constructor
      · intro f hf r
        rw [Filter.parse] at hf
        exact hasRelation_of_parseEntries hes hentries hf
      · intro is his r
        exact includesHave_of_object hentries his
    | array xs =>
      have hitems : ∀ x ∈ xs, ReadsWritten max x :=
        fun x hx => ih x hx (Json.ordered_array.1 hv x hx)
      constructor
      · intro f hf
        cases hf
      · intro is his r
        rw [Filter.parseInclude] at his
        rw [includesHave_of_parseIncludes hitems his, spelled_array]
    | string s =>
      constructor
      · intro f hf
        cases hf
      · intro is his r
        rw [Filter.parseInclude, Except.ok.injEq] at his
        rw [← his]
        exact includesHave_relationsOf
    | null =>
      constructor
      · intro f hf r
        rw [Filter.parse, Except.ok.injEq] at hf
        rw [← hf, Filter.hasRelation_iff_includes]
        refine iff_of_false not_includesHave_nil ?_
        rintro ⟨_, _, ⟨_, hnone, -⟩, -⟩
        cases hnone
      · intro is his r
        rw [Filter.parseInclude, Except.ok.injEq] at his
        rw [← his]
        refine iff_of_false not_includesHave_nil ?_
        rintro ⟨_, _, hwrites, -⟩
        cases hwrites
    | _ =>
      constructor
      · intro f hf
        cases hf
      · intro is his
        cases his

/-- The relations of a filter are those that its document writes, without blanks around them. -/
theorem hasRelation_iff (hv : v.Ordered) (h : Filter.parse max v = .ok f) :
    f.HasRelation r ↔ Spelled (Writes v) r := (readsWritten hv).filter f h r

/-! ## What the check looks at -/

/-- Reading a value has checked the relations that its objects write, with their blanks. -/
structure ReadsChecked (max : Nat) (v : Json) : Prop where
  filter : ∀ f, Filter.parse max v = .ok f → ∀ raw, Writes v .object raw → isDollar raw = false
  includes : ∀ is, Filter.parseInclude max v = .ok is →
    ∀ raw, IncludeWrites v .object raw → isDollar raw = false

theorem exists_of_parseIncludes (h : Filter.parseIncludes max xs = .ok is) (hx : x ∈ xs) :
    ∃ js, Filter.parseInclude max x = .ok js := by
  induction xs generalizing is with
  | nil => cases hx
  | cons y ys ih =>
    cases y with
    | array => cases h
    | _ =>
      simp only [Filter.parseIncludes, bind_eq_ok, pure_eq_ok] at h
      obtain ⟨first, hfirst, rest, hrest, rfl⟩ := h
      rcases List.mem_cons.1 hx with rfl | hx
      · exact ⟨first, hfirst⟩
      · exact ih hrest hx

/-- The relation of an include object is checked, and its scope is read. -/
theorem checked_of_object (ih : ∀ e ∈ es, ReadsChecked max e.2)
    (h : Filter.parseInclude max (.object es) = .ok is)
    (hwrites : IncludeWrites (.object es) .object raw) : isDollar raw = false := by
  simp only [Filter.parseInclude, bind_eq_ok] at h
  obtain ⟨r, hr, scope, hscope, -⟩ := h
  rcases includeWrites_object.1 hwrites with ⟨-, hraw⟩ | ⟨x, hx, hwrites⟩
  · obtain ⟨raw', hraw', -, hdollar, -⟩ := parseRelation_iff.1 hr
    cases hraw.symm.trans hraw'
    exact hdollar
  · rw [Filter.parseScope_eq, hx] at hscope
    cases x with
    | null =>
      obtain ⟨_, hnone, -⟩ := hwrites
      cases hnone
    | _ =>
      obtain ⟨g, hg, -⟩ := map_eq_ok.1 hscope
      exact (ih _ (Json.mem_of_lookup hx)).filter g hg raw hwrites

theorem readsChecked (hv : v.Ordered) : ReadsChecked max v := by
  induction v using Json.elements_induction with
  | step v ih =>
    cases v with
    | object es =>
      obtain ⟨hes, hordered⟩ := Json.ordered_object.1 hv
      have hentries : ∀ e ∈ es, ReadsChecked max e.2 :=
        fun e he => ih e.2 (List.mem_map_of_mem he) (hordered e he)
      constructor
      · rintro f hf raw ⟨x, hx, hwrites⟩
        rw [Filter.parse] at hf
        have hincludes := Filter.includes_of_parseEntries hes hf
        have hlookup : Json.lookup es "include" = some x := hx
        rw [hlookup] at hincludes
        exact (hentries _ (Json.mem_of_lookup hlookup)).includes _ hincludes raw hwrites
      · intro is his raw hwrites
        exact checked_of_object hentries his hwrites
    | array xs =>
      constructor
      · intro f hf
        cases hf
      · intro is his raw hwrites
        rw [Filter.parseInclude] at his
        cases hwrites with
        | item hx hwrites =>
          obtain ⟨js, hjs⟩ := exists_of_parseIncludes his hx
          exact (ih _ hx (Json.ordered_array.1 hv _ hx)).includes js hjs raw hwrites
    | _ =>
      constructor
      · rintro f hf raw ⟨x, hnone, -⟩
        cases hnone
      · intro is his raw hwrites
        cases hwrites

/-- **When no relation starts with a dollar sign.** A filter that was read has no such relation, at
any depth, exactly if its document writes none in a text and hides none behind blanks in an
object. -/
theorem relations_dollar_free_iff (hv : v.Ordered) (h : Filter.parse max v = .ok f) :
    (∀ r, f.HasRelation r → isDollar r = false) ↔
      (∀ raw, Writes v .text raw → isDollar (Text.trim raw) = false) ∧
        ∀ raw, Writes v .object raw → isDollar (Text.trim raw) = isDollar raw := by
  have hchecked : ∀ raw, Writes v .object raw → isDollar raw = false :=
    (readsChecked hv).filter f h
  simp only [hasRelation_iff hv h]
  constructor
  · intro hfree
    refine ⟨fun raw hwrites => hfree _ ⟨.text, raw, hwrites, rfl⟩, fun raw hwrites => ?_⟩
    rw [hchecked raw hwrites]
    exact hfree _ ⟨.object, raw, hwrites, rfl⟩
  · rintro ⟨htext, hobject⟩ r ⟨spelling, raw, hwrites, rfl⟩
    cases spelling with
    | text => exact htext raw hwrites
    | object => rw [hobject raw hwrites, hchecked raw hwrites]

/-- A relation in the text of a scope. -/
theorem relations_dollar_free_iff_scoped :
    ∃ v f, Json.read ("\x7b\"include\":[\x7b\"relation\":\" t\","
        ++ "\"scope\":\x7b\"include\":\"u, $x\"\x7d\x7d]\x7d") = .ok v ∧
      v.Ordered ∧ Filter.parse 1 v = .ok f ∧ ¬ ∀ r, f.HasRelation r → isDollar r = false := by
  have hread : Json.read ("\x7b\"include\":[\x7b\"relation\":\" t\","
      ++ "\"scope\":\x7b\"include\":\"u, $x\"\x7d\x7d]\x7d") =
      .ok (.object [("include", .array [.object [("relation", .string " t"),
        ("scope", .object [("include", .string "u, $x")])]])]) := by decide +kernel
  have hparse : Filter.parse 1 (.object [("include", .array [.object [("relation", .string " t"),
        ("scope", .object [("include", .string "u, $x")])]])]) =
      .ok { includes := [("t", some { includes := [("u", none), ("$x", none)] })] } := by
    decide +kernel
  have hordered := Json.ordered_of_read hread
  refine ⟨_, _, hread, hordered, hparse, fun hfree => ?_⟩
  have htext := ((relations_dollar_free_iff hordered hparse).1 hfree).1 " $x"
    ⟨_, rfl, .item (List.mem_singleton_self _) (.scope rfl rfl (.text (by decide) (by decide)))⟩
  have hdollar : isDollar (Text.trim " $x") = true := by decide
  exact Bool.false_ne_true (htext.symm.trans hdollar)

/-- A text may name a relation with a dollar sign, and so may an object with a blank before it. -/
theorem dollar_relation_accepted :
    (∃ f, Filter.parse 1 (.object [("include", .string "$x")]) = .ok f ∧
      f.HasRelation "$x" ∧ isDollar "$x" = true) ∧
    ∃ f, Filter.parse 1 (.object [("include", .object [("relation", .string " $x")])]) = .ok f ∧
      f.HasRelation "$x" ∧ isDollar "$x" = true := by
  have hhas : Filter.HasRelation { includes := [("$x", none)] } "$x" :=
    .here (i := ("$x", none)) (List.mem_singleton_self _)
  refine ⟨⟨_, ?_, hhas, by decide⟩, _, ?_, hhas, by decide⟩
  · decide +kernel
  · decide +kernel

end RestKit.Query
