import RestKit.Proofs.Query.Merged
import RestKit.Proofs.Query.Translation
/-!
# Projections of one kind

A projection includes fields or excludes them, its primary key apart. That rule is checked of a
filter for the names that a primary key may have, while its projection is made for the one that the
collection has. What an inclusion holds is what the collection leaves of the flag of each name
(`Collection.shown`, `mem_inclusion_iff`), and an exclusion has one flag only. From this follows
when a projection is of one kind (`uniform_inclusion_iff`).
-/
namespace RestKit.Query

variable {c : Collection} {fields : Dict Bool} {p : List (String × Bool)} {e : String × Bool}
  {k : String} {f : Filter} {q : DocumentQuery}

/-! ## What a projection holds -/

/-- What is left of the flag of a field: nothing if it is banned, and one that is always given is
included. -/
def Collection.shown (c : Collection) (fields : Dict Bool) (k : String) : Option Bool :=
  if k ∈ c.banned then none
  else if k ∈ c.alwaysIncluded then some true
  else fields.get? k

theorem shown_eq_some_false :
    c.shown fields k = some false ↔
      k ∉ c.banned ∧ k ∉ c.alwaysIncluded ∧ fields.get? k = some false := by
  unfold Collection.shown
  by_cases hbanned : k ∈ c.banned
  · simp [hbanned]
  · by_cases halways : k ∈ c.alwaysIncluded
    · simp [hbanned, halways]
    · simp [hbanned, halways]

/-- The fields asked for and those always given, without the banned ones. -/
theorem lookup_asked (fields : Dict Bool) (k : String) :
    Json.lookup (Json.entriesOf ((fields.entries.filter fun f => !c.banned.contains f.1) ++
      (c.alwaysIncluded.filter fun name => !c.banned.contains name).map fun name =>
        (name, true))) k = c.shown fields k := by
  have hasked : Json.KeyOrdered (fields.entries.filter fun f => !c.banned.contains f.1) :=
    fields.ordered.filter _
  rw [hasked.lookup_entriesOf_names,
    Json.lookup_filter_key (fun name => !c.banned.contains name), Collection.shown, Dict.get?]
  by_cases hbanned : k ∈ c.banned
  · simp [hbanned]
  · by_cases halways : k ∈ c.alwaysIncluded
    · simp [hbanned, halways]
    · simp [hbanned, halways]

theorem mem_asked :
    e ∈ Json.entriesOf ((fields.entries.filter fun f => !c.banned.contains f.1) ++
      (c.alwaysIncluded.filter fun name => !c.banned.contains name).map fun name =>
        (name, true)) ↔ c.shown fields e.1 = some e.2 := by
  rw [← lookup_asked fields, (Json.keyOrdered_entriesOf _).lookup_eq_some]

/-- An inclusion in which a field is left besides the primary key holds what is left of each. -/
theorem mem_inclusion_iff (hk : k ≠ c.primaryKey) (hshown : c.shown fields k = some true) :
    e ∈ inclusion c fields ↔ c.shown fields e.1 = some e.2 := by
  unfold inclusion
  dsimp only
  rw [if_pos, mem_asked]
  refine List.any_eq_true.2 ⟨(k, true), mem_asked.2 hshown, ?_⟩
  simpa using hk

/-- An inclusion in which no such field is left is the primary key alone. -/
theorem inclusion_eq_primaryKey
    (hnone : ∀ k, c.shown fields k = some true → k = c.primaryKey) :
    inclusion c fields = [(c.primaryKey, true)] := by
  unfold inclusion
  dsimp only
  rw [if_neg]
  intro hany
  obtain ⟨⟨k, b⟩, hmem, hflag⟩ := List.any_eq_true.1 hany
  obtain ⟨rfl, hk⟩ : b = true ∧ k ≠ c.primaryKey := by simpa using hflag
  exact hk (hnone k (mem_asked.1 hmem))

/-- An exclusion has no flag but `false`. -/
theorem flag_of_mem_exclusion (h : e ∈ exclusion c fields) : e.2 = false := by
  rcases List.mem_append.1 (Json.mem_of_mem_entriesOf h) with h | h
  · have hrefused := (List.mem_filter.1 h).2
    simp only [Bool.and_eq_true, Bool.not_eq_true'] at hrefused
    exact hrefused.1
  · obtain ⟨name, -, rfl⟩ := List.mem_map.1 h
    rfl

/-! ## Projections of one kind -/

/-- All entries have the same flag, the primary key apart. -/
def Uniform (c : Collection) (p : List (String × Bool)) : Prop :=
  ∃ flag, ∀ e ∈ p, e.1 ≠ c.primaryKey → e.2 = flag

/-- A field is asked for, and of the flags that are left one includes a field and one excludes a
field, the primary key apart. -/
structure Mixes (c : Collection) (fields : Dict Bool) : Prop where
  asked : ∃ k, k ≠ c.primaryKey ∧ fields.get? k = some true
  included : ∃ k, k ≠ c.primaryKey ∧ c.shown fields k = some true
  excluded : ∃ k, k ≠ c.primaryKey ∧ c.shown fields k = some false

theorem uniform_inclusion_iff :
    Uniform c (inclusion c fields) ↔
      ¬ ((∃ k, k ≠ c.primaryKey ∧ c.shown fields k = some true) ∧
        ∃ k, k ≠ c.primaryKey ∧ c.shown fields k = some false) := by
  constructor
  · rintro ⟨flag, hflag⟩ ⟨⟨k, hk, hkt⟩, l, hl, hlf⟩
    have htrue : true = flag := hflag (k, true) ((mem_inclusion_iff hk hkt).2 hkt) hk
    have hfalse : false = flag := hflag (l, false) ((mem_inclusion_iff hk hkt).2 hlf) hl
    exact Bool.false_ne_true (hfalse.trans htrue.symm)
  · intro hnone
    by_cases hsome : ∃ k, k ≠ c.primaryKey ∧ c.shown fields k = some true
    · obtain ⟨k, hk, hkt⟩ := hsome
      refine ⟨true, fun e he hne => ?_⟩
      rw [mem_inclusion_iff hk hkt] at he
      by_contra hfalse
      rw [Bool.not_eq_true] at hfalse
      exact hnone ⟨⟨k, hk, hkt⟩, e.1, hne, he.trans (congrArg some hfalse)⟩
    · have hprimary : ∀ k, c.shown fields k = some true → k = c.primaryKey := by
        intro k hkt
        by_contra hk
        exact hsome ⟨k, hk, hkt⟩
      rw [inclusion_eq_primaryKey hprimary]
      refine ⟨true, fun e he hne => ?_⟩
      rw [List.mem_singleton.1 he] at hne
      exact absurd rfl hne

/-- A filter asks for fields exactly if one besides the primary key is included. -/
theorem any_asked_iff :
    (fields.entries.any fun e => e.2 && e.1 != c.primaryKey) = true ↔
      ∃ k, k ≠ c.primaryKey ∧ fields.get? k = some true := by
  rw [List.any_eq_true]
  simp only [Dict.get?_eq_some, Dict.mem_def]
  constructor
  · rintro ⟨⟨k, b⟩, hmem, hflag⟩
    obtain ⟨rfl, hk⟩ : b = true ∧ k ≠ c.primaryKey := by simpa using hflag
    exact ⟨k, hk, hmem⟩
  · rintro ⟨k, hk, hmem⟩
    exact ⟨(k, true), hmem, by simpa using hk⟩

/-- Only a name of a primary key that the collection does not have makes a projection mixed. -/
theorem Mixes.exists_key (h : Mixes c f.fields) (hcheck : f.checkProjection = .ok ()) :
    ∃ e ∈ f.fields, isPrimaryKey e.1 = true ∧ e.1 ≠ c.primaryKey := by
  obtain ⟨⟨k, hk, hkt⟩, -, l, hl, hlf⟩ := h
  obtain ⟨-, -, hlf⟩ := shown_eq_some_false.1 hlf
  have hnone := mixedNames_eq_none.1 (Filter.checkProjection_eq_ok.1 hcheck).1
  by_cases hprimary : isPrimaryKey k = true
  · exact ⟨(k, true), Json.mem_of_lookup hkt, hprimary, hk⟩
  · refine ⟨(l, false), Json.mem_of_lookup hlf, ?_, hl⟩
    by_contra hother
    exact hnone ⟨k, l, by simpa using hprimary, by simpa using hother, hkt, hlf⟩

/-- **Projections of one kind.** The projection of a filter that is translated includes fields or
excludes them, the collection's primary key apart, exactly if the filter does not mix the two for
the collection. It mixes them only by a field with the name of another primary key. -/
theorem projection_uniform_iff (h : f.toDocument c = .ok q) (hp : q.projection = some p) :
    (Uniform c p ↔ ¬ Mixes c f.fields) ∧
      (Mixes c f.fields → ∃ e ∈ f.fields, isPrimaryKey e.1 = true ∧ e.1 ≠ c.primaryKey) := by
  obtain ⟨-, -, hprojection, -, -⟩ := toDocument_eq_ok.1 h
  rw [hp] at hprojection
  obtain ⟨hcheck, -, hmode⟩ := projectionOf_eq_ok.1 hprojection
  refine ⟨?_, fun hmixes => hmixes.exists_key hcheck⟩
  by_cases hasked : (f.fields.entries.any fun e => e.2 && e.1 != c.primaryKey) = true
  · rw [if_pos hasked] at hmode
    cases hmode
    rw [uniform_inclusion_iff, not_iff_not]
    constructor
    · rintro ⟨hincluded, hexcluded⟩
      exact ⟨any_asked_iff.1 hasked, hincluded, hexcluded⟩
    · intro hmixes
      exact ⟨hmixes.included, hmixes.excluded⟩
  · rw [if_neg hasked] at hmode
    have hnone : ¬ Mixes c f.fields := fun hmixes => hasked (any_asked_iff.2 hmixes.asked)
    refine iff_of_true ⟨false, fun e he _ => ?_⟩ hnone
    by_cases hempty : (exclusion c f.fields).isEmpty = true
    · rw [if_pos hempty] at hmode
      cases hmode
    · rw [if_neg hempty] at hmode
      cases hmode
      exact flag_of_mem_exclusion he

/-- Profiles with a key of their own, whose names are always given and whose ids never. -/
def profiles : Collection := { primaryKey := "key", alwaysIncluded := ["name"], banned := ["id"] }

/-- The mail of a profile, without its id. -/
theorem projection_uniform_iff_mail :
    let f : Filter := { fields := .ofPairs [("id", false), ("mail", true)] }
    ∃ q p, f.toDocument profiles = .ok q ∧ q.projection = some p ∧
      p = [("mail", true), ("name", true)] ∧
      (Uniform profiles p ↔ ¬ Mixes profiles f.fields) ∧
      (Mixes profiles f.fields →
        ∃ e ∈ f.fields, isPrimaryKey e.1 = true ∧ e.1 ≠ profiles.primaryKey) := by
  intro f
  have h : Filter.toDocument { fields := .ofPairs [("id", false), ("mail", true)] } profiles =
      .ok { projection := some [("mail", true), ("name", true)] } := by
    decide +kernel
  exact ⟨_, _, h, rfl, rfl, projection_uniform_iff h rfl⟩

/-- Where the primary key is `_id`, a field `id` may be asked for beside one that is left out. -/
theorem id_projection_mixed :
    ∃ q p, Filter.toDocument { fields := .ofPairs [("id", true), ("name", false)] } {} = .ok q ∧
      q.projection = some p ∧ p = [("id", true), ("name", false)] ∧ ¬ Uniform {} p := by
  have h : Filter.toDocument { fields := .ofPairs [("id", true), ("name", false)] } {} =
      .ok { projection := some [("id", true), ("name", false)] } := by
    decide +kernel
  refine ⟨_, _, h, rfl, rfl, ?_⟩
  rintro ⟨flag, hflag⟩
  have htrue : true = flag := hflag ("id", true) (by decide) (by decide)
  have hfalse : false = flag := hflag ("name", false) (by decide) (by decide)
  exact Bool.false_ne_true (hfalse.trans htrue.symm)

end RestKit.Query
