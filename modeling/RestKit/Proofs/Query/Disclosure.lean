import RestKit.Proofs.Query.Projection
import Mathlib.Data.Fintype.EquivFin
/-!
# What a projection gives away

A store gives the fields that a projection includes, or else all that it does not exclude
(`Collection.Gives`). An inclusion stays within what was asked for, what is always given and the
primary key; a caller who asks for the primary key alone gets no inclusion, though, and with it all
fields that are not banned (`asked_only_iff`). What is banned is never given, whatever the caller
names (`banned_never_given`).
-/
namespace RestKit.Query

variable {c : Collection} {fields : Dict Bool} {p : List (String × Bool)} {e : String × Bool}
  {k : String} {f : Filter} {q : DocumentQuery}

/-- Whether a store gives a field of a document: any field without a projection; under one that
includes some, those and the primary key, unless it is left out; else all that are not excluded. -/
def Collection.Gives (c : Collection) (projection : Option (List (String × Bool)))
    (k : String) : Prop :=
  match projection with
  | none => True
  | some p =>
    if p.any (·.2) then
      Json.lookup p k = some true ∨ k = c.primaryKey ∧ Json.lookup p k = none
    else Json.lookup p k ≠ some false

/-- The names that an inclusion may show: those asked for, those always given, the primary key. -/
def Collection.Admits (c : Collection) (fields : Dict Bool) (k : String) : Prop :=
  k ∈ fields.keys ∨ k ∈ c.alwaysIncluded ∨ k = c.primaryKey

/-- Some field is asked for besides the primary key. -/
def Collection.AsksOther (c : Collection) (fields : Dict Bool) : Prop :=
  ∃ e ∈ fields, e.1 ≠ c.primaryKey

/-! ## Inclusions -/

theorem admits_of_mem_inclusion (h : e ∈ inclusion c fields) : c.Admits fields e.1 := by
  rcases mem_inclusion h with h | h | h
  · exact .inl (Dict.mem_keys_of_mem h)
  · exact .inr (.inl h)
  · exact .inr (.inr h)

/-- Every inclusion includes a field, be it the primary key that it collapses to. -/
theorem inclusion_any_included (c : Collection) (fields : Dict Bool) :
    (inclusion c fields).any (·.2) = true := by
  unfold inclusion
  dsimp only
  split
  · rename_i hany
    obtain ⟨e, he, hflag⟩ := List.any_eq_true.1 hany
    rw [Bool.and_eq_true] at hflag
    exact List.any_eq_true.2 ⟨e, he, hflag.1⟩
  · rfl

theorem keyOrdered_inclusion (c : Collection) (fields : Dict Bool) :
    Json.KeyOrdered (inclusion c fields) := by
  unfold inclusion
  dsimp only
  split
  · exact Json.keyOrdered_entriesOf _
  · exact List.pairwise_singleton ..

theorem exists_included (c : Collection) (fields : Dict Bool) :
    ∃ k, Json.lookup (inclusion c fields) k = some true := by
  obtain ⟨⟨k, b⟩, he, rfl⟩ := List.any_eq_true.1 (inclusion_any_included c fields)
  exact ⟨k, (keyOrdered_inclusion c fields).lookup_eq_some.2 he⟩

/-- The only banned field that an inclusion may name is the primary key. -/
theorem eq_primaryKey_of_mem_inclusion (h : e ∈ inclusion c fields) (hbanned : e.1 ∈ c.banned) :
    e.1 = c.primaryKey := by
  unfold inclusion at h
  dsimp only at h
  split at h
  · rcases List.mem_append.1 (Json.mem_of_mem_entriesOf h) with h | h
    · have hkept := (List.mem_filter.1 h).2
      simp [hbanned] at hkept
    · obtain ⟨name, hname, rfl⟩ := List.mem_map.1 h
      have hkept := (List.mem_filter.1 hname).2
      simp [hbanned] at hkept
  · rw [List.mem_singleton.1 h]

theorem not_included_of_inclusion (hkey : c.primaryKey ∉ c.banned) (h : k ∈ c.banned) :
    Json.lookup (inclusion c fields) k ≠ some true := by
  intro hfound
  have heq : k = c.primaryKey := eq_primaryKey_of_mem_inclusion (Json.mem_of_lookup hfound) h
  exact hkey (heq ▸ h)

/-- An inclusion gives no others than it may show. -/
theorem admits_of_gives_inclusion (h : c.Gives (some (inclusion c fields)) k) :
    c.Admits fields k := by
  unfold Collection.Gives at h
  dsimp only at h
  rw [if_pos (inclusion_any_included c fields)] at h
  rcases h with h | ⟨h, -⟩
  · exact admits_of_mem_inclusion (Json.mem_of_lookup h)
  · exact .inr (.inr h)

theorem not_gives_inclusion (hkey : c.primaryKey ∉ c.banned) (h : k ∈ c.banned) :
    ¬ c.Gives (some (inclusion c fields)) k := by
  unfold Collection.Gives
  dsimp only
  rw [if_pos (inclusion_any_included c fields)]
  rintro (hfound | ⟨rfl, -⟩)
  · exact not_included_of_inclusion hkey h hfound
  · exact hkey h

/-! ## Exclusions -/

/-- An exclusion names every banned field, whatever else is said of it. -/
theorem lookup_exclusion (h : k ∈ c.banned) :
    Json.lookup (exclusion c fields) k = some false := by
  have hmem : (k, false) ∈ exclusion c fields := by
    refine (Json.mem_entriesOf fun e he hk => ?_).2
      (List.mem_append_right _ (List.mem_map_of_mem h))
    -- The same name may also be refused, which says the same.
    have hflag : e.2 = false := by
      rcases List.mem_append.1 he with he | he
      · have hrefused := (List.mem_filter.1 he).2
        simp only [Bool.and_eq_true, Bool.not_eq_true'] at hrefused
        exact hrefused.1
      · obtain ⟨name, -, rfl⟩ := List.mem_map.1 he
        rfl
    exact Prod.ext hk hflag
  exact (Json.keyOrdered_entriesOf _).lookup_eq_some.2 hmem

theorem exclusion_none_included (c : Collection) (fields : Dict Bool) :
    (exclusion c fields).any (·.2) = false := by
  rw [List.any_eq_false]
  intro e he
  rw [flag_of_mem_exclusion he]
  exact Bool.false_ne_true

theorem not_included_of_exclusion : Json.lookup (exclusion c fields) k ≠ some true := by
  intro hfound
  cases flag_of_mem_exclusion (Json.mem_of_lookup hfound)

theorem banned_eq_nil_of_exclusion (h : exclusion c fields = []) : c.banned = [] := by
  refine List.eq_nil_iff_forall_not_mem.2 fun k hk => ?_
  have hfound : Json.lookup (exclusion c fields) k = some false := lookup_exclusion hk
  rw [h] at hfound
  cases hfound

/-- Where no field is refused, only banned ones are excluded. -/
theorem banned_ne_nil_of_exclusion (hall : ∀ e ∈ fields, e.2 = true)
    (h : exclusion c fields ≠ []) : c.banned ≠ [] := by
  obtain ⟨e, he⟩ := List.exists_mem_of_ne_nil _ h
  rcases mem_exclusion he with hmem | hmem
  · have hflag := flag_of_mem_exclusion he
    rw [hall e hmem] at hflag
    cases hflag
  · exact List.ne_nil_of_mem hmem

/-- What an exclusion does not name it gives. -/
theorem gives_exclusion (h : k ∉ fields.keys) (hbanned : k ∉ c.banned) :
    c.Gives (some (exclusion c fields)) k := by
  unfold Collection.Gives
  dsimp only
  rw [exclusion_none_included, if_neg Bool.false_ne_true]
  intro hfound
  rcases mem_exclusion (Json.mem_of_lookup hfound) with hmem | hmem
  · exact h (Dict.mem_keys_of_mem hmem)
  · exact hbanned hmem

theorem not_gives_exclusion (h : k ∈ c.banned) : ¬ c.Gives (some (exclusion c fields)) k := by
  unfold Collection.Gives
  dsimp only
  rw [exclusion_none_included, if_neg Bool.false_ne_true]
  exact fun hne => hne (lookup_exclusion h)

/-! ## Either of the two -/

/-- The projection of a query that was translated is an inclusion if fields are asked for, and else
an exclusion, or none where that would be empty. -/
theorem projection_cases (h : f.toDocument c = .ok q) :
    (f.fields.entries.any (fun e => e.2 && e.1 != c.primaryKey) = true ∧
      q.projection = some (inclusion c f.fields)) ∨
    f.fields.entries.any (fun e => e.2 && e.1 != c.primaryKey) = false ∧
      (q.projection = some (exclusion c f.fields) ∧ exclusion c f.fields ≠ [] ∨
        q.projection = none ∧ exclusion c f.fields = []) := by
  obtain ⟨-, -, hprojection, -, -⟩ := toDocument_eq_ok.1 h
  obtain ⟨-, -, hmode⟩ := projectionOf_eq_ok.1 hprojection
  by_cases hasked : f.fields.entries.any (fun e => e.2 && e.1 != c.primaryKey) = true
  · rw [if_pos hasked] at hmode
    exact .inl ⟨hasked, hmode.symm⟩
  · rw [if_neg hasked] at hmode
    refine .inr ⟨Bool.eq_false_iff.2 hasked, ?_⟩
    split at hmode
    · rename_i hempty
      exact .inr ⟨hmode.symm, List.isEmpty_iff.1 hempty⟩
    · rename_i hempty
      exact .inl ⟨hmode.symm, mt List.isEmpty_iff.2 hempty⟩

/-- Of fields that are all included, one besides the primary key decides for an inclusion. -/
theorem any_asked_iff_asksOther (hall : ∀ e ∈ fields, e.2 = true) :
    (fields.entries.any fun e => e.2 && e.1 != c.primaryKey) = true ↔ c.AsksOther fields := by
  rw [List.any_eq_true]
  constructor
  · rintro ⟨e, he, hflag⟩
    rw [Bool.and_eq_true, bne_iff_ne] at hflag
    exact ⟨e, he, hflag.2⟩
  · rintro ⟨e, he, hne⟩
    exact ⟨e, he, by rw [Bool.and_eq_true, bne_iff_ne]; exact ⟨hall e he, hne⟩⟩

/-- Where a caller asks for the primary key alone, every field is given that is not banned. -/
theorem gives_of_not_asksOther (hall : ∀ e ∈ f.fields, e.2 = true) (h : f.toDocument c = .ok q)
    (hother : ¬ c.AsksOther f.fields) (hk : k ∉ f.fields.keys) (hbanned : k ∉ c.banned) :
    c.Gives q.projection k := by
  rcases projection_cases h with ⟨hasked, -⟩ | ⟨-, ⟨hp, -⟩ | ⟨hp, -⟩⟩
  · exact absurd ((any_asked_iff_asksOther hall).1 hasked) hother
  · rw [hp]
    exact gives_exclusion hk hbanned
  · rw [hp]
    trivial

/-- There is always a name that stands in no list. -/
theorem exists_name_notMem (names : List String) : ∃ k, k ∉ names := by
  obtain ⟨k, hk⟩ := Infinite.exists_notMem_finset names.toFinset
  exact ⟨k, fun hmem => hk (List.mem_toFinset.2 hmem)⟩

/-- **What is asked for.** Where a caller names fields to be included and none to be left out, the
projection includes only what may be shown exactly if a field is named that is not the primary key,
or else one is banned: else there is no projection. And the store gives only what may be shown
exactly if a field is named that is not the primary key. -/
theorem asked_only_iff (hall : ∀ e ∈ f.fields, e.2 = true) (h : f.toDocument c = .ok q) :
    ((∃ p, q.projection = some p ∧
        ∀ k, Json.lookup p k = some true ∨ k = c.primaryKey → c.Admits f.fields k) ↔
      c.AsksOther f.fields ∨ c.banned ≠ []) ∧
    ((∀ k, c.Gives q.projection k → c.Admits f.fields k) ↔ c.AsksOther f.fields) := by
  have hasked := any_asked_iff_asksOther (c := c) hall
  constructor
  · rcases projection_cases h with ⟨hany, hp⟩ | ⟨hany, ⟨hp, hsome⟩ | ⟨hp, hnil⟩⟩
    · refine iff_of_true ⟨_, hp, ?_⟩ (.inl (hasked.1 hany))
      rintro k (hk | hk)
      · exact admits_of_mem_inclusion (Json.mem_of_lookup hk)
      · exact .inr (.inr hk)
    · refine iff_of_true ⟨_, hp, ?_⟩ (.inr (banned_ne_nil_of_exclusion hall hsome))
      rintro k (hk | hk)
      · exact absurd hk not_included_of_exclusion
      · exact .inr (.inr hk)
    · refine iff_of_false ?_ ?_
      · rintro ⟨p, hsome, -⟩
        rw [hp] at hsome
        cases hsome
      · rintro (hother | hbanned)
        · rw [hasked.2 hother] at hany
          cases hany
        · exact hbanned (banned_eq_nil_of_exclusion hnil)
  · constructor
    · intro hadmits
      by_contra hother
      obtain ⟨k, hk⟩ := exists_name_notMem
        (f.fields.keys ++ c.alwaysIncluded ++ c.banned ++ [c.primaryKey])
      simp only [List.mem_append, List.mem_singleton, not_or] at hk
      obtain ⟨⟨⟨hfield, halways⟩, hbanned⟩, hkey⟩ := hk
      rcases hadmits k (gives_of_not_asksOther hall h hother hfield hbanned) with hk | hk | hk
      · exact hfield hk
      · exact halways hk
      · exact hkey hk
    · intro hother k hgives
      rcases projection_cases h with ⟨-, hp⟩ | ⟨hany, -⟩
      · rw [hp] at hgives
        exact admits_of_gives_inclusion hgives
      · rw [hasked.2 hother] at hany
        cases hany

/-- A profile's mail, and its key; what is banned is asked for as well. -/
theorem asked_only_iff_mail :
    let f : Filter := { fields := .ofPairs [("id", true), ("key", true), ("mail", true)] }
    ∃ q, (∀ e ∈ f.fields, e.2 = true) ∧ f.toDocument profiles = .ok q ∧
      q.projection = some [("key", true), ("mail", true), ("name", true)] ∧
      ((∃ p, q.projection = some p ∧ ∀ k, Json.lookup p k = some true ∨ k = profiles.primaryKey →
          profiles.Admits f.fields k) ↔ profiles.AsksOther f.fields ∨ profiles.banned ≠ []) ∧
      ((∀ k, profiles.Gives q.projection k → profiles.Admits f.fields k) ↔
        profiles.AsksOther f.fields) := by
  intro f
  have hall : ∀ e ∈ f.fields, e.2 = true := by decide
  have h : f.toDocument profiles =
      .ok { projection := some [("key", true), ("mail", true), ("name", true)] } := by
    decide +kernel
  exact ⟨_, hall, h, rfl, asked_only_iff hall h⟩

/-- Who asks for the primary key alone gets every field of the document. -/
theorem primary_key_alone_gives_all :
    ∃ q, Filter.toDocument { fields := .ofPairs [("_id", true)] } {} = .ok q ∧ q.projection = none ∧
      Collection.Gives {} q.projection "password" ∧
      ¬ Collection.Admits {} (.ofPairs [("_id", true)]) "password" := by
  have h : Filter.toDocument { fields := .ofPairs [("_id", true)] } {} = .ok {} := by decide +kernel
  refine ⟨_, h, rfl, trivial, ?_⟩
  unfold Collection.Admits
  decide

/-- **What is banned is never given**, unless it is the primary key. Without a projection nothing is
banned; one that includes some field includes no banned one, and one that includes none excludes
each of them. -/
theorem banned_never_given (hkey : c.primaryKey ∉ c.banned) (h : f.toDocument c = .ok q) :
    (q.projection = none → c.banned = []) ∧
    (∀ p, q.projection = some p →
      ((∃ k, Json.lookup p k = some true) → ∀ k ∈ c.banned, Json.lookup p k ≠ some true) ∧
      ((∀ k, Json.lookup p k ≠ some true) → ∀ k ∈ c.banned, Json.lookup p k = some false)) ∧
    ∀ k ∈ c.banned, ¬ c.Gives q.projection k := by
  rcases projection_cases h with ⟨-, hp⟩ | ⟨-, ⟨hp, -⟩ | ⟨hp, hnil⟩⟩
  · rw [hp]
    refine ⟨nofun, ?_, fun k hk => not_gives_inclusion hkey hk⟩
    rintro p ⟨⟩
    refine ⟨fun _ k hk => not_included_of_inclusion hkey hk, fun hnone => ?_⟩
    obtain ⟨l, hl⟩ := exists_included c f.fields
    exact absurd hl (hnone l)
  · rw [hp]
    refine ⟨nofun, ?_, fun k hk => not_gives_exclusion hk⟩
    rintro p ⟨⟩
    refine ⟨?_, fun _ k hk => lookup_exclusion hk⟩
    rintro ⟨k, hfound⟩
    exact absurd hfound not_included_of_exclusion
  · have hbanned := banned_eq_nil_of_exclusion hnil
    rw [hp, hbanned]
    exact ⟨fun _ => rfl, nofun, nofun⟩

/-- Accounts, whose passwords are never given although they are always included. -/
def accounts : Collection :=
  { alwaysIncluded := ["name", "password"], banned := ["password", "token"] }

/-- An account's mail and password; then all but its token and its name, which stays. -/
theorem banned_never_given_password :
    ∃ q r, accounts.primaryKey ∉ accounts.banned ∧
      Filter.toDocument { fields := .ofPairs [("mail", true), ("password", true)] } accounts =
        .ok q ∧
      q.projection = some [("mail", true), ("name", true)] ∧
      Filter.toDocument { fields := .ofPairs [("name", false), ("token", false)] } accounts =
        .ok r ∧
      r.projection = some [("password", false), ("token", false)] ∧
      (∀ k ∈ accounts.banned, ¬ accounts.Gives q.projection k) ∧
      ∀ k ∈ accounts.banned, ¬ accounts.Gives r.projection k := by
  have hkey : accounts.primaryKey ∉ accounts.banned := by decide
  have hq : Filter.toDocument { fields := .ofPairs [("mail", true), ("password", true)] } accounts =
      .ok { projection := some [("mail", true), ("name", true)] } := by
    decide +kernel
  have hr : Filter.toDocument { fields := .ofPairs [("name", false), ("token", false)] } accounts =
      .ok { projection := some [("password", false), ("token", false)] } := by
    decide +kernel
  exact ⟨_, _, hkey, hq, rfl, hr, rfl, (banned_never_given hkey hq).2.2,
    (banned_never_given hkey hr).2.2⟩

end RestKit.Query
