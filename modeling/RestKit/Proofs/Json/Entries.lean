import RestKit.Dict
import RestKit.Proofs.Keyed
/-!
# Entries of objects

What `Json.insert` and `Json.entriesOf` keep: every entry of the result was put there, and what was
put at a key is found there. What `Json.lookup` finds is an entry.
-/
namespace RestKit.Json

variable {α β : Type}

theorem mem_of_mem_foldl_insert {e : String × α} {ps es : List (String × α)}
    (h : e ∈ ps.foldl (fun es (k, v) => insert es k v) es) : e ∈ ps ∨ e ∈ es := by
  induction ps generalizing es with
  | nil => exact Or.inr h
  | cons p ps ih =>
    rcases ih h with h | h
    · exact Or.inl (List.mem_cons_of_mem _ h)
    · exact (mem_of_mem_insert h).imp (fun h => by simp [h]) id

/-- An object has no entries but the ones it was made of. -/
theorem mem_of_mem_entriesOf {ps : List (String × α)} {e : String × α} (h : e ∈ entriesOf ps) :
    e ∈ ps := by
  rcases mem_of_mem_foldl_insert h with h | h
  · exact h
  · cases h

theorem mem_of_lookup {es : List (String × α)} {k : String} {v : α} (h : lookup es k = some v) :
    (k, v) ∈ es := by
  obtain ⟨e, he, rfl⟩ := Option.map_eq_some_iff.1 h
  have hk : e.1 = k := by simpa using List.find?_some he
  rw [← hk]
  exact List.mem_of_find?_eq_some he

theorem lookup_cons {k l : String} {v : α} {es : List (String × α)} :
    lookup ((k, v) :: es) l = if k = l then some v else lookup es l := by
  by_cases h : k = l <;> simp [lookup, h]

/-- What a filter of the keys leaves at a key is what was there, or nothing. -/
theorem lookup_filter_key (p : String → Bool) (es : List (String × α)) (k : String) :
    lookup (es.filter fun e => p e.1) k = if p k then lookup es k else none := by
  induction es with
  | nil => simp [lookup]
  | cons e es ih =>
    obtain ⟨l, v⟩ := e
    rw [List.filter_cons, lookup_cons]
    by_cases hlk : l = k
    · subst hlk
      by_cases hl : p l = true
      · simp [hl, lookup_cons]
      · simp [hl, ih]
    · by_cases hl : p l = true
      · simp [hl, lookup_cons, hlk, ih]
      · simp [hl, hlk, ih]

/-- With distinct keys each pair is found. -/
theorem lookup_of_nodup {es : List (String × α)} {k : String} {v : α}
    (hnodup : (es.map (·.1)).Nodup) (hmem : (k, v) ∈ es) : lookup es k = some v := by
  rw [lookup, (find?_key_eq_some hnodup).2 ⟨hmem, rfl⟩]
  rfl

theorem lookup_concat {k l : String} {v : α} {es : List (String × α)}
    (h : lookup es k = none) (hne : k ≠ l) : lookup (es ++ [(l, v)]) k = none := by
  rw [lookup, Option.map_eq_none_iff] at h ⊢
  rw [List.find?_append, h, Option.none_or, List.find?_cons_of_neg, List.find?_nil]
  simpa using hne.symm

/-- What was put at a key is found there, and nothing else has changed. -/
theorem lookup_insert {k l : String} {v : α} {es : List (String × α)} :
    lookup (insert es k v) l = if k = l then some v else lookup es l := by
  induction es with
  | nil => rw [insert, lookup_cons]
  | cons e rest ih =>
    obtain ⟨m, u⟩ := e
    simp only [insert]
    split
    · rw [lookup_cons]
    · split
      · rename_i heq
        subst heq
        simp only [lookup_cons]
        split <;> rfl
      · rename_i hne
        rw [lookup_cons, ih, lookup_cons]
        by_cases hk : k = l
        · rw [if_pos hk, if_pos hk, if_neg (fun hm => hne (hk.trans hm.symm))]
        · rw [if_neg hk, if_neg hk]

theorem mem_insert_self {k : String} {v : α} {es : List (String × α)} : (k, v) ∈ insert es k v :=
  mem_of_lookup (lookup_insert.trans (if_pos rfl))

theorem mem_insert_of_ne {k : String} {v : α} {e : String × α} {es : List (String × α)}
    (h : e ∈ es) (hne : e.1 ≠ k) : e ∈ insert es k v := by
  induction es with
  | nil => cases h
  | cons f rest ih =>
    obtain ⟨l, u⟩ := f
    simp only [insert]
    split
    · exact List.mem_cons_of_mem _ h
    · split
      · rename_i heq
        rcases List.mem_cons.1 h with rfl | h
        · exact absurd heq.symm hne
        · exact List.mem_cons_of_mem _ h
      · rcases List.mem_cons.1 h with rfl | h
        · exact List.mem_cons_self ..
        · exact List.mem_cons_of_mem _ (ih h)

/-- A pair is kept if no other one has its key. -/
theorem mem_entriesOf {ps : List (String × α)} {e : String × α}
    (h : ∀ p ∈ ps, p.1 = e.1 → p = e) : e ∈ entriesOf ps ↔ e ∈ ps := by
  have hfold : ∀ (ps es : List (String × α)), (∀ p ∈ ps, p.1 = e.1 → p = e) →
      e ∈ ps ∨ e ∈ es → e ∈ ps.foldl (fun es (k, v) => insert es k v) es := by
    intro ps
    induction ps with
    | nil =>
      rintro es - (h | h)
      · cases h
      · exact h
    | cons p ps ih =>
      intro es hps h
      refine ih _ (fun q hq => hps q (List.mem_cons_of_mem _ hq)) ?_
      by_cases hk : p.1 = e.1
      · exact Or.inr (hps p (List.mem_cons_self ..) hk ▸ mem_insert_self)
      · rcases h with h | h
        · rcases List.mem_cons.1 h with rfl | h
          · exact absurd rfl hk
          · exact Or.inl h
        · exact Or.inr (mem_insert_of_ne h (Ne.symm hk))
  exact ⟨mem_of_mem_entriesOf, fun he => hfold ps [] h (Or.inl he)⟩

/-- The values of entries changed, each as its key says. -/
def mapValues (f : String → α → β) (es : List (String × α)) : List (String × β) :=
  es.map fun e => (e.1, f e.1 e.2)

theorem lookup_mapValues (f : String → α → β) (es : List (String × α)) (k : String) :
    lookup (mapValues f es) k = (lookup es k).map (f k) := by
  induction es with
  | nil => rfl
  | cons e es ih =>
    obtain ⟨l, v⟩ := e
    rw [mapValues, List.map_cons, lookup_cons, lookup_cons, ← mapValues, ih]
    by_cases h : l = k
    · rw [if_pos h, if_pos h, h]
      rfl
    · rw [if_neg h, if_neg h]

theorem insert_mapValues (f : String → α → β) (k : String) (v : α) (es : List (String × α)) :
    insert (mapValues f es) k (f k v) = mapValues f (insert es k v) := by
  induction es with
  | nil => rfl
  | cons e rest ih =>
    simp only [mapValues, List.map_cons, insert] at ih ⊢
    split
    · rfl
    · split
      · rfl
      · rw [ih]; rfl

theorem foldl_insert_mapValues (f : String → α → β) (ps es : List (String × α)) :
    (mapValues f ps).foldl (fun es (k, v) => insert es k v) (mapValues f es) =
      mapValues f (ps.foldl (fun es (k, v) => insert es k v) es) := by
  induction ps generalizing es with
  | nil => rfl
  | cons p ps ih =>
    rw [List.foldl_cons, ← ih, ← insert_mapValues]
    rfl

/-- Values can be changed before or after the entries are put in order. -/
theorem entriesOf_mapValues (f : String → α → β) (ps : List (String × α)) :
    entriesOf (mapValues f ps) = mapValues f (entriesOf ps) :=
  foldl_insert_mapValues f ps []

end RestKit.Json
