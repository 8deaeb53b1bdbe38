import RestKit.Proofs.Json.Entries
import RestKit.Proofs.Json.Inside
import RestKit.Proofs.Json.Same
/-!
# Objects in key order

`v.Ordered` says that every object inside `v` is in key order. Two lists in key order agree entry by
entry as soon as each entry of one has its counterpart in the other (`forall₂_of_keyOrdered`), and
are the same if `Json.lookup` finds the same in both. So laws of entries put over others
(`overlaid`) are laws of what is found, and so are those of a `Dict`.
-/
namespace RestKit.Json

variable {α β : Type}

/-- Order of keys does not look at the values. -/
theorem keyOrdered_map {g : String × α → String × β} (hg : ∀ e, (g e).1 = e.1)
    {es : List (String × α)} : KeyOrdered (es.map g) ↔ KeyOrdered es := by
  simp only [KeyOrdered, List.pairwise_map, hg]

/-- A key of entries in order holds one value. -/
theorem KeyOrdered.value_unique {es : List (String × α)} (h : KeyOrdered es) {k : String}
    {u v : α} (hu : (k, u) ∈ es) (hv : (k, v) ∈ es) : u = v := by
  induction es with
  | nil => cases hu
  | cons e es ih =>
    rcases List.mem_cons.1 hu with rfl | hu'
    · rcases List.mem_cons.1 hv with hv' | hv'
      · exact (Prod.mk.inj hv').2.symm
      · exact absurd (h.head_lt _ hv') (String.lt_irrefl _)
    · rcases List.mem_cons.1 hv with rfl | hv'
      · exact absurd (h.head_lt _ hu') (String.lt_irrefl _)
      · exact ih h.tail hu' hv'

theorem KeyOrdered.lookup_eq_some {es : List (String × α)} (h : KeyOrdered es) {k : String}
    {v : α} : lookup es k = some v ↔ (k, v) ∈ es := by
  refine ⟨mem_of_lookup, fun hv => ?_⟩
  induction es with
  | nil => cases hv
  | cons e es ih =>
    rw [lookup_cons]
    rcases List.mem_cons.1 hv with rfl | hv'
    · exact if_pos rfl
    · have hlt : e.1 < k := h.head_lt _ hv'
      have hne : e.1 ≠ k := by
        intro he
        rw [he] at hlt
        exact String.lt_irrefl k hlt
      rw [if_neg hne, ih h.tail hv']

/-- Of entries that keep their keys each one comes from the entry of its key. -/
theorem mem_filterMap_key {g : String × α → Option (String × β)} {es : List (String × α)}
    (hg : ∀ e f, g e = some f → f.1 = e.1) {k : String} {u : β} :
    (k, u) ∈ es.filterMap g ↔ ∃ v, (k, v) ∈ es ∧ g (k, v) = some (k, u) := by
  rw [List.mem_filterMap]
  constructor
  · rintro ⟨⟨l, v⟩, he, hgiven⟩
    obtain rfl : k = l := hg _ _ hgiven
    exact ⟨v, he, hgiven⟩
  · rintro ⟨v, he, hgiven⟩
    exact ⟨_, he, hgiven⟩

/-- Entries that keep their keys stay in order, whichever are left out. -/
theorem KeyOrdered.filterMap {g : String × α → Option (String × β)} {es : List (String × α)}
    (h : KeyOrdered es) (hg : ∀ e f, g e = some f → f.1 = e.1) : KeyOrdered (es.filterMap g) := by
  refine List.pairwise_filterMap.2 (h.imp fun {e f} hlt e' he' f' hf' => ?_)
  rw [hg e e' he', hg f f' hf']
  exact hlt

/-- What is found at a key comes from what was found there. -/
theorem KeyOrdered.lookup_filterMap {g : String × α → Option (String × β)}
    {es : List (String × α)} (h : KeyOrdered es) (hg : ∀ e f, g e = some f → f.1 = e.1)
    (k : String) :
    lookup (es.filterMap g) k = (lookup es k).bind fun v => (g (k, v)).map (·.2) := by
  ext u
  rw [(h.filterMap hg).lookup_eq_some, mem_filterMap_key hg]
  simp only [Option.bind_eq_some_iff, h.lookup_eq_some, Option.map_eq_some_iff]
  refine exists_congr fun v => and_congr_right fun _ => ⟨fun hu => ⟨_, hu, rfl⟩, ?_⟩
  rintro ⟨⟨l, u⟩, hu, rfl⟩
  rw [hu, show l = k from hg _ _ hu]

/-- The key of the first entry is the key of no other. -/
theorem KeyOrdered.lookup_tail {k : String} {v : α} {es : List (String × α)}
    (h : KeyOrdered ((k, v) :: es)) : lookup es k = none := by
  refine Option.eq_none_iff_forall_not_mem.2 fun u hu => ?_
  exact String.lt_irrefl k (h.head_lt _ (mem_of_lookup hu))

/-- What a filter of the values leaves at a key is what was there, if it is left at all. -/
theorem KeyOrdered.lookup_filter {es : List (String × α)} (h : KeyOrdered es) (p : α → Bool)
    (k : String) : lookup (es.filter fun e => p e.2) k = (lookup es k).filter p := by
  induction es with
  | nil => rfl
  | cons e es ih =>
    obtain ⟨l, v⟩ := e
    have hrest := ih h.tail
    rw [lookup_cons]
    by_cases hl : l = k
    · subst hl
      rw [h.lookup_tail] at hrest
      cases hp : p v <;> simp [hp, hrest, lookup_cons, Option.filter_some]
    · rw [if_neg hl, ← hrest]
      cases hp : p v <;> simp [hp, lookup_cons, hl]

/-- Entries that have each other's first keys begin with the same one, the least. -/
theorem KeyOrdered.head_key_eq {k l : String} {x x' : α} {y z : β} {es : List (String × α)}
    {fs : List (String × β)} (hes : KeyOrdered ((k, x) :: es)) (hfs : KeyOrdered ((l, z) :: fs))
    (hk : (k, y) ∈ (l, z) :: fs) (hl : (l, x') ∈ (k, x) :: es) : k = l := by
  rcases List.mem_cons.1 hk with hk | hk
  · exact (Prod.mk.inj hk).1
  · rcases List.mem_cons.1 hl with hl | hl
    · exact (Prod.mk.inj hl).1.symm
    · exact absurd (hes.head_lt _ hl) (String.lt_asymm (hfs.head_lt _ hk))

/-- Entries in order agree one by one if each has its counterpart. -/
theorem forall₂_of_keyOrdered {R : α → β → Prop} {es : List (String × α)}
    {fs : List (String × β)} (hes : KeyOrdered es) (hfs : KeyOrdered fs)
    (h : ∀ k x, (k, x) ∈ es → ∃ y, (k, y) ∈ fs ∧ R x y)
    (hkeys : ∀ k y, (k, y) ∈ fs → ∃ x, (k, x) ∈ es) :
    List.Forall₂ (EntryRel R) es fs := by
  induction es generalizing fs with
  | nil =>
    cases fs with
    | nil => exact .nil
    | cons f fs =>
      obtain ⟨x, hx⟩ := hkeys f.1 f.2 (List.mem_cons_self ..)
      cases hx
  | cons e es ih =>
    obtain ⟨k, x⟩ := e
    obtain ⟨y, hy, hxy⟩ := h k x (List.mem_cons_self ..)
    cases fs with
    | nil => cases hy
    | cons f fs =>
      obtain ⟨l, z⟩ := f
      obtain ⟨x', hx'⟩ := hkeys l z (List.mem_cons_self ..)
      obtain rfl : k = l := hes.head_key_eq hfs hy hx'
      have hyz : y = z := hfs.value_unique hy (List.mem_cons_self ..)
      subst hyz
      refine .cons ⟨rfl, hxy⟩ (ih hes.tail hfs.tail ?_ ?_)
      · intro k' x' hx'
        obtain ⟨y', hy', hxy'⟩ := h k' x' (List.mem_cons_of_mem _ hx')
        rcases List.mem_cons.1 hy' with heq | hy'
        · cases heq
          exact absurd (hes.head_lt _ hx') (String.lt_irrefl _)
        · exact ⟨y', hy', hxy'⟩
      · intro k' y' hy'
        obtain ⟨x', hx'⟩ := hkeys k' y' (List.mem_cons_of_mem _ hy')
        rcases List.mem_cons.1 hx' with heq | hx'
        · cases heq
          exact absurd (hfs.head_lt _ hy') (String.lt_irrefl _)
        · exact ⟨x', hx'⟩

/-- Entries in order are the same if the same is found at every key. -/
theorem KeyOrdered.ext {es fs : List (String × α)} (hes : KeyOrdered es) (hfs : KeyOrdered fs)
    (h : ∀ k, lookup es k = lookup fs k) : es = fs := by
  have hmem : ∀ k x, (k, x) ∈ es ↔ (k, x) ∈ fs := by
    intro k x
    rw [← hes.lookup_eq_some, ← hfs.lookup_eq_some, h k]
  have hall : List.Forall₂ (EntryRel Eq) es fs :=
    forall₂_of_keyOrdered hes hfs (fun k x hx => ⟨x, (hmem k x).1 hx, rfl⟩)
      (fun k y hy => ⟨y, (hmem k y).2 hy⟩)
  exact List.forall₂_eq_eq_eq ▸ hall.imp fun _ _ he => Prod.ext he.1 he.2

/-- What is put over others is found first. -/
theorem KeyOrdered.lookup_overlaid {ys : List (String × α)} (h : KeyOrdered ys)
    (xs : List (String × α)) (k : String) :
    lookup (Json.overlaid xs ys) k = (lookup ys k).or (lookup xs k) := by
  induction ys generalizing xs with
  | nil => rfl
  | cons y ys ih =>
    obtain ⟨l, v⟩ := y
    have hstep : lookup (Json.overlaid xs ((l, v) :: ys)) k =
        (lookup ys k).or (lookup (Json.insert xs l v) k) := ih h.tail _
    rw [hstep, lookup_insert, lookup_cons]
    by_cases hl : l = k
    · subst hl
      simp [h.lookup_tail]
    · simp [hl]

/-- To put entries over others is associative. -/
theorem KeyOrdered.overlaid_assoc {xs ys zs : List (String × α)} (hx : KeyOrdered xs)
    (hy : KeyOrdered ys) (hz : KeyOrdered zs) :
    Json.overlaid (Json.overlaid xs ys) zs = Json.overlaid xs (Json.overlaid ys zs) := by
  refine ((hx.overlaid ys).overlaid zs).ext (hx.overlaid _) fun k => ?_
  rw [hz.lookup_overlaid, hy.lookup_overlaid, (hy.overlaid zs).lookup_overlaid,
    hz.lookup_overlaid, Option.or_assoc]

theorem KeyOrdered.overlaid_nil_left {ys : List (String × α)} (h : KeyOrdered ys) :
    Json.overlaid [] ys = ys := by
  refine (keyOrdered_nil.overlaid ys).ext h fun k => ?_
  rw [h.lookup_overlaid]
  exact Option.or_none

/-- One value put at some names over entries in order. -/
theorem KeyOrdered.lookup_entriesOf_names {es : List (String × α)} (h : KeyOrdered es)
    (names : List String) (v : α) (k : String) :
    lookup (entriesOf (es ++ names.map fun name => (name, v))) k =
      if k ∈ names then some v else lookup es k := by
  have hover : ∀ fs : List (String × α), lookup (Json.overlaid fs (names.map fun n => (n, v))) k =
      if k ∈ names then some v else lookup fs k := by
    induction names with
    | nil => exact fun fs => (if_neg List.not_mem_nil).symm
    | cons name names ih =>
      intro fs
      have hstep : lookup (Json.overlaid fs ((name :: names).map fun n => (n, v))) k =
          if k ∈ names then some v else lookup (Json.insert fs name v) k := ih _
      rw [hstep, lookup_insert]
      by_cases hk : k ∈ names
      · rw [if_pos hk, if_pos (List.mem_cons_of_mem _ hk)]
      · by_cases hname : name = k
        · simp [hk, hname]
        · simp [hk, hname, Ne.symm hname]
  have happend : entriesOf (es ++ names.map fun name => (name, v)) =
      Json.overlaid (Json.overlaid [] es) (names.map fun name => (name, v)) := List.foldl_append
  rw [happend, h.overlaid_nil_left, hover]

/-! ## Values -/

/-- Every object in the value, at any depth, is in key order. Values that are read or built with
`Json.insert` are so. -/
def Ordered (v : Json) : Prop := ∀ es, (Json.object es).Within v → KeyOrdered es

theorem ordered_object {es : List (String × Json)} :
    (Json.object es).Ordered ↔ KeyOrdered es ∧ ∀ e ∈ es, e.2.Ordered := by
  simp only [Ordered, within_object]
  constructor
  · intro h
    exact ⟨h es (Or.inl rfl), fun e he fs hfs => h fs (Or.inr ⟨e, he, hfs⟩)⟩
  · rintro ⟨hes, h⟩ fs (heq | ⟨e, he, hfs⟩)
    · cases heq
      exact hes
    · exact h e he fs hfs

theorem ordered_array {xs : List Json} : (Json.array xs).Ordered ↔ ∀ x ∈ xs, x.Ordered := by
  simp only [Ordered, within_array]
  constructor
  · intro h x hx fs hfs
    exact h fs (Or.inr ⟨x, hx, hfs⟩)
  · rintro h fs (heq | ⟨x, hx, hfs⟩)
    · cases heq
    · exact h x hx fs hfs

end RestKit.Json

namespace RestKit.Dict

variable {α : Type} {d d' : Dict α} {e : String × α} {k : String} {v : α}

theorem get?_eq_some : d.get? k = some v ↔ (k, v) ∈ d := d.ordered.lookup_eq_some

theorem get?_insert {l : String} :
    (d.insert k v).get? l = if k = l then some v else d.get? l := Json.lookup_insert

theorem mem_of_mem_insert (h : e ∈ d.insert k v) : e = (k, v) ∨ e ∈ d := Json.mem_of_mem_insert h

theorem mem_of_mem_ofPairs {ps : List (String × α)} (h : e ∈ ofPairs ps) : e ∈ ps :=
  Json.mem_of_mem_entriesOf h

/-- No key stands twice. -/
theorem nodup_keys (d : Dict α) : d.keys.Nodup := by
  rw [keys, List.Nodup, List.pairwise_map]
  refine d.ordered.imp fun hlt heq => ?_
  rw [heq] at hlt
  exact String.lt_irrefl _ hlt

theorem mem_keys_of_mem (h : e ∈ d) : e.1 ∈ d.keys := List.mem_map_of_mem h

/-- A map is the map of its entries. -/
theorem ofPairs_entries (d : Dict α) : ofPairs d.entries = d :=
  Dict.ext d.ordered.overlaid_nil_left

theorem isEmpty_iff : d.isEmpty = true ↔ d = {} := by
  rw [isEmpty, List.isEmpty_iff, Dict.ext_iff]
  rfl

/-- A map with entries put over its own. -/
def overlaid (d : Dict α) (ps : List (String × α)) : Dict α :=
  ⟨Json.overlaid d.entries ps, d.ordered.overlaid ps⟩

theorem get?_overlaid (d d' : Dict α) (k : String) :
    (d.overlaid d'.entries).get? k = (d'.get? k).or (d.get? k) :=
  d'.ordered.lookup_overlaid d.entries k

theorem overlaid_assoc (d₁ d₂ d₃ : Dict α) :
    (d₁.overlaid d₂.entries).overlaid d₃.entries =
      d₁.overlaid (d₂.overlaid d₃.entries).entries :=
  Dict.ext (d₁.ordered.overlaid_assoc d₂.ordered d₃.ordered)

theorem empty_overlaid (d : Dict α) : ({} : Dict α).overlaid d.entries = d :=
  Dict.ext d.ordered.overlaid_nil_left

/-- What a filter of the values leaves at a key is what was there, if it is left at all. -/
theorem get?_filter (keep : α → Bool) (k : String) :
    (d.filter fun p => keep p.2).get? k = (d.get? k).filter keep :=
  d.ordered.lookup_filter keep k

end RestKit.Dict
