import Mathlib.Data.List.Forall2
import RestKit.Proofs.Json.Entries
/-!
# Values that are the same

`Json.same` is reflexive and symmetric. Values that are the same have the same shape, so that they
are equally deep, and putting values that are the same at a key of entries that are the same gives
entries that are the same.
-/
namespace RestKit.Json

theorem number_same_refl (n : Number) : n.same n = true := by cases n <;> simp [Number.same]

mutual
theorem same_refl : ∀ v : Json, v.same v = true
  | .null => rfl
  | .bool b => by simp [same]
  | .number n => by simp [same, number_same_refl]
  | .string s => by simp [same]
  | .array xs => by simpa [same] using sameItems_refl xs
  | .object es => by simpa [same] using sameEntries_refl es
theorem sameItems_refl : ∀ xs : List Json, sameItems xs xs = true
  | [] => rfl
  | x :: xs => by simp [sameItems, same_refl x, sameItems_refl xs]
theorem sameEntries_refl : ∀ es : List (String × Json), sameEntries es es = true
  | [] => rfl
  | (k, x) :: es => by simp [sameEntries, same_refl x, sameEntries_refl es]
end

mutual
/-- Values that are the same are equally deep. -/
theorem depth_eq_of_same : ∀ {a b : Json}, a.same b = true → a.depth = b.depth
  | .array xs, .array ys, h => by
    simp only [same] at h
    simp only [depth, depthItems_eq_of_same h]
  | .object es, .object fs, h => by
    simp only [same] at h
    simp only [depth, depthEntries_eq_of_same h]
  | .null, .null, _ | .bool _, .bool _, _ | .number _, .number _, _ | .string _, .string _, _ => rfl
theorem depthItems_eq_of_same :
    ∀ {xs ys : List Json}, sameItems xs ys = true → depthItems xs = depthItems ys
  | [], [], _ => rfl
  | x :: xs, y :: ys, h => by
    simp only [sameItems, Bool.and_eq_true] at h
    simp only [depthItems, depth_eq_of_same h.1, depthItems_eq_of_same h.2]
theorem depthEntries_eq_of_same :
    ∀ {es fs : List (String × Json)}, sameEntries es fs = true → depthEntries es = depthEntries fs
  | [], [], _ => rfl
  | (_, x) :: es, (_, y) :: fs, h => by
    simp only [sameEntries, Bool.and_eq_true] at h
    simp only [depthEntries, depth_eq_of_same h.1.2, depthEntries_eq_of_same h.2]
end

/-! ## Symmetry -/

theorem number_same_symm {m n : Number} (h : m.same n = true) : n.same m = true := by
  cases m with
  | int a =>
    cases n with
    | int b =>
      simp only [Number.same, beq_iff_eq] at h ⊢
      exact h.symm
    | double y => cases h
  | double x =>
    cases n with
    | int b => cases h
    | double y =>
      simp only [Number.same, Bool.or_eq_true, beq_iff_eq] at h ⊢
      refine h.imp Eq.symm fun h => ?_
      cases x <;> cases y <;> simp_all [Double.eq]

mutual
theorem same_symm : ∀ {a b : Json}, a.same b = true → b.same a = true
  | .null, .null, _ => rfl
  | .bool _, .bool _, h | .string _, .string _, h => by
    simp only [same, beq_iff_eq] at h ⊢
    exact h.symm
  | .number _, .number _, h => number_same_symm h
  | .array xs, .array ys, h => @sameItems_symm xs ys h
  | .object es, .object fs, h => @sameEntries_symm es fs h
theorem sameItems_symm : ∀ {xs ys : List Json}, sameItems xs ys = true → sameItems ys xs = true
  | [], [], _ => rfl
  | x :: xs, y :: ys, h => by
    simp only [sameItems, Bool.and_eq_true] at h ⊢
    exact ⟨same_symm h.1, sameItems_symm h.2⟩
theorem sameEntries_symm : ∀ {es fs : List (String × Json)},
    sameEntries es fs = true → sameEntries fs es = true
  | [], [], _ => rfl
  | (_, x) :: es, (_, y) :: fs, h => by
    simp only [sameEntries, Bool.and_eq_true, beq_iff_eq] at h ⊢
    exact ⟨⟨h.1.1.symm, same_symm h.1.2⟩, sameEntries_symm h.2⟩
end

/-! ## Entries -/

/-- Entries of one key, with values that are related. -/
def EntryRel {α β : Type} (R : α → β → Prop) (e : String × α) (f : String × β) : Prop :=
  e.1 = f.1 ∧ R e.2 f.2

/-- Sameness of values as a relation. -/
abbrev Same (a b : Json) : Prop := a.same b = true

theorem sameItems_iff {xs ys : List Json} :
    sameItems xs ys = true ↔ List.Forall₂ Same xs ys := by
  induction xs generalizing ys with
  | nil => cases ys <;> simp [sameItems]
  | cons x xs ih => cases ys <;> simp [sameItems, ih]

theorem sameEntries_iff {es fs : List (String × Json)} :
    sameEntries es fs = true ↔ List.Forall₂ (EntryRel Same) es fs := by
  induction es generalizing fs with
  | nil => cases fs <;> simp [sameEntries]
  | cons e es ih => cases fs <;> simp [sameEntries, ih, EntryRel]

variable {α β : Type}

/-- Where entries are related one by one, what is found at a key is. -/
theorem lookup_rel {R : String → α → β → Prop} {es : List (String × α)} {fs : List (String × β)}
    (h : List.Forall₂ (fun e f => e.1 = f.1 ∧ R e.1 e.2 f.2) es fs) (k : String) :
    Option.Rel (R k) (lookup es k) (lookup fs k) := by
  induction h with
  | nil => exact .none
  | @cons e f es fs hef _ ih =>
    obtain ⟨l, x⟩ := e
    obtain ⟨m, y⟩ := f
    obtain ⟨hk, hxy⟩ := hef
    simp only at hk hxy
    subst hk
    rw [lookup_cons, lookup_cons]
    by_cases hl : l = k
    · subst hl
      simpa using Option.Rel.some hxy
    · simpa [hl] using ih

theorem keys_eq_of_rel {R : String × α → String × β → Prop} {es : List (String × α)}
    {fs : List (String × β)} (h : List.Forall₂ R es fs) (hkey : ∀ e f, R e f → e.1 = f.1) :
    fs.map (·.1) = es.map (·.1) := by
  induction h with
  | nil => rfl
  | cons hef _ ih => rw [List.map_cons, List.map_cons, hkey _ _ hef, ih]

theorem exists_lookup_of_rel {R : String → α → β → Prop} {es : List (String × α)}
    {fs : List (String × β)} {k : String} {x : α}
    (h : List.Forall₂ (fun e f => e.1 = f.1 ∧ R e.1 e.2 f.2) es fs) (hx : lookup es k = some x) :
    ∃ y, lookup fs k = some y ∧ R k x y := by
  have hrel := lookup_rel h k
  rw [hx] at hrel
  generalize lookup fs k = found at hrel
  cases hrel with
  | some h => exact ⟨_, rfl, h⟩

variable {R : α → β → Prop}

theorem forall₂_insert {es : List (String × α)} {fs : List (String × β)}
    (h : List.Forall₂ (EntryRel R) es fs) {k : String} {x : α} {y : β} (hxy : R x y) :
    List.Forall₂ (EntryRel R) (insert es k x) (insert fs k y) := by
  induction h with
  | nil => exact .cons ⟨rfl, hxy⟩ .nil
  | @cons e f es fs hef hes ih =>
    obtain ⟨l, u⟩ := e
    obtain ⟨m, v⟩ := f
    obtain ⟨hk, huv⟩ := hef
    simp only at hk
    subst hk
    simp only [insert]
    split
    · exact .cons ⟨rfl, hxy⟩ (.cons ⟨rfl, huv⟩ hes)
    · split
      · exact .cons ⟨rfl, hxy⟩ hes
      · exact .cons ⟨rfl, huv⟩ ih

/-- Pairs that are related one by one give related entries. -/
theorem forall₂_entriesOf {ps : List (String × α)} {qs : List (String × β)}
    (h : List.Forall₂ (EntryRel R) ps qs) :
    List.Forall₂ (EntryRel R) (entriesOf ps) (entriesOf qs) := by
  have hfold : ∀ {es : List (String × α)} {fs : List (String × β)},
      List.Forall₂ (EntryRel R) es fs →
        List.Forall₂ (EntryRel R) (ps.foldl (fun es p => insert es p.1 p.2) es)
          (qs.foldl (fun es p => insert es p.1 p.2) fs) := by
    induction h with
    | nil => exact id
    | @cons p q ps qs hpq _ ih =>
      intro es fs hes
      simp only [List.foldl_cons]
      refine ih ?_
      rw [hpq.1]
      exact forall₂_insert hes hpq.2
  exact hfold .nil

end RestKit.Json
