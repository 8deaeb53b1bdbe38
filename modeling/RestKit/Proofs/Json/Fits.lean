import RestKit.Json.Reader
import RestKit.Proofs.Except
import RestKit.Proofs.Json.Ordered
/-!
# Values that fit a shape

What a value is that was read as a shape. A record holds just its declared fields, each either read
from the field of that name or at its default (`get_of_fit_record`).
-/
namespace RestKit.Json

open Shape

variable {x y v : Json} {s : Shape} {name : String} {default : Option Json}
  {fields : List (String × Shape × Option Json)} {es given all : List (String × Json)}

/-! ## Scalars and lists -/

theorem fit_text : fit .text x = .ok y ↔ ∃ t, x = .string t ∧ y = .string t := by
  cases x <;> simp [fit, peel, isOption, fitNumber, eq_comm]

theorem fit_int64 (h : fit .int64 x = .ok y) :
    ∃ n, y = .int n ∧ -9223372036854775808 ≤ n ∧ n ≤ 9223372036854775807 := by
  cases x with
  | number number =>
    cases number with
    | int n =>
      simp only [fit, peel, fitNumber, fitInt] at h
      split at h
      · rename_i hbounds
        cases h
        exact ⟨n, rfl, hbounds⟩
      · cases h
    | double => simp [fit, peel, fitNumber, fitInt] at h
  | _ => simp [fit, peel, isOption] at h

theorem fitItems_eq_ok {xs ys : List Json} :
    fitItems s xs = .ok ys ↔ List.Forall₂ (fun x y => fit s x = .ok y) xs ys := by
  induction xs generalizing ys with
  | nil => simp [fitItems, eq_comm]
  | cons x xs ih =>
    simp only [fitItems, bind_eq_ok, pure_eq_ok, ih, List.forall₂_cons_left_iff]
    constructor
    · rintro ⟨y, hy, ys', hys, rfl⟩
      exact ⟨y, ys', hy, hys, rfl⟩
    · rintro ⟨y, ys', hy, hys, rfl⟩
      exact ⟨y, hy, ys', hys, rfl⟩

theorem fit_list (h : fit (.list s) x = .ok y) :
    ∃ xs ys, x = .array xs ∧ y = .array ys ∧
      List.Forall₂ (fun x y => fit s x = .ok y) xs ys := by
  cases x with
  | array xs =>
    simp only [fit, peel, map_eq_ok] at h
    obtain ⟨ys, hys, rfl⟩ := h
    exact ⟨xs, ys, rfl, rfl, fitItems_eq_ok.1 hys⟩
  | _ => simp [fit, peel, isOption, fitNumber] at h

/-! ## Records -/

theorem lookup_entriesOf {ps : List (String × Json)} (hnodup : (ps.map (·.1)).Nodup)
    (hmem : (name, y) ∈ ps) : lookup (entriesOf ps) name = some y := by
  rw [(keyOrdered_entriesOf ps).lookup_eq_some, mem_entriesOf]
  · exact hmem
  · rintro ⟨k, z⟩ hp (rfl : k = name)
    have hsame := (lookup_of_nodup hnodup hp).symm.trans (lookup_of_nodup hnodup hmem)
    rw [Option.some.inj hsame]

/-- A declared field is read from the first entry of its name. -/
theorem lookup_fitFields (h : fitFields fields es = .ok given)
    (hfield : lookup fields name = some (s, default)) :
    (∃ x y, lookup es name = some x ∧ fit s x = .ok y ∧ lookup given name = some y) ∨
      (lookup es name = none ∧ lookup given name = none) := by
  induction es generalizing given with
  | nil =>
    cases h
    exact .inr ⟨rfl, rfl⟩
  | cons e es ih =>
    obtain ⟨k, x⟩ := e
    rw [fitFields] at h
    by_cases hk : k = name
    · subst hk
      rw [hfield] at h
      simp only [bind_eq_ok, pure_eq_ok] at h
      obtain ⟨y, hy, given', -, rfl⟩ := h
      exact .inl ⟨x, y, by simp [lookup_cons], hy, by simp [lookup_cons]⟩
    · rw [lookup_cons, if_neg hk]
      split at h
      · simp only [bind_eq_ok, pure_eq_ok] at h
        obtain ⟨y, hy, given', hgiven', rfl⟩ := h
        rw [lookup_cons, if_neg hk]
        exact ih hgiven'
      · exact ih h

/-- A field of a completed record was given, or is at its default. -/
theorem mem_of_complete (h : complete fields given = .ok all) :
    all.map (·.1) = fields.map (·.1) ∧
      ∀ name s default, (name, s, default) ∈ fields → ∃ y, (name, y) ∈ all ∧
        (lookup given name = some y ∨
          lookup given name = none ∧ absent name s default = .ok y) := by
  rw [complete, mapM_eq_ok] at h
  have hall : List.Forall₂ (fun field entry => entry.1 = field.1 ∧
      (lookup given field.1 = some entry.2 ∨
        lookup given field.1 = none ∧ absent field.1 field.2.1 field.2.2 = .ok entry.2))
      fields all := by
    refine h.imp fun field entry hentry => ?_
    dsimp only at hentry
    cases hgiven : lookup given field.1 with
    | some v =>
      rw [hgiven] at hentry
      cases hentry
      exact ⟨rfl, .inl rfl⟩
    | none =>
      rw [hgiven] at hentry
      obtain ⟨v, hv, rfl⟩ := map_eq_ok.1 hentry
      exact ⟨rfl, .inr ⟨rfl, hv⟩⟩
  constructor
  · clear h
    induction hall with
    | nil => rfl
    | cons hhead _ ih => rw [List.map_cons, List.map_cons, ih, hhead.1]
  · intro name s default hmem
    obtain ⟨⟨k, y⟩, hentry, rfl, hvalue⟩ := mem_of_forall₂_left hall hmem
    exact ⟨y, hentry, hvalue⟩

/-- A field of a record that was read from an object: it is read from the entry of its name, or is
at its default. -/
theorem get_of_fit_record {record : String} (hnodup : (fields.map (·.1)).Nodup)
    (h : fit (.record record fields) (.object es) = .ok v)
    (hfield : (name, s, default) ∈ fields) :
    ∃ y, v.get? name = some y ∧ ((∃ x, lookup es name = some x ∧ fit s x = .ok y) ∨
      (lookup es name = none ∧ absent name s default = .ok y)) := by
  simp only [fit, peel, bind_eq_ok, map_eq_ok] at h
  obtain ⟨given, hgiven, all, hall, rfl⟩ := h
  obtain ⟨hnames, hvalues⟩ := mem_of_complete hall
  obtain ⟨y, hy, hvalue⟩ := hvalues name s default hfield
  refine ⟨y, lookup_entriesOf (hnames ▸ hnodup) hy, ?_⟩
  rcases lookup_fitFields hgiven (lookup_of_nodup hnodup hfield) with
    ⟨x, y', hx, hxy, hy'⟩ | ⟨hx, hnone⟩
  · rcases hvalue with hvalue | ⟨hvalue, -⟩
    · cases hvalue.symm.trans hy'
      exact .inl ⟨x, hx, hxy⟩
    · simp [hvalue] at hy'
  · rcases hvalue with hvalue | ⟨-, hdefault⟩
    · simp [hvalue] at hnone
    · exact .inr ⟨hx, hdefault⟩

theorem object_of_fit_record {record : String} (h : fit (.record record fields) x = .ok v) :
    ∃ es, v = .object es := by
  cases x with
  | array xs =>
    simp only [fit, peel, bind_eq_ok] at h
    obtain ⟨given, -, h⟩ := h
    split at h
    · cases h
    · cases h
      exact ⟨_, rfl⟩
  | object es =>
    simp only [fit, peel, bind_eq_ok, map_eq_ok] at h
    obtain ⟨given, -, all, -, rfl⟩ := h
    exact ⟨_, rfl⟩
  | _ => simp [fit, peel, isOption, fitNumber] at h

/-- What is not of the shape is not read. -/
theorem refuse_ne_ok {α : Type} {c : Cursor} {a : α} : refuse s c ≠ .ok a := by
  intro h
  unfold refuse at h
  simp only [Cursor.fault, Cursor.faultNext] at h
  repeat' split at h
  all_goals simp [bind_eq_ok] at h

/-- A record is read as an object. -/
theorem object_of_valueAs_record {record : String} {depth fuel : Nat} {c c' : Cursor}
    (h : valueAs depth (.record record fields) fuel c = .ok (v, c')) : ∃ es, v = .object es := by
  cases fuel with
  | zero => simp [valueAs, Cursor.fault] at h
  | succ fuel =>
    simp only [valueAs] at h
    split at h
    · simp [Cursor.faultNext, Cursor.fault] at h
    · split at h
      · split at h
        · simp [Cursor.faultNext, Cursor.fault] at h
        · simp only [bind_eq_ok, pure_eq_ok, Prod.mk.injEq] at h
          obtain ⟨_, -, es, -, rfl, -⟩ := h
          exact ⟨_, rfl⟩
      · split at h
        · split at h
          · simp [Cursor.faultNext, Cursor.fault] at h
          · simp only [bind_eq_ok, pure_eq_ok, Prod.mk.injEq] at h
            obtain ⟨_, -, _, -, rfl, -⟩ := h
            exact ⟨_, rfl⟩
        · exact absurd h refuse_ne_ok

theorem object_of_readAs_record {record : String} {bytes : List UInt8}
    (h : readAs (.record record fields) bytes = .ok v) : ∃ es, v = .object es := by
  unfold readAs finish at h
  split at h
  · cases h
  · rename_i hvalue
    dsimp only at h
    split at h
    · cases h
      exact object_of_valueAs_record hvalue
    · simp [Cursor.faultNext, Cursor.fault] at h

end RestKit.Json
