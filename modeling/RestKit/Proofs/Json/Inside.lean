import RestKit.Json.Basic
/-!
# Values and keys inside a value

`j.Within v` says that the value `j` stands somewhere in `v`, and `v.HasKey k` that some object in
`v`, at any depth, has the key `k`. What holds of a value as soon as it holds of its elements holds
of every value (`elements_induction`).
-/
namespace RestKit.Json

/-- The items of an array, the values of an object. -/
def elements : Json → List Json
  | .array xs => xs
  | .object es => es.map (·.2)
  | _ => []

mutual
theorem elements_induction {P : Json → Prop} (step : ∀ v : Json, (∀ x ∈ v.elements, P x) → P v) :
    ∀ v, P v
  | .array xs => step _ (items_induction step xs)
  | .object es => step _ (entries_induction step es)
  | .null | .bool _ | .number _ | .string _ => step _ nofun
theorem items_induction {P : Json → Prop} (step : ∀ v : Json, (∀ x ∈ v.elements, P x) → P v) :
    ∀ xs : List Json, ∀ x ∈ xs, P x
  | [], _, hx => nomatch hx
  | y :: ys, x, hx => by
    rcases List.mem_cons.1 hx with h | hx
    · exact h ▸ elements_induction step y
    · exact items_induction step ys x hx
theorem entries_induction {P : Json → Prop} (step : ∀ v : Json, (∀ x ∈ v.elements, P x) → P v) :
    ∀ es : List (String × Json), ∀ x ∈ es.map (·.2), P x
  | [], _, hx => nomatch hx
  | (_, y) :: es, x, hx => by
    rw [List.map_cons] at hx
    rcases List.mem_cons.1 hx with h | hx
    · exact h ▸ elements_induction step y
    · exact entries_induction step es x hx
end

/-- `j` is the value, or stands in an element or a member of it. -/
inductive Within (j : Json) : Json → Prop
  | refl : Within j j
  | item {xs : List Json} {x : Json} : x ∈ xs → Within j x → Within j (.array xs)
  | member {es : List (String × Json)} {k : String} {x : Json} :
      (k, x) ∈ es → Within j x → Within j (.object es)

theorem Within.trans {a b c : Json} (hab : a.Within b) (hbc : b.Within c) : a.Within c := by
  induction hbc with
  | refl => exact hab
  | item hx _ ih => exact .item hx ih
  | member hx _ ih => exact .member hx ih

theorem within_array {j : Json} {xs : List Json} :
    j.Within (.array xs) ↔ j = .array xs ∨ ∃ x ∈ xs, j.Within x := by
  constructor
  · intro h
    cases h with
    | refl => exact Or.inl rfl
    | item hx h => exact Or.inr ⟨_, hx, h⟩
  · rintro (rfl | ⟨x, hx, h⟩)
    · exact .refl
    · exact .item hx h

theorem within_object {j : Json} {es : List (String × Json)} :
    j.Within (.object es) ↔ j = .object es ∨ ∃ e ∈ es, j.Within e.2 := by
  constructor
  · intro h
    cases h with
    | refl => exact Or.inl rfl
    | member hx h => exact Or.inr ⟨_, hx, h⟩
  · rintro (rfl | ⟨e, he, h⟩)
    · exact .refl
    · exact .member he h

/-- Some object in the value has the key. -/
def HasKey (v : Json) (k : String) : Prop :=
  ∃ (es : List (String × Json)) (x : Json), (Json.object es).Within v ∧ (k, x) ∈ es

theorem hasKey_array {xs : List Json} {k : String} :
    (Json.array xs).HasKey k ↔ ∃ x ∈ xs, x.HasKey k := by
  simp only [HasKey, within_array]
  constructor
  · rintro ⟨es, y, h | ⟨x, hx, h⟩, hk⟩
    · cases h
    · exact ⟨x, hx, es, y, h, hk⟩
  · rintro ⟨x, hx, es, y, h, hk⟩
    exact ⟨es, y, Or.inr ⟨x, hx, h⟩, hk⟩

theorem hasKey_object {es : List (String × Json)} {k : String} :
    (Json.object es).HasKey k ↔ ∃ e ∈ es, e.1 = k ∨ e.2.HasKey k := by
  simp only [HasKey, within_object]
  constructor
  · rintro ⟨fs, y, h | ⟨e, he, h⟩, hk⟩
    · cases h
      exact ⟨(k, y), hk, Or.inl rfl⟩
    · exact ⟨e, he, Or.inr ⟨fs, y, h, hk⟩⟩
  · rintro ⟨e, he, rfl | ⟨fs, y, h, hk⟩⟩
    · exact ⟨es, e.2, Or.inl rfl, he⟩
    · exact ⟨fs, y, Or.inr ⟨e, he, h⟩, hk⟩

/-- A value that is neither an array nor an object has no keys. -/
theorem not_hasKey_leaf {v : Json} {k : String} (ha : v.array? = none) (ho : v.object? = none) :
    ¬ v.HasKey k := by
  rintro ⟨es, x, hw, -⟩
  cases hw with
  | refl => simp [Json.object?] at ho
  | item => simp [Json.array?] at ha
  | member => simp [Json.object?] at ho

end RestKit.Json
