import RestKit.Proofs.Except
import RestKit.Proofs.Json.Inside
import RestKit.Query.Where
/-!
# Values without dollar keys

`DollarFree v` says that no key in `v`, at any depth, starts with a dollar sign. It is what
`rejectDollarDeep` checks (`rejectDollarDeep_eq_ok`).
-/
namespace RestKit.Query

/-- No key in the value, at any depth, starts with a dollar sign. -/
def DollarFree (v : Json) : Prop := ∀ k, v.HasKey k → isDollar k = false

theorem dollarFree_array {xs : List Json} : DollarFree (.array xs) ↔ ∀ x ∈ xs, DollarFree x := by
  simp only [DollarFree, Json.hasKey_array]
  constructor
  · intro h x hx k hk; exact h k ⟨x, hx, hk⟩
  · rintro h k ⟨x, hx, hk⟩; exact h x hx k hk

theorem dollarFree_object {es : List (String × Json)} :
    DollarFree (.object es) ↔ ∀ e ∈ es, isDollar e.1 = false ∧ DollarFree e.2 := by
  simp only [DollarFree, Json.hasKey_object]
  constructor
  · intro h e he
    exact ⟨h e.1 ⟨e, he, Or.inl rfl⟩, fun k hk => h k ⟨e, he, Or.inr hk⟩⟩
  · rintro h k ⟨e, he, rfl | hk⟩
    · exact (h e he).1
    · exact (h e he).2 k hk

theorem dollarFree_leaf {v : Json} (ha : v.array? = none) (ho : v.object? = none) :
    DollarFree v := fun _ hk => absurd hk (Json.not_hasKey_leaf ha ho)

theorem rejectDollar_eq_ok {k : String} {u : Unit} :
    rejectDollar k = .ok u ↔ isDollar k = false := by
  unfold rejectDollar
  split <;> simp_all

mutual
/-- The deep check accepts exactly the values without dollar keys. -/
theorem rejectDollarDeep_eq_ok {u : Unit} : ∀ v, rejectDollarDeep v = .ok u ↔ DollarFree v
  | .object es => by
    rw [dollarFree_object]; exact rejectDollarEntries_eq_ok es
  | .array xs => by
    rw [dollarFree_array]; exact rejectDollarItems_eq_ok xs
  | .null | .bool _ | .number _ | .string _ => by
    simp only [rejectDollarDeep, true_iff]
    exact dollarFree_leaf rfl rfl
theorem rejectDollarItems_eq_ok {u : Unit} :
    ∀ xs, rejectDollarItems xs = .ok u ↔ ∀ x ∈ xs, DollarFree x
  | [] => by simp [rejectDollarItems]
  | x :: xs => by
    simp [rejectDollarItems, check_eq_ok, rejectDollarDeep_eq_ok x, rejectDollarItems_eq_ok xs]
theorem rejectDollarEntries_eq_ok {u : Unit} :
    ∀ es, rejectDollarEntries es = .ok u ↔ ∀ e ∈ es, isDollar e.1 = false ∧ DollarFree e.2
  | [] => by simp [rejectDollarEntries]
  | (k, x) :: es => by
    simp [rejectDollarEntries, check_eq_ok, rejectDollar_eq_ok, rejectDollarDeep_eq_ok x,
      rejectDollarEntries_eq_ok es, and_assoc]
end

end RestKit.Query
