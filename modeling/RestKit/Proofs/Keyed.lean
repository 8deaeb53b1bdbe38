import Mathlib.Data.List.Nodup
/-!
# Lists whose elements have keys of their own

Where no key stands twice, the search by a key finds the element that has it (`find?_key_eq_some`),
and a new element keeps it so if its key is new.
-/
namespace RestKit

variable {α κ : Type} {key : α → κ} {xs : List α} {x : α}

/-- Where no key stands twice, the element with a key is the one that is found. -/
theorem find?_key_eq_some [BEq κ] [LawfulBEq κ] {k : κ} (h : (xs.map key).Nodup) :
    xs.find? (fun x => key x == k) = some x ↔ x ∈ xs ∧ key x = k := by
  induction xs with
  | nil => simp
  | cons y xs ih =>
    rw [List.map_cons, List.nodup_cons] at h
    by_cases hy : key y = k
    · subst hy
      rw [List.find?_cons_of_pos (by simp), Option.some.injEq, List.mem_cons]
      constructor
      · rintro rfl
        exact ⟨.inl rfl, rfl⟩
      · rintro ⟨rfl | hmem, heq⟩
        · rfl
        · exact absurd (heq ▸ List.mem_map_of_mem hmem) h.1
    · rw [List.find?_cons_of_neg (by simpa using hy), ih h.2, List.mem_cons]
      refine and_congr_left fun heq => ⟨.inr, fun hmem => hmem.resolve_left ?_⟩
      rintro rfl
      exact hy heq

theorem nodup_key_concat (h : (xs.map key).Nodup) (hx : key x ∉ xs.map key) :
    ((xs ++ [x]).map key).Nodup := by
  rw [List.map_append, List.map_singleton, ← List.concat_eq_append]
  exact h.concat hx

end RestKit
