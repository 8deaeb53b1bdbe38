import RestKit.Json.Reader
import RestKit.Proofs.Except
import RestKit.Proofs.Json.Ordered
/-!
# Values that are read

Every object of a value that is read from a text is in key order (`ordered_of_read`).
-/
namespace RestKit.Json

/-- A value without entries has nothing to order. -/
theorem ordered_leaf {v : Json} (ha : v.array? = none) (ho : v.object? = none) : v.Ordered := by
  intro es h
  cases h with
  | refl => simp [object?] at ho
  | item => simp [array?] at ha
  | member => simp [object?] at ho

theorem ordered_ofPairs {ps : List (String × Json)} (h : ∀ p ∈ ps, p.2.Ordered) :
    (ofPairs ps).Ordered :=
  ordered_object.2 ⟨keyOrdered_entriesOf ps, fun e he => h e (mem_of_mem_entriesOf he)⟩

mutual
theorem ordered_of_value {depth : Nat} : ∀ {fuel : Nat} {c : Cursor} {r : Json × Cursor},
    value depth fuel c = .ok r → r.1.Ordered
  | 0, c, r, h => by cases h
  | fuel + 1, c, r, h => by
    simp only [value] at h
    split at h
    · cases h
    · -- one case for each first byte of a value, in the reader's order
      repeat' split at h
      · obtain ⟨c', -, h⟩ := bind_eq_ok.1 h
        exact pure_eq_ok.1 h ▸ ordered_leaf rfl rfl
      · obtain ⟨c', -, h⟩ := bind_eq_ok.1 h
        exact pure_eq_ok.1 h ▸ ordered_leaf rfl rfl
      · obtain ⟨c', -, h⟩ := bind_eq_ok.1 h
        exact pure_eq_ok.1 h ▸ ordered_leaf rfl rfl
      · obtain ⟨⟨n, c'⟩, -, h⟩ := bind_eq_ok.1 h
        exact pure_eq_ok.1 h ▸ ordered_leaf rfl rfl
      · obtain ⟨⟨n, c'⟩, -, h⟩ := bind_eq_ok.1 h
        exact pure_eq_ok.1 h ▸ ordered_leaf rfl rfl
      · obtain ⟨⟨s, c'⟩, -, h⟩ := bind_eq_ok.1 h
        exact pure_eq_ok.1 h ▸ ordered_leaf rfl rfl
      · cases h
      · obtain ⟨⟨xs, c'⟩, hxs, h⟩ := bind_eq_ok.1 h
        exact pure_eq_ok.1 h ▸ ordered_array.2 (ordered_of_items hxs)
      · cases h
      · obtain ⟨⟨es, c'⟩, hes, h⟩ := bind_eq_ok.1 h
        exact pure_eq_ok.1 h ▸ ordered_ofPairs (ordered_of_entries hes)
      · cases h
theorem ordered_of_items {depth : Nat} {first : Bool} : ∀ {fuel : Nat} {c : Cursor}
    {r : List Json × Cursor}, items depth first fuel c = .ok r → ∀ x ∈ r.1, x.Ordered
  | 0, c, r, h => by cases h
  | fuel + 1, c, r, h => by
    simp only [items] at h
    obtain ⟨⟨more, c'⟩, -, h⟩ := bind_eq_ok.1 h
    simp only at h
    split at h
    · obtain ⟨⟨x, c₂⟩, hx, h⟩ := bind_eq_ok.1 h
      obtain ⟨⟨xs, c₃⟩, hxs, h⟩ := bind_eq_ok.1 h
      rw [← pure_eq_ok.1 h]
      exact List.forall_mem_cons.2 ⟨ordered_of_value hx, ordered_of_items hxs⟩
    · rw [← pure_eq_ok.1 h]
      simp
theorem ordered_of_entries {depth : Nat} {first : Bool} : ∀ {fuel : Nat} {c : Cursor}
    {r : List (String × Json) × Cursor},
    entries depth first fuel c = .ok r → ∀ e ∈ r.1, e.2.Ordered
  | 0, c, r, h => by cases h
  | fuel + 1, c, r, h => by
    simp only [entries] at h
    obtain ⟨⟨more, c'⟩, -, h⟩ := bind_eq_ok.1 h
    simp only at h
    split at h
    · obtain ⟨⟨k, c₂⟩, -, h⟩ := bind_eq_ok.1 h
      obtain ⟨c₃, -, h⟩ := bind_eq_ok.1 h
      obtain ⟨⟨x, c₃⟩, hx, h⟩ := bind_eq_ok.1 h
      obtain ⟨⟨es, c₃⟩, hes, h⟩ := bind_eq_ok.1 h
      rw [← pure_eq_ok.1 h]
      exact List.forall_mem_cons.2 ⟨ordered_of_value hx, ordered_of_entries hes⟩
    · rw [← pure_eq_ok.1 h]
      simp
end

/-- **Read values are in order.** -/
theorem ordered_of_read {text : String} {v : Json} (h : read text = .ok v) : v.Ordered := by
  unfold read readBytes finish at h
  split at h
  · cases h
  · rename_i hv
    dsimp only at h
    split at h
    · exact Except.ok.inj h ▸ ordered_of_value hv
    · cases h

end RestKit.Json
