import RestKit.Grouped
import RestKit.Proofs.Json.Ordered
import Mathlib.Data.List.Dedup
import Mathlib.Data.List.Induction
/-!
# Values by name

`Grouped.ofPairs` loses no value and keeps those of one name in their order: `get_ofPairs` says what
stands at a name, and `all_ofPairs` that all names together hold what was grouped. Each name stands
there once (`keys_ofPairs`).
-/
namespace RestKit.Grouped

open Json (KeyOrdered)

variable {α : Type}

theorem get_add {g : Grouped α} {name other : String} {x : α} :
    get (add g name x) other = if name = other then get g name ++ [x] else get g other := by
  unfold get add
  rw [Json.lookup_insert]
  split <;> rfl

theorem keyOrdered_add {g : Grouped α} (h : KeyOrdered g) (name : String) (x : α) :
    KeyOrdered (add g name x) := h.insert _ _

theorem all_cons {e : String × List α} {g : Grouped α} : all (e :: g) = e.2 ++ all g := by
  rw [all, List.flatMap_cons, all]

theorem all_add {g : Grouped α} (h : KeyOrdered g) (name : String) (x : α) :
    (all (add g name x)).Perm (x :: all g) := by
  induction g with
  | nil => exact List.Perm.refl _
  | cons e rest ih =>
    obtain ⟨other, xs⟩ := e
    have hadd : add rest name x = Json.insert rest name ((Json.lookup rest name).getD [] ++ [x]) :=
      rfl
    unfold add
    rw [Json.insert, Json.lookup_cons]
    split
    · rename_i hlt
      have hnone : Json.lookup rest name = none := by
        refine Option.eq_none_iff_forall_not_mem.2 fun ys hys => ?_
        exact String.lt_irrefl _ (String.lt_trans hlt (h.head_lt _ (Json.mem_of_lookup hys)))
      have hne : ¬other = name := by rintro rfl; exact String.lt_irrefl _ hlt
      rw [if_neg hne, hnone, all_cons]
      exact List.Perm.refl _
    · split
      · rename_i heq
        rw [if_pos heq.symm, all_cons, all_cons, Option.getD_some, List.append_assoc]
        exact List.perm_middle
      · rename_i hne
        rw [if_neg (Ne.symm hne), ← hadd, all_cons, all_cons]
        exact ((ih h.tail).append_left xs).trans List.perm_middle

theorem ofPairs_concat {pairs : List (String × α)} {name : String} {x : α} :
    ofPairs (pairs ++ [(name, x)]) = add (ofPairs pairs) name x := by
  rw [ofPairs, List.foldl_append]
  rfl

theorem keyOrdered_ofPairs (pairs : List (String × α)) : KeyOrdered (ofPairs pairs) := by
  induction pairs using List.reverseRecOn with
  | nil => exact Json.keyOrdered_nil
  | append_singleton pairs p ih =>
    rw [ofPairs_concat]
    exact keyOrdered_add ih _ _

/-- The values of a name are those that were given to it, in their order. -/
theorem get_ofPairs (pairs : List (String × α)) (name : String) :
    get (ofPairs pairs) name = (pairs.filter (·.1 = name)).map (·.2) := by
  induction pairs using List.reverseRecOn with
  | nil => rfl
  | append_singleton pairs p ih =>
    rw [ofPairs_concat, get_add, List.filter_append, List.map_append, ← ih]
    by_cases h : p.1 = name
    · subst h
      simp
    · simp [h]

/-- All names together hold the values that were grouped. -/
theorem all_ofPairs (pairs : List (String × α)) :
    (all (ofPairs pairs)).Perm (pairs.map (·.2)) := by
  induction pairs using List.reverseRecOn with
  | nil => exact List.Perm.refl _
  | append_singleton pairs p ih =>
    rw [ofPairs_concat, List.map_append]
    refine (all_add (keyOrdered_ofPairs pairs) _ _).trans ?_
    exact (ih.cons _).trans (List.perm_append_singleton _ _).symm

/-! ## Names -/

theorem mem_keys_iff {g : Grouped α} {name : String} :
    name ∈ g.map (·.1) ↔ (Json.lookup g name).isSome := by
  induction g with
  | nil => simp [Json.lookup]
  | cons e rest ih =>
    rw [Json.lookup_cons, List.map_cons, List.mem_cons, ih]
    by_cases h : e.1 = name
    · simp [h]
    · simp [h, Ne.symm h]

theorem mem_keys_add {g : Grouped α} {name other : String} {x : α} :
    other ∈ (add g name x).map (·.1) ↔ other = name ∨ other ∈ g.map (·.1) := by
  rw [mem_keys_iff, mem_keys_iff, add, Json.lookup_insert]
  by_cases h : name = other
  · simp [h]
  · simp [h, Ne.symm h]

theorem mem_keys_ofPairs {pairs : List (String × α)} {name : String} :
    name ∈ (ofPairs pairs).map (·.1) ↔ name ∈ pairs.map (·.1) := by
  induction pairs using List.reverseRecOn with
  | nil => exact Iff.rfl
  | append_singleton pairs p ih =>
    rw [ofPairs_concat, mem_keys_add, ih, List.map_append, List.mem_append, List.map_singleton,
      List.mem_singleton, or_comm]

/-- Each name that was given stands there once. -/
theorem keys_ofPairs (pairs : List (String × α)) :
    ((ofPairs pairs).map (·.1)).Perm (pairs.map (·.1)).dedup := by
  have hnodup : ((ofPairs pairs).map (·.1)).Nodup := by
    refine List.pairwise_map.2 ((keyOrdered_ofPairs pairs).imp fun {e f} hlt heq => ?_)
    rw [heq] at hlt
    exact String.lt_irrefl _ hlt
  refine (List.perm_ext_iff_of_nodup hnodup (List.nodup_dedup _)).2 fun name => ?_
  rw [mem_keys_ofPairs, List.mem_dedup]

end RestKit.Grouped
