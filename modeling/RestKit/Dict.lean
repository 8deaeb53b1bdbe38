import RestKit.Json.Basic
/-!
# Maps in key order

`KeyOrdered es` says that the keys of some entries increase, so that each key stands once.
`Json.insert` keeps the order, whatever the entries hold, and so do entries put over others
(`overlaid`). A `Dict` is a map: entries together with their order, so that no other entries can be
the fields of a filter or the counters of a store.
-/
namespace RestKit

variable {α : Type}

namespace Json

theorem lt_of_not_lt {a b : String} (h : ¬ a < b) (hne : a ≠ b) : b < a := by
  by_cases hb : b < a
  · exact hb
  · exact absurd (String.le_antisymm (String.not_lt.1 hb) (String.not_lt.1 h)) hne

/-- An entry after an insertion is the one put in, or was there. -/
theorem mem_of_mem_insert {k : String} {v : α} {e : String × α} {es : List (String × α)}
    (h : e ∈ insert es k v) : e = (k, v) ∨ e ∈ es := by
  induction es with
  | nil => simpa [insert] using h
  | cons f rest ih =>
    obtain ⟨l, u⟩ := f
    simp only [insert] at h
    split at h
    · simpa using h
    · split at h
      · rcases List.mem_cons.1 h with h | h
        · exact Or.inl h
        · exact Or.inr (List.mem_cons_of_mem _ h)
      · rcases List.mem_cons.1 h with h | h
        · exact Or.inr (by simp [h])
        · exact (ih h).imp id (List.mem_cons_of_mem _)

/-- The keys increase. -/
def KeyOrdered (es : List (String × α)) : Prop := es.Pairwise fun e f => e.1 < f.1

instance (es : List (String × α)) : Decidable (KeyOrdered es) :=
  inferInstanceAs (Decidable (es.Pairwise fun e f => e.1 < f.1))

theorem keyOrdered_nil : KeyOrdered ([] : List (String × α)) := List.Pairwise.nil

theorem KeyOrdered.tail {e : String × α} {es : List (String × α)} (h : KeyOrdered (e :: es)) :
    KeyOrdered es := List.Pairwise.of_cons h

theorem KeyOrdered.head_lt {e : String × α} {es : List (String × α)} (h : KeyOrdered (e :: es)) :
    ∀ f ∈ es, e.1 < f.1 := fun _ hf => List.rel_of_pairwise_cons h hf

theorem KeyOrdered.insert {es : List (String × α)} (h : KeyOrdered es) (k : String) (v : α) :
    KeyOrdered (insert es k v) := by
  induction es with
  | nil => exact List.pairwise_singleton ..
  | cons e rest ih =>
    obtain ⟨l, u⟩ := e
    simp only [Json.insert]
    split
    · rename_i hlt
      refine List.pairwise_cons.2 ⟨fun f hf => ?_, h⟩
      rcases List.mem_cons.1 hf with rfl | hf
      · exact hlt
      · exact String.lt_trans hlt (h.head_lt f hf)
    · rename_i hlt
      split
      · rename_i heq
        subst heq
        exact List.pairwise_cons.2 ⟨h.head_lt, h.tail⟩
      · rename_i hne
        refine List.pairwise_cons.2 ⟨fun f hf => ?_, ih h.tail⟩
        rcases mem_of_mem_insert hf with rfl | hf
        · exact lt_of_not_lt hlt hne
        · exact h.head_lt f hf

/-- Entries put over others one by one. -/
def overlaid (xs ys : List (String × α)) : List (String × α) :=
  ys.foldl (fun es p => Json.insert es p.1 p.2) xs

theorem KeyOrdered.overlaid {xs : List (String × α)} (h : KeyOrdered xs)
    (ys : List (String × α)) : KeyOrdered (overlaid xs ys) := by
  induction ys generalizing xs with
  | nil => exact h
  | cons y ys ih => exact ih (h.insert y.1 y.2)

theorem keyOrdered_entriesOf (ps : List (String × α)) : KeyOrdered (entriesOf ps) :=
  keyOrdered_nil.overlaid ps

end Json

/-- A map: its entries in key order. -/
@[ext]
structure Dict (α : Type) where
  entries : List (String × α)
  ordered : Json.KeyOrdered entries
deriving DecidableEq, Repr

namespace Dict

def empty : Dict α := ⟨[], Json.keyOrdered_nil⟩

instance : EmptyCollection (Dict α) := ⟨empty⟩

instance : Inhabited (Dict α) := ⟨empty⟩

/-- The map of a list of pairs, the last pair of a key winning. -/
def ofPairs (pairs : List (String × α)) : Dict α :=
  ⟨Json.entriesOf pairs, Json.keyOrdered_entriesOf pairs⟩

instance : Membership (String × α) (Dict α) := ⟨fun d e => e ∈ d.entries⟩

theorem mem_def {d : Dict α} {e : String × α} : e ∈ d ↔ e ∈ d.entries := Iff.rfl

instance [DecidableEq α] (e : String × α) (d : Dict α) : Decidable (e ∈ d) :=
  inferInstanceAs (Decidable (e ∈ d.entries))

instance (d : Dict α) (p : String × α → Prop) [DecidablePred p] : Decidable (∀ e ∈ d, p e) :=
  inferInstanceAs (Decidable (∀ e ∈ d.entries, p e))

def isEmpty (d : Dict α) : Bool := d.entries.isEmpty

/-- The keys, in order. -/
def keys (d : Dict α) : List String := d.entries.map (·.1)

def size (d : Dict α) : Nat := d.entries.length

/-- The value at a key. -/
def get? (d : Dict α) (key : String) : Option α := Json.lookup d.entries key

/-- Put a value at a key. -/
def insert (d : Dict α) (key : String) (value : α) : Dict α :=
  ⟨Json.insert d.entries key value, d.ordered.insert key value⟩

/-- The entries that a test keeps. -/
def filter (d : Dict α) (keep : String × α → Bool) : Dict α :=
  ⟨d.entries.filter keep, d.ordered.filter keep⟩

end Dict
end RestKit
