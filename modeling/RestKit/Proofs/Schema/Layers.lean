import RestKit.Proofs.Json.Place
import RestKit.Schema.Kind
/-!
# Layers of a kind

A kind is built of lists, maps and optional layers around its `core`. `layers` counts the lists and
maps: so many places lead from a value of the kind to what the core stands for, and a kind has
elements exactly if it has a layer (`element?_eq_none`). For kinds built of strings `Holds` says
which values they have, and every string in such a value stands that deep (`Holds.length_eq`).
-/
namespace RestKit.Schema
open Json (Place)

namespace Kind

variable {k e : Kind} {v x : Json} {place : Place} {p : List Place} {s : String}

/-- The number of lists and maps around the core. -/
def layers : Kind → Nat
  | .list e | .map e => e.layers + 1
  | .optional k => k.layers
  | _ => 0

/-- What is left without lists, maps and optional layers. -/
def core : Kind → Kind
  | .list e | .map e => e.core
  | .optional k => k.core
  | k => k

theorem layers_base (k : Kind) : k.base.layers = k.layers := by
  induction k with
  | optional k ih => exact ih
  | _ => rfl

theorem core_base (k : Kind) : k.base.core = k.core := by
  induction k with
  | optional k ih => exact ih
  | _ => rfl

theorem element?_eq_some : k.element? = some e ↔ k.base = .list e ∨ k.base = .map e := by
  unfold element?
  cases k.base <;> simp

theorem layers_of_element? (h : k.element? = some e) : k.layers = e.layers + 1 := by
  rw [← layers_base k]
  rcases element?_eq_some.1 h with h | h <;> rw [h, layers]

theorem core_of_element? (h : k.element? = some e) : e.core = k.core := by
  rw [← core_base k]
  rcases element?_eq_some.1 h with h | h <;> rw [h, core]

theorem base_ne_optional (k i : Kind) : k.base ≠ .optional i := by
  induction k with
  | optional k ih => exact ih
  | _ => exact nofun

/-- A kind has elements exactly if it has a layer. -/
theorem element?_eq_none : k.element? = none ↔ k.layers = 0 := by
  rw [← layers_base k]
  unfold element?
  cases hbase : k.base with
  | optional i => exact absurd hbase (base_ne_optional k i)
  | _ => simp [layers]

/-! ## Kinds built of strings -/

/-- Inside its optional layers such a kind is the string itself, or it has elements. -/
theorem base_cases (hcore : k.core = .string) :
    k.base = .string ∨ ∃ e, k.element? = some e := by
  rw [← core_base k] at hcore
  cases hbase : k.base with
  | string => exact .inl rfl
  | list e => exact .inr ⟨e, element?_eq_some.2 (.inl hbase)⟩
  | map e => exact .inr ⟨e, element?_eq_some.2 (.inr hbase)⟩
  | optional i => exact absurd hbase (base_ne_optional k i)
  | _ =>
    rw [hbase] at hcore
    cases hcore

theorem isString_iff (hcore : k.core = .string) : k.isString = true ↔ k.layers = 0 := by
  rcases base_cases hcore with hbase | ⟨e, helement⟩
  · rw [← layers_base k]
    simp [isString, hbase, layers]
  · have hbase := element?_eq_some.1 helement
    rw [layers_of_element? helement]
    rcases hbase with hbase | hbase <;> simp [isString, hbase]

theorem canDive_iff (hcore : k.core = .string) : k.canDive = true ↔ 0 < k.layers := by
  rcases base_cases hcore with hbase | ⟨e, helement⟩
  · rw [← layers_base k]
    simp [canDive, hbase, layers]
  · have hbase := element?_eq_some.1 helement
    rw [layers_of_element? helement]
    rcases hbase with hbase | hbase <;> simp [canDive, hbase]

/-- The values of a kind that is built of strings. -/
inductive Holds : Kind → Json → Prop
  | string {s : String} : Holds .string (.string s)
  | list {k : Kind} {xs : List Json} (h : ∀ x ∈ xs, Holds k x) : Holds (.list k) (.array xs)
  | map {k : Kind} {es : List (String × Json)} (h : ∀ e ∈ es, Holds k e.2) :
    Holds (.map k) (.object es)
  | absent {k : Kind} : Holds (.optional k) .null
  | present {k : Kind} {v : Json} (h : Holds k v) : Holds (.optional k) v

/-- Every string stands behind as many places as its kind has layers. -/
theorem Holds.length_eq (h : k.Holds v) (hs : v.at? p = some (.string s)) :
    p.length = k.layers := by
  induction h generalizing p with
  | string =>
    cases p with
    | nil => rfl
    | cons place p => cases place <;> cases hs
  | @list k xs h ih =>
    cases p with
    | nil => cases hs
    | cons place p =>
      obtain ⟨x, hx, hleaf⟩ := Json.at?_cons_eq_some.1 hs
      cases place with
      | key l => cases hx
      | item i => exact congrArg (· + 1) (ih x (List.mem_of_getElem? hx) hleaf)
  | @map k es h ih =>
    cases p with
    | nil => cases hs
    | cons place p =>
      obtain ⟨x, hx, hleaf⟩ := Json.at?_cons_eq_some.1 hs
      cases place with
      | item i => cases hx
      | key l => exact congrArg (· + 1) (ih (l, x) (Json.mem_of_lookup hx) hleaf)
  | absent =>
    cases p with
    | nil => cases hs
    | cons place p => cases place <;> cases hs
  | present _ ih => exact ih hs

end Kind
end RestKit.Schema
