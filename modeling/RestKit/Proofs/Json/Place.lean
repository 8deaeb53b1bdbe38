import RestKit.Proofs.Json.Entries
/-!
# Places in a value

A place is a key of an object or an index of an array, and a row of places leads into a value
(`at?`). The `outline` of a value is what is left of it without its strings and without what stands
in it: a leaf that is no string, the length of an array, the keys of an object. Two values whose
outlines are the same wherever one looks differ in nothing but strings (`SameFrame`).
-/
namespace RestKit.Json

inductive Place where
  | key (k : String)
  | item (i : Nat)
deriving DecidableEq, Repr

variable {v w x y : Json} {place : Place} {p : List Place}

/-- What stands at a place of a value. -/
def child? : Json → Place → Option Json
  | .object es, .key k => lookup es k
  | .array xs, .item i => xs[i]?
  | _, _ => none

/-- What stands at the end of a row of places. -/
def at? (v : Json) : List Place → Option Json
  | [] => some v
  | place :: p => (v.child? place).bind (·.at? p)

theorem at?_cons_eq_some :
    v.at? (place :: p) = some x ↔ ∃ y, v.child? place = some y ∧ y.at? p = some x :=
  Option.bind_eq_some_iff

theorem at?_cons_of_child? (h : v.child? place = some x) : v.at? (place :: p) = x.at? p := by
  rw [at?, h, Option.bind_some]

theorem at?_singleton : v.at? [place] = v.child? place := by
  rw [at?]
  cases v.child? place <;> rfl

theorem at?_append_eq_some {q : List Place} :
    v.at? (p ++ q) = some x ↔ ∃ y, v.at? p = some y ∧ y.at? q = some x := by
  induction p generalizing v with
  | nil =>
    rw [List.nil_append, at?]
    simp only [Option.some.injEq, exists_eq_left']
  | cons place p ih =>
    rw [List.cons_append, at?_cons_eq_some]
    simp only [ih, at?_cons_eq_some]
    constructor
    · rintro ⟨z, hz, y, hy, hx⟩
      exact ⟨y, ⟨z, hz, hy⟩, hx⟩
    · rintro ⟨y, ⟨z, hz, hy⟩, hx⟩
      exact ⟨z, hz, y, hy, hx⟩

def outline : Json → Json
  | .string _ => .string ""
  | .array xs => .array (xs.map fun _ => .null)
  | .object es => .object (es.map fun e => (e.1, .null))
  | v => v

theorem outline_array {xs ys : List Json} (h : ys.length = xs.length) :
    (Json.array ys).outline = (Json.array xs).outline := by
  simp only [outline, List.map_const', h]

theorem outline_object {es fs : List (String × Json)} (h : fs.map (·.1) = es.map (·.1)) :
    (Json.object fs).outline = (Json.object es).outline := by
  have hkeys : ∀ gs : List (String × Json),
      gs.map (fun e => (e.1, Json.null)) = (gs.map (·.1)).map (·, .null) := by
    intro gs
    rw [List.map_map]
    rfl
  rw [outline, outline, hkeys, hkeys, h]

/-- The outline shows where something stands. -/
theorem child?_outline : v.outline.child? place = (v.child? place).map fun _ => .null := by
  cases v with
  | array xs =>
    cases place with
    | key k => rfl
    | item i => exact List.getElem?_map
  | object es =>
    cases place with
    | key k => exact lookup_mapValues (fun _ _ => Json.null) es k
    | item i => rfl
  | _ => rfl

/-- The values differ in their strings only. -/
def SameFrame (v w : Json) : Prop := ∀ p, (w.at? p).map outline = (v.at? p).map outline

/-- Something stands in the one where something stands in the other. -/
theorem SameFrame.exists_at? (h : v.SameFrame w) (hx : v.at? p = some x) :
    ∃ y, w.at? p = some y := by
  have hp := h p
  rw [hx] at hp
  obtain ⟨y, hy, -⟩ := Option.map_eq_some_iff.1 hp
  exact ⟨y, hy⟩

/-- It is enough to look where something stands in one of them. -/
theorem sameFrame_of_some
    (h : ∀ p x, v.at? p = some x → ∃ y, w.at? p = some y ∧ y.outline = x.outline) :
    v.SameFrame w := by
  intro p
  induction p generalizing v w with
  | nil =>
    obtain ⟨y, hy, heq⟩ := h [] v rfl
    cases hy
    exact congrArg some heq
  | cons place p ih =>
    cases hx : v.child? place with
    | none =>
      obtain ⟨y, hy, heq⟩ := h [] v rfl
      cases hy
      have hshown : w.outline.child? place = v.outline.child? place := by rw [heq]
      rw [child?_outline, child?_outline, hx] at hshown
      rw [at?, at?, hx, Option.map_eq_none_iff.1 hshown]
    | some x =>
      obtain ⟨y, hy, -⟩ := h [place] x (at?_cons_eq_some.2 ⟨x, hx, rfl⟩)
      obtain ⟨_, hy, ⟨⟩⟩ := at?_cons_eq_some.1 hy
      rw [at?, at?, hx, hy]
      refine ih fun q z hz => ?_
      obtain ⟨z', hz', heq⟩ := h (place :: q) z (at?_cons_eq_some.2 ⟨x, hx, hz⟩)
      rw [at?, hy] at hz'
      exact ⟨z', hz', heq⟩

end RestKit.Json
