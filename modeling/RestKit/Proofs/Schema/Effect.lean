import RestKit.Proofs.Json.Place
import RestKit.Proofs.Schema.Transform
/-!
# What a stage changes

A stage goes through a value from a schema: it comes to a field by its name, to the elements of a
list or a map that is dived into, and to a struct by the schema of its type. `Reach` lists the rows
of places that it comes to and what it does there. Where all operators accept, a string that a chain
is run on becomes what the operators make of it in turn, and all else is kept (`effect`).

What a treatment makes of a value it makes of what stands at each place, with the treatment that it
leads to (`Treatment.Makes.step`); so it is along every row of places (`Treatment.Makes.run`).
-/
namespace RestKit.Schema
open Json (Place)

variable {fam : Family} {stage : Stage} {schema nested : TypeSchema} {kind : Kind} {chain : Chain}
  {path k s t : String} {f : FieldSchema} {place : Place} {p q : List Place}
  {es fs : List (String × Json)} {xs ys : List Json} {v w x y : Json}

/-! ## Operators in turn -/

/-- Each operator is run on what the one before it has made. -/
inductive InTurn : List TextOperator → String → String → Prop
  | nil {s : String} : InTurn [] s s
  | cons {op : TextOperator} {operators : List TextOperator} {s u t : String}
    (h : op.apply s = .ok u) (hrest : InTurn operators u t) : InTurn (op :: operators) s t

theorem apply_eq_ok : chain.apply s = .ok t ↔ InTurn chain.operators s t := by
  unfold Chain.apply
  induction chain.operators generalizing s with
  | nil =>
    rw [List.foldlM_nil, pure_eq_ok]
    exact ⟨fun h => h ▸ .nil, fun h => by cases h; rfl⟩
  | cons op operators ih =>
    simp only [List.foldlM_cons, bind_eq_ok, ih]
    constructor
    · rintro ⟨u, hu, hrest⟩
      exact .cons hu hrest
    · rintro (_ | ⟨hu, hrest⟩)
      exact ⟨_, hu, hrest⟩

/-! ## Where a stage comes to -/

/-- What a stage does with a value: it runs a chain on a string, it runs one on the elements of a
list or a map, which have a kind, or it goes by a schema. -/
inductive Treatment where
  | text (chain : Chain)
  | elements (kind : Kind) (chain : Chain)
  | fields (schema : TypeSchema)

/-- What a stage does with what stands at a place of a value that it treats. Optional layers of a
kind do not matter. -/
inductive Leads (fam : Family) (stage : Stage) : Treatment → Place → Treatment → Prop
  /-- A chain without `dive` is for the field's own string. -/
  | field {schema : TypeSchema} {k : String} {f : FieldSchema} {chain : Chain}
    (hf : schema.field? k = some f) (hchain : f.chain stage = some chain)
    (hdive : chain.dive = false) : Leads fam stage (.fields schema) (.key k) (.text chain)
  /-- With `dive` the chain of a list or a map is for its elements. -/
  | collection {schema : TypeSchema} {k : String} {f : FieldSchema} {chain : Chain} {kind : Kind}
    (hf : schema.field? k = some f) (hchain : f.chain stage = some chain)
    (hdive : chain.dive = true) (hkind : f.kind.element? = some kind) :
    Leads fam stage (.fields schema) (.key k) (.elements kind chain)
  /-- With `dive` a struct goes by its own schema, whatever the chain holds. -/
  | struct {schema nested : TypeSchema} {k type : String} {f : FieldSchema} {chain : Chain}
    (hf : schema.field? k = some f) (hchain : f.chain stage = some chain)
    (hdive : chain.dive = true) (hkind : f.kind.base = .struct type)
    (hnested : fam.schema type = .ok nested) :
    Leads fam stage (.fields schema) (.key k) (.fields nested)
  | element {kind : Kind} {chain : Chain} {place : Place} (hkind : kind.isString = true) :
    Leads fam stage (.elements kind chain) place (.text chain)
  | elementStruct {kind : Kind} {chain : Chain} {place : Place} {type : String}
    {nested : TypeSchema} (hkind : kind.base = .struct type)
    (hnested : fam.schema type = .ok nested) :
    Leads fam stage (.elements kind chain) place (.fields nested)

/-- What a stage does at the end of a row of places. -/
inductive Reach (fam : Family) (stage : Stage) : Treatment → List Place → Treatment → Prop
  | here {a : Treatment} : Reach fam stage a [] a
  | inside {a b c : Treatment} {place : Place} {p : List Place} (h : Leads fam stage a place b)
    (hrest : Reach fam stage b p c) : Reach fam stage a (place :: p) c

variable {a b c : Treatment}

/-- One place is treated in one way. -/
theorem Leads.unique (hb : Leads fam stage a place b) (hc : Leads fam stage a place c) :
    b = c := by
  cases hb <;> cases hc <;> simp_all [Kind.element?, Kind.isString]

theorem Reach.of_append (hb : Reach fam stage a p b) (hc : Reach fam stage a (p ++ q) c) :
    Reach fam stage b q c := by
  induction hb with
  | here => exact hc
  | inside h _ ih =>
    cases hc with
    | inside h' hc => exact ih (h.unique h' ▸ hc)

theorem Reach.unique (hb : Reach fam stage a p b) (hc : Reach fam stage a p c) : b = c := by
  rw [← List.append_nil p] at hc
  cases hb.of_append hc
  rfl

/-- Nothing is done inside a field that is undeclared or has no chain. -/
theorem Reach.stops (h : Reach fam stage a p (.fields nested))
    (hnone : (nested.field? k).bind (·.chain stage) = none) (b : Treatment) :
    ¬ Reach fam stage a (p ++ .key k :: q) b := by
  intro hb
  cases h.of_append hb with
  | inside hleads _ => cases hleads <;> simp_all

/-- The path of a place inside another path. -/
def placePath (path : String) : Place → String
  | .key k => joinPath path k
  | .item i => itemPath path i

/-! ## What a treatment makes -/

namespace Treatment

/-- What a treatment makes of a value, without a message. A value of another form is kept. -/
def Makes (fam : Family) (stage : Stage) (path : String) : Treatment → Json → Json → Prop
  | .text chain, .string s, y => ∃ t, chain.apply s = .ok t ∧ y = .string t
  | .elements kind chain, .array xs, y =>
    ∃ ys, transformItems fam stage kind chain path 0 xs = .ok (ys, []) ∧ y = .array ys
  | .elements kind chain, .object es, y =>
    ∃ fs, transformEntries fam stage kind chain path es = .ok (fs, []) ∧ y = .object fs
  | .fields schema, x, y => transformObject fam stage schema path x = .ok (y, [])
  | _, x, y => y = x

/-- A value is made by one of some treatments, or it is kept because there is none. -/
def MadeBy (fam : Family) (stage : Stage) (path : String) (ways : Treatment → Prop)
    (x y : Json) : Prop :=
  (∃ a, ways a ∧ a.Makes fam stage path x y) ∨ (∀ a, ¬ ways a) ∧ y = x

theorem MadeBy.makes (h : MadeBy fam stage path (Reach fam stage a p) x y)
    (hb : Reach fam stage a p b) : b.Makes fam stage path x y := by
  rcases h with ⟨c, hc, hmade⟩ | ⟨hnone, -⟩
  · exact hb.unique hc ▸ hmade
  · exact absurd hb (hnone b)

end Treatment

open Treatment

theorem makes_of_transformText (h : transformText chain path s = .ok (y, [])) :
    (Treatment.text chain).Makes fam stage path (.string s) y := by
  unfold transformText at h
  split at h
  · rename_i t ht
    cases h
    exact ⟨t, ht, rfl⟩
  · cases h

theorem makes_of_transformField_text (hdive : chain.dive = false)
    (h : transformField fam stage kind chain path x = .ok (y, [])) :
    (Treatment.text chain).Makes fam stage path x y := by
  cases x with
  | string s =>
    rw [transformField, hdive, if_neg Bool.false_ne_true] at h
    exact makes_of_transformText h
  | _ =>
    simp only [transformField, hdive, untouched, Bool.false_eq_true, if_false] at h
    cases h
    rfl

/-- A struct behind `dive` goes by its own schema. -/
theorem transformField_struct {type : String} (hdive : chain.dive = true)
    (hkind : kind.base = .struct type) :
    transformField fam stage kind chain path x =
      (fam.schema type).bind fun nested => transformObject fam stage nested path x := by
  cases x <;> simp [transformField, transformObject, passBy, hdive, hkind, Kind.element?] <;> rfl

theorem makes_of_transformField_elements {e : Kind} (hdive : chain.dive = true)
    (hkind : kind.element? = some e)
    (h : transformField fam stage kind chain path x = .ok (y, [])) :
    (Treatment.elements e chain).Makes fam stage path x y := by
  have hbase : kind.base = .list e ∨ kind.base = .map e := by
    unfold Kind.element? at hkind
    split at hkind <;> simp_all
  cases x with
  | array xs =>
    rw [transformField, hdive, if_pos rfl, hkind] at h
    simp only [bind_eq_ok, pure_eq_ok, Prod.mk.injEq] at h
    obtain ⟨⟨ys, ms⟩, hys, rfl, rfl⟩ := h
    exact ⟨ys, hys, rfl⟩
  | object es =>
    rw [transformField, hdive, if_pos rfl] at h
    rcases hbase with hbase | hbase <;>
    · simp only [hbase, bind_eq_ok, pure_eq_ok, Prod.mk.injEq] at h
      obtain ⟨⟨fs, ms⟩, hfs, rfl, rfl⟩ := h
      exact ⟨fs, hfs, rfl⟩
  | _ =>
    rcases hbase with hbase | hbase <;>
    · simp only [transformField, hdive, passBy, hbase, untouched, if_true] at h
      cases h
      rfl

/-- A field of any other kind is left alone by `dive`. -/
theorem transformField_other (hdive : chain.dive = true) (helement : kind.element? = none)
    (hstruct : ∀ type, kind.base ≠ .struct type) :
    transformField fam stage kind chain path x = untouched x := by
  unfold Kind.element? at helement
  cases hbase : kind.base <;>
    cases x <;> simp_all [transformField, passBy, Kind.element?]

/-- A field with a chain is made by what leads to it. -/
theorem madeBy_of_transformField (hf : schema.field? k = some f)
    (hchain : f.chain stage = some chain)
    (h : transformField fam stage f.kind chain path x = .ok (y, [])) :
    MadeBy fam stage path (Leads fam stage (.fields schema) (.key k)) x y := by
  cases hdive : chain.dive with
  | false =>
    exact .inl ⟨_, .field hf hchain hdive, makes_of_transformField_text hdive h⟩
  | true =>
    cases helement : f.kind.element? with
    | some e =>
      exact .inl ⟨_, .collection hf hchain hdive helement,
        makes_of_transformField_elements hdive helement h⟩
    | none =>
      by_cases hstruct : ∃ type, f.kind.base = .struct type
      · obtain ⟨type, hkind⟩ := hstruct
        rw [transformField_struct hdive hkind] at h
        obtain ⟨nested, hnested, h⟩ := bind_eq_ok.1 h
        exact .inl ⟨_, .struct hf hchain hdive hkind hnested, h⟩
      · rw [transformField_other hdive helement (not_exists.1 hstruct)] at h
        cases h
        refine .inr ⟨fun a ha => ?_, rfl⟩
        cases ha <;> simp_all

theorem makes_of_transformElement_text (hstring : kind.isString = true)
    (h : transformElement fam stage kind chain path x = .ok (y, [])) :
    (Treatment.text chain).Makes fam stage path x y := by
  cases x with
  | string s =>
    rw [transformElement, if_pos hstring] at h
    exact makes_of_transformText h
  | object es =>
    have hbase : kind.base = .string := by simpa [Kind.isString] using hstring
    simp only [transformElement, hbase, untouched] at h
    cases h
    rfl
  | _ =>
    simp only [transformElement, untouched] at h
    cases h
    rfl

/-- An element that is a struct goes by its own schema. -/
theorem transformElement_struct {type : String} (hkind : kind.base = .struct type)
    (hnested : fam.schema type = .ok nested) :
    transformElement fam stage kind chain path x = transformObject fam stage nested path x := by
  cases x <;> simp [transformElement, transformObject, Kind.isString, hkind, hnested, ok_bind]

/-- An element of any other kind is kept: it is left alone, or its type has no schema. -/
theorem kept_of_transformElement (hstring : kind.isString = false)
    (hstruct : ∀ type nested, kind.base = .struct type → fam.schema type ≠ .ok nested)
    (h : transformElement fam stage kind chain path x = .ok (y, [])) : y = x := by
  cases x with
  | object es =>
    rw [transformElement] at h
    split at h
    · rename_i type hkind
      obtain ⟨nested, hnested, -⟩ := bind_eq_ok.1 h
      exact absurd hnested (hstruct type nested hkind)
    · cases h
      rfl
  | _ =>
    simp only [transformElement, hstring, untouched, Bool.false_eq_true, if_false] at h
    cases h
    rfl

/-- An element of a list or a map is made by what leads to it. -/
theorem madeBy_of_transformElement
    (h : transformElement fam stage kind chain path x = .ok (y, [])) :
    MadeBy fam stage path (Leads fam stage (.elements kind chain) place) x y := by
  cases hstring : kind.isString with
  | true => exact .inl ⟨_, .element hstring, makes_of_transformElement_text hstring h⟩
  | false =>
    by_cases hstruct : ∃ type nested, kind.base = .struct type ∧ fam.schema type = .ok nested
    · obtain ⟨type, nested, hkind, hnested⟩ := hstruct
      rw [transformElement_struct hkind hnested] at h
      exact .inl ⟨_, .elementStruct hkind hnested, h⟩
    · have hnone : ∀ type nested, kind.base = .struct type → fam.schema type ≠ .ok nested :=
        fun type nested hkind hnested => hstruct ⟨type, nested, hkind, hnested⟩
      refine .inr ⟨fun a ha => ?_, kept_of_transformElement hstring hnone h⟩
      cases ha with
      | element hkind => exact absurd hkind (hstring ▸ Bool.false_ne_true)
      | elementStruct hkind hnested => exact hnone _ _ hkind hnested

/-- Items are made one by one, each with its index in its path. -/
theorem transformItems_eq_ok {i : Nat}
    (h : transformItems fam stage kind chain path i xs = .ok (ys, [])) :
    ys.length = xs.length ∧ ∀ j x, xs[j]? = some x → ∃ y, ys[j]? = some y ∧
      transformElement fam stage kind chain (itemPath path (i + j)) x = .ok (y, []) := by
  induction xs generalizing i ys with
  | nil =>
    cases h
    exact ⟨rfl, nofun⟩
  | cons x xs ih =>
    simp only [transformItems, bind_eq_ok, pure_eq_ok, Prod.mk.injEq, List.append_eq_nil_iff] at h
    obtain ⟨⟨y, ms⟩, hy, ⟨zs, more⟩, hzs, rfl, rfl, rfl⟩ := h
    obtain ⟨hlength, hitems⟩ := ih hzs
    refine ⟨by simp [hlength], fun j z hz => ?_⟩
    cases j with
    | zero =>
      cases hz
      exact ⟨y, rfl, hy⟩
    | succ j =>
      have := hitems j z hz
      rwa [Nat.add_right_comm] at this

theorem transformEntries_eq_ok
    (h : transformEntries fam stage kind chain path es = .ok (fs, [])) :
    List.Forall₂ (fun e f => e.1 = f.1 ∧
      transformElement fam stage kind chain (joinPath path e.1) e.2 = .ok (f.2, [])) es fs := by
  induction es generalizing fs with
  | nil =>
    cases h
    exact .nil
  | cons e es ih =>
    simp only [transformEntries, bind_eq_ok, pure_eq_ok, Prod.mk.injEq,
      List.append_eq_nil_iff] at h
    obtain ⟨⟨y, ms⟩, hy, ⟨zs, more⟩, hzs, rfl, rfl, rfl⟩ := h
    exact .cons ⟨rfl, hy⟩ (ih hzs)

/-- The outcome of a key is made by what leads to it, if no field has a message. -/
theorem madeBy_of_transformObject
    (h : transformObject fam stage schema path (.object es) = .ok (w, []))
    (hx : Json.lookup es k = some x) : ∃ fs y, w = .object fs ∧ Json.lookup fs k = some y ∧
      MadeBy fam stage (joinPath path k) (Leads fam stage (.fields schema) (.key k)) x y := by
  obtain ⟨fs, rfl, hfs⟩ := object_of_transformObject h
  obtain ⟨y, hy, ms, hout⟩ := Json.exists_lookup_of_rel
    (R := fun k x y => ∃ ms, entryOutcome fam stage schema path k x = .ok (y, ms)) hfs hx
  refine ⟨fs, y, rfl, hy, ?_⟩
  cases hfound : (schema.field? k).bind fun f => (f.chain stage).map fun c => (f.kind, c) with
  | none =>
    rw [entryOutcome, hfound] at hout
    cases hout
    refine .inr ⟨fun a ha => ?_, rfl⟩
    cases ha <;> simp_all
  | some found =>
    obtain ⟨f, hf, hmap⟩ := Option.bind_eq_some_iff.1 hfound
    obtain ⟨chain, hchain, rfl⟩ := Option.map_eq_some_iff.1 hmap
    have hname : f.name = k := by simpa using List.find?_some hf
    have hlookup : Json.lookup (transformFields fam stage schema path es) f.name =
        some (.ok (y, ms)) := by
      rw [transformFields_eq, Json.lookup_mapValues, hname, hx, Option.map_some, hout]
    obtain rfl := messages_of_assemble h (List.mem_of_find?_eq_some hf) hlookup
    rw [entryOutcome, hfound] at hout
    exact madeBy_of_transformField hf hchain hout

/-! ## What it makes at each place -/

namespace Treatment

/-- What a treatment makes of a value it makes of what stands at a place of it. -/
theorem Makes.step (h : a.Makes fam stage path x y) (hv : x.child? place = some v) :
    ∃ w, y.child? place = some w ∧
      MadeBy fam stage (placePath path place) (Leads fam stage a place) v w := by
  cases a with
  | text chain =>
    have hkept : y = x := by
      cases x <;> first | exact h | cases hv
    exact ⟨v, hkept ▸ hv, .inr ⟨nofun, rfl⟩⟩
  | elements kind chain =>
    cases x with
    | array xs =>
      cases place with
      | key k => cases hv
      | item i =>
        obtain ⟨ys, hys, rfl⟩ := h
        obtain ⟨w, hw, hmade⟩ := (transformItems_eq_ok hys).2 i v hv
        rw [Nat.zero_add] at hmade
        exact ⟨w, hw, madeBy_of_transformElement hmade⟩
    | object es =>
      cases place with
      | item i => cases hv
      | key k =>
        obtain ⟨fs, hfs, rfl⟩ := h
        obtain ⟨w, hw, hmade⟩ := Json.exists_lookup_of_rel
          (R := fun k x y =>
            transformElement fam stage kind chain (joinPath path k) x = .ok (y, []))
          (transformEntries_eq_ok hfs) hv
        exact ⟨w, hw, madeBy_of_transformElement hmade⟩
    | _ => cases hv
  | fields schema =>
    cases x with
    | object es =>
      cases place with
      | item i => cases hv
      | key k =>
        obtain ⟨fs, w, rfl, hw, hmade⟩ := madeBy_of_transformObject h hv
        exact ⟨w, hw, hmade⟩
    | array xs =>
      cases h
      refine ⟨v, hv, .inr ⟨fun b hb => ?_, rfl⟩⟩
      cases place with
      | key k => cases hv
      | item i => cases hb
    | _ => cases hv

/-- What a treatment makes of a value it makes of what stands at the end of each row of places. -/
theorem Makes.run (h : a.Makes fam stage path x y) (hv : x.at? p = some v) :
    ∃ w, y.at? p = some w ∧
      MadeBy fam stage (p.foldl placePath path) (Reach fam stage a p) v w := by
  induction p generalizing a path x y with
  | nil =>
    cases hv
    exact ⟨y, rfl, .inl ⟨a, .here, h⟩⟩
  | cons place p ih =>
    obtain ⟨x', hx', hv⟩ := Json.at?_cons_eq_some.1 hv
    obtain ⟨y', hy', hmade⟩ := h.step hx'
    rcases hmade with ⟨b, hb, hmade⟩ | ⟨hnone, rfl⟩
    · obtain ⟨w, hw, hmade⟩ := ih hmade hv
      refine ⟨w, Json.at?_cons_eq_some.2 ⟨y', hy', hw⟩, ?_⟩
      rcases hmade with ⟨c, hc, hmade⟩ | ⟨hnone, rfl⟩
      · exact .inl ⟨c, .inside hb hc, hmade⟩
      · refine .inr ⟨fun c hc => ?_, rfl⟩
        cases hc with
        | inside hb' hc => exact hnone c (hb.unique hb' ▸ hc)
    · refine ⟨v, Json.at?_cons_eq_some.2 ⟨y', hy', hv⟩, .inr ⟨fun c hc => ?_, rfl⟩⟩
      cases hc with
      | inside hb _ => exact hnone _ hb

/-- No treatment changes more of a value than strings. -/
theorem Makes.outline_eq (h : a.Makes fam stage path x y) : y.outline = x.outline := by
  cases a with
  | text chain =>
    cases x with
    | string s =>
      obtain ⟨t, -, rfl⟩ := h
      rfl
    | _ => exact congrArg Json.outline h
  | elements kind chain =>
    cases x with
    | array xs =>
      obtain ⟨ys, hys, rfl⟩ := h
      exact Json.outline_array (transformItems_eq_ok hys).1
    | object es =>
      obtain ⟨fs, hfs, rfl⟩ := h
      exact Json.outline_object (Json.keys_eq_of_rel (transformEntries_eq_ok hfs) fun _ _ h => h.1)
    | _ => exact congrArg Json.outline h
  | fields schema =>
    cases x with
    | object es =>
      obtain ⟨fs, rfl, hfs⟩ := object_of_transformObject h
      exact Json.outline_object (Json.keys_eq_of_rel hfs fun _ _ h => h.1)
    | _ =>
      cases h
      rfl

end Treatment

/-! ## The effect of a stage -/

/-- What a stage without a message makes of a value by a schema. -/
structure Effect (fam : Family) (stage : Stage) (schema : TypeSchema) (path : String)
    (v w : Json) : Prop where
  /-- Keys, lengths and leaves that are no strings stay, at every depth. -/
  frame : v.SameFrame w
  /-- A string that a chain is run on becomes what its operators make of it. -/
  text : ∀ p chain s, Reach fam stage (.fields schema) p (.text chain) →
    v.at? p = some (.string s) → ∃ t, w.at? p = some (.string t) ∧ InTurn chain.operators s t
  /-- A struct is made by its own schema. -/
  struct : ∀ p nested x, Reach fam stage (.fields schema) p (.fields nested) →
    v.at? p = some x → ∃ y, w.at? p = some y ∧
      transformObject fam stage nested (p.foldl placePath path) x = .ok (y, [])
  /-- Every other string stays. -/
  others : ∀ p s, (∀ chain, ¬ Reach fam stage (.fields schema) p (.text chain)) →
    v.at? p = some (.string s) → w.at? p = some (.string s)
  /-- A field that is undeclared or has no chain keeps its whole value. -/
  kept : ∀ p nested k, Reach fam stage (.fields schema) p (.fields nested) →
    (nested.field? k).bind (·.chain stage) = none →
      ∀ q, w.at? (p ++ .key k :: q) = v.at? (p ++ .key k :: q)

theorem effect (h : transformObject fam stage schema path v = .ok (w, [])) :
    Effect fam stage schema path v w := by
  have hrun : ∀ p x, v.at? p = some x → ∃ y, w.at? p = some y ∧
      MadeBy fam stage (p.foldl placePath path) (Reach fam stage (.fields schema) p) x y :=
    fun p x hx => Makes.run (a := .fields schema) h hx
  have hframe : v.SameFrame w := by
    refine Json.sameFrame_of_some fun p x hx => ?_
    obtain ⟨y, hy, ⟨b, -, hmade⟩ | ⟨-, rfl⟩⟩ := hrun p x hx
    · exact ⟨y, hy, hmade.outline_eq⟩
    · exact ⟨y, hy, rfl⟩
  constructor
  case frame => exact hframe
  case text =>
    intro p chain s hreach hs
    obtain ⟨y, hy, hmade⟩ := hrun p (.string s) hs
    obtain ⟨t, ht, rfl⟩ := hmade.makes hreach
    exact ⟨t, hy, apply_eq_ok.1 ht⟩
  case struct =>
    intro p nested x hreach hx
    obtain ⟨y, hy, hmade⟩ := hrun p x hx
    exact ⟨y, hy, hmade.makes hreach⟩
  case others =>
    intro p s hother hs
    obtain ⟨y, hy, ⟨b, hb, hmade⟩ | ⟨-, rfl⟩⟩ := hrun p (.string s) hs
    · cases b with
      | text chain => exact absurd hb (hother chain)
      | elements kind chain => exact hmade ▸ hy
      | fields nested => cases hmade; exact hy
    · exact hy
  case kept =>
    intro p nested k hreach hnone q
    cases hx : v.at? (p ++ .key k :: q) with
    | none => simpa [hx] using hframe (p ++ .key k :: q)
    | some x =>
      obtain ⟨y, hy, ⟨b, hb, -⟩ | ⟨-, rfl⟩⟩ := hrun _ x hx
      · exact absurd hb (hreach.stops hnone b)
      · exact hy

/-- A schema without operators leaves a value alone. -/
theorem transformObject_of_no_operators (h : schema.hasOperators stage = false) :
    transformObject fam stage schema path v = .ok (v, []) := by
  have hnone : ∀ f ∈ schema.fields, f.chain stage = none := by
    simpa [TypeSchema.hasOperators] using h
  have houtcome : entryOutcome fam stage schema path = fun _ x => untouched x := by
    funext k x
    rw [entryOutcome]
    cases hf : schema.field? k with
    | none => rfl
    | some f => rw [Option.bind_some, hnone f (List.mem_of_find?_eq_some hf)]; rfl
  cases v with
  | object es =>
    rw [transformObject, transformFields_eq, houtcome, assemble]
    simp only [bind_eq_ok, pure_eq_ok, mapM_eq_ok]
    refine ⟨schema.fields.map fun _ => [], ?_, es, ?_, by simp⟩
    · refine List.forall₂_map_right_iff.2 (List.forall₂_same.2 fun f _ => ?_)
      rw [Json.lookup_mapValues]
      cases Json.lookup es f.name <;> rfl
    · exact List.forall₂_map_left_iff.2 (List.forall₂_same.2 fun e _ => rfl)
  | _ => rfl

end RestKit.Schema

namespace RestKit.Body
open Schema

/-- **A stage changes the strings that its chains are run on, and nothing else.** -/
theorem stage_effect {m : Model} {stage : Stage} {v w j : Json} (hwritten : m.write v = some j)
    (h : m.transform stage v = .ok w) :
    ∃ schema u, m.family.schema m.type = .ok schema ∧ Effect m.family stage schema "" j u ∧
      if schema.hasOperators stage then m.shape.fit u = .ok w else u = j ∧ w = v := by
  have hrun := h
  simp only [Model.transform, Model.schema, bind_eq_ok, mapError_eq_ok] at hrun
  obtain ⟨schema, hschema, hrun⟩ := hrun
  cases hoperators : schema.hasOperators stage with
  | true =>
    obtain ⟨u, hu, hfit⟩ := transform_eq_ok hschema hoperators hwritten h
    exact ⟨schema, u, hschema, effect hu, (if_pos hoperators).mpr hfit⟩
  | false =>
    rw [hoperators] at hrun
    cases hrun
    exact ⟨schema, j, hschema, effect (transformObject_of_no_operators hoperators),
      by simp [hoperators]⟩

/-- Nodes of a tree that refer to nodes: as children and as a twin. -/
def trees : Family where
  registry := .builtin
  types := [("Node", [
    { name := "name", kind := .string, normalize := some "trim,lowercase" },
    { name := "labels", kind := .list (.optional .string), normalize := some "dive,trim" },
    { name := "children", kind := .list (.struct "Node"), normalize := some "dive" },
    { name := "twin", kind := .optional (.struct "Node"), normalize := some "dive" }])]

/-- A node with a child, with a twin whose labels are a map, and with a field that no node has. -/
def tree (name child label : String) : Json :=
  .object [
    ("children", .array [.object [("name", .string child)], .null]),
    ("labels", .array [.string label, .int 1]),
    ("name", .string name),
    ("remark", .string " kept "),
    ("twin", .object [("labels", .object [("first", .string label)])])]

theorem stage_effect_tree :
    let m : Model := { type := "Node", family := trees, shape := .any }
    let v := tree " Root " "A" " x "
    let w := tree "root" "a" "x"
    m.write v = some v ∧ m.transform .normalize v = .ok w ∧
      ∃ schema u, m.family.schema m.type = .ok schema ∧ Effect m.family .normalize schema "" v u ∧
        if schema.hasOperators .normalize then m.shape.fit u = .ok w else u = v ∧ w = v := by
  intro m v w
  have hwritten : m.write v = some v := rfl
  have h : m.transform .normalize v = .ok w := rfl
  exact ⟨hwritten, h, stage_effect hwritten h⟩

end RestKit.Body
