import RestKit.Proofs.Schema.Effect
import RestKit.Proofs.Schema.Fault
import RestKit.Proofs.Schema.Layers
import RestKit.Proofs.Schema.Registry
/-!
# The strings of a field

A tag with operators is accepted on a kind that is built of strings as soon as the kind fits the tag
from outside: a string without `dive`, a list or a map with it (`accepted_of_compileField`). A stage
comes to the strings of the field, or behind `dive` to those among its elements, and to nothing
deeper. So each string of the field becomes what the operators make of it if the kind has one layer
at most, and all of them stay if it has more (`Effect.replaced_iff`).
-/
namespace RestKit.Schema
open Json (Place)

variable {fam : Family} {stage : Stage} {schema : TypeSchema} {rule : FieldRule} {f : FieldSchema}
  {chain : Chain} {operators : List TextOperator} {type tag path s : String} {p q : List Place}
  {v w x y : Json}

/-! ## What an accepted tag is -/

/-- The tag of a field for a stage. -/
def FieldRule.stageTag (rule : FieldRule) : Stage → Option String
  | .normalize => rule.normalize
  | .sanitize => rule.sanitize

/-- The operators that the names of a tag are bound to, in order. -/
def Resolves (r : Registry) (stage : Stage) (tag : String) (operators : List TextOperator) : Prop :=
  List.Forall₂ (fun name op => r.find? stage name = some op)
    ((tagTokens tag).filter (· != "dive")) operators

/-- A declared field of an accepted type, with a tag for a stage that names an operator. -/
structure Tagged (fam : Family) (type : String) (schema : TypeSchema) (stage : Stage)
    (rule : FieldRule) (tag : String) : Prop where
  accepted : fam.schema type = .ok schema
  declared : rule ∈ fam.declared type
  tag_eq : rule.stageTag stage = some tag
  named : ∃ name ∈ tagTokens tag, name ≠ "dive"

/-- A field as it is compiled from a tag: the operators of the tag, and a kind that fits the tag. -/
structure Accepted (r : Registry) (stage : Stage) (rule : FieldRule) (tag : String)
    (f : FieldSchema) (operators : List TextOperator) : Prop where
  kind_eq : f.kind = rule.kind
  resolves : Resolves r stage tag operators
  chain_eq : f.chain stage = some ⟨operators, (tagTokens tag).contains "dive"⟩
  fits : if "dive" ∈ tagTokens tag then f.kind.canDive = true else f.kind.isString = true

theorem accepted_of_compileChain {r : Registry} {c : Option Chain}
    (hnamed : ∃ name ∈ tagTokens tag, name ≠ "dive")
    (h : TypeSchema.compileChain r type rule stage (some tag) = .ok c) :
    ∃ operators, Resolves r stage tag operators ∧
      c = some ⟨operators, (tagTokens tag).contains "dive"⟩ ∧
      if "dive" ∈ tagTokens tag then rule.kind.canDive = true else rule.kind.isString = true := by
  simp only [TypeSchema.compileChain, bind_eq_ok] at h
  obtain ⟨operators, hoperators, h⟩ := h
  have hresolves : Resolves r stage tag operators := TypeSchema.resolveAll_eq_ok.1 hoperators
  have hsome : operators.isEmpty = false := by
    obtain ⟨name, hname, hne⟩ := hnamed
    obtain ⟨op, hop, -⟩ := mem_of_forall₂_left hresolves
      (List.mem_filter.2 ⟨hname, by simpa using hne⟩)
    cases operators with
    | nil => cases hop
    | cons => rfl
  refine ⟨operators, hresolves, ?_⟩
  split at h
  · cases h
  · rename_i hdive
    split at h
    · cases h
    · rename_i hstring
      simp only [hsome, Bool.false_and, Bool.false_eq_true, if_false, pure_eq_ok] at h
      refine ⟨h.symm, ?_⟩
      by_cases hmem : "dive" ∈ tagTokens tag
      · simpa [hmem] using hdive
      · simpa [hmem, hsome] using hstring

theorem chain_of_compileField {r : Registry} (h : TypeSchema.compileField r type rule = .ok f) :
    f.kind = rule.kind ∧ ∀ stage,
      TypeSchema.compileChain r type rule stage (rule.stageTag stage) = .ok (f.chain stage) := by
  simp only [TypeSchema.compileField, bind_eq_ok, pure_eq_ok] at h
  obtain ⟨normalize, hnormalize, sanitize, hsanitize, validate, -, rfl⟩ := h
  refine ⟨rfl, fun stage => ?_⟩
  cases stage with
  | normalize => exact hnormalize
  | sanitize => exact hsanitize

theorem Tagged.field (h : Tagged fam type schema stage rule tag) :
    ∃ f operators, schema.field? rule.name = some f ∧
      Accepted fam.registry stage rule tag f operators := by
  obtain ⟨f, hf, hfield⟩ := field?_of_rule h.accepted h.declared
  obtain ⟨hkind, hchains⟩ := chain_of_compileField hfield
  have hchain := hchains stage
  rw [h.tag_eq] at hchain
  obtain ⟨operators, hresolves, hsome, hfits⟩ := accepted_of_compileChain h.named hchain
  exact ⟨f, operators, hf, hkind, hresolves, hsome, hkind ▸ hfits⟩

/-! ## Where its operators are run -/

/-- Where the kind has one layer at most, the operators are run on every string. -/
theorem Accepted.reach_text (h : Accepted fam.registry stage rule tag f operators)
    (hf : schema.field? rule.name = some f) (hcore : rule.kind.core = .string)
    (hlayers : rule.kind.layers ≤ 1) (hlength : p.length = rule.kind.layers) :
    Reach fam stage (.fields schema) (.key rule.name :: p)
      (.text ⟨operators, (tagTokens tag).contains "dive"⟩) := by
  have hfits := h.fits
  rw [h.kind_eq] at hfits
  by_cases hdive : "dive" ∈ tagTokens tag
  · -- An accepted `dive` says that there is a layer, and the elements are strings.
    rw [if_pos hdive, Kind.canDive_iff hcore] at hfits
    cases helement : rule.kind.element? with
    | none =>
      have hzero := Kind.element?_eq_none.1 helement
      omega
    | some e =>
      have he : e.layers = 0 := by
        have := Kind.layers_of_element? helement
        omega
      obtain ⟨place, rfl⟩ : ∃ place, p = [place] := List.length_eq_one_iff.1 (by omega)
      have hstring : e.isString = true :=
        (Kind.isString_iff ((Kind.core_of_element? helement).trans hcore)).2 he
      exact .inside (.collection hf h.chain_eq (by simpa using hdive) (h.kind_eq ▸ helement))
        (.inside (.element hstring) .here)
  · rw [if_neg hdive, Kind.isString_iff hcore] at hfits
    obtain rfl : p = [] := List.length_eq_zero_iff.1 (hlength.trans hfits)
    exact .inside (.field hf h.chain_eq (by simpa using hdive)) .here

/-- Where the kind has more layers, no operator of any chain is run on a string of the field. -/
theorem Accepted.not_reach_text (h : Accepted fam.registry stage rule tag f operators)
    (hf : schema.field? rule.name = some f) (hcore : rule.kind.core = .string)
    (hlayers : 1 < rule.kind.layers) (c : Chain) :
    ¬ Reach fam stage (.fields schema) (.key rule.name :: p) (.text c) := by
  intro hreach
  have hfits := h.fits
  rw [h.kind_eq] at hfits
  have hdive : "dive" ∈ tagTokens tag := by
    by_contra hdive
    rw [if_neg hdive, Kind.isString_iff hcore] at hfits
    omega
  cases helement : rule.kind.element? with
  | none =>
    have hzero := Kind.element?_eq_none.1 helement
    omega
  | some e =>
    have hecore : e.core = .string := (Kind.core_of_element? helement).trans hcore
    have hleads : Leads fam stage (.fields schema) (.key rule.name)
        (.elements e ⟨operators, (tagTokens tag).contains "dive"⟩) :=
      .collection hf h.chain_eq (by simpa using hdive) (h.kind_eq ▸ helement)
    cases hreach with
    | inside hfirst hrest =>
      obtain rfl := hfirst.unique hleads
      cases hrest with
      | inside hinner _ =>
        -- The elements have a layer of their own: they are neither strings nor structs.
        cases hinner with
        | element hstring =>
          have hzero := (Kind.isString_iff hecore).1 hstring
          have := Kind.layers_of_element? helement
          omega
        | elementStruct hbase _ =>
          rw [← Kind.core_base, hbase] at hecore
          cases hecore

/-! ## What becomes of the strings -/

/-- Each string in one value has become, in the other, what the operators make of it in turn. -/
def Replaced (operators : List TextOperator) (x y : Json) : Prop :=
  ∀ p s, x.at? p = some (.string s) → ∃ t, y.at? p = some (.string t) ∧ InTurn operators s t

/-- **What a stage makes of the strings of a field.** -/
theorem Effect.replaced_iff (h : Effect fam stage schema path v w)
    (htag : Tagged fam type schema stage rule tag) (hcore : rule.kind.core = .string)
    (hx : v.child? (.key rule.name) = some x) (hheld : rule.kind.Holds x) :
    ∃ operators y, Resolves fam.registry stage tag operators ∧
      w.child? (.key rule.name) = some y ∧
      (Replaced operators x y ↔ rule.kind.layers ≤ 1 ∨ Replaced operators x x) := by
  obtain ⟨f, operators, hf, haccepted⟩ := htag.field
  obtain ⟨y, hy⟩ : ∃ y, w.child? (.key rule.name) = some y := by
    have hv : v.at? [.key rule.name] = some x := Json.at?_singleton.trans hx
    obtain ⟨y, hy⟩ := h.frame.exists_at? hv
    exact ⟨y, Json.at?_singleton.symm.trans hy⟩
  refine ⟨operators, y, haccepted.resolves, hy, ?_⟩
  by_cases hlayers : rule.kind.layers ≤ 1
  · refine iff_of_true ?_ (.inl hlayers)
    intro p s hs
    have hreach := haccepted.reach_text hf hcore hlayers (hheld.length_eq hs)
    obtain ⟨t, ht, hturn⟩ := h.text _ _ s hreach ((Json.at?_cons_of_child? hx).trans hs)
    exact ⟨t, (Json.at?_cons_of_child? hy).symm.trans ht, hturn⟩
  · have hkept : ∀ p s, x.at? p = some (.string s) → y.at? p = some (.string s) := by
      intro p s hs
      have hnone : ∀ c, ¬ Reach fam stage (.fields schema) (.key rule.name :: p) (.text c) :=
        haccepted.not_reach_text hf hcore (not_le.1 hlayers)
      have hother := h.others _ s hnone ((Json.at?_cons_of_child? hx).trans hs)
      rwa [Json.at?_cons_of_child? hy] at hother
    have hsame : Replaced operators x y ↔ Replaced operators x x := by
      refine forall₃_congr fun p s hs => ?_
      rw [hkept p s hs, hs]
    simp only [hsame, hlayers, false_or]

end RestKit.Schema

namespace RestKit.Body
open Json (Place)
open Schema

theorem hasOperators_of_reach {fam : Family} {stage : Stage} {root schema : TypeSchema}
    {p : List Place} {f : FieldSchema} {chain : Chain} {k : String}
    (hreach : Reach fam stage (.fields root) p (.fields schema))
    (hf : schema.field? k = some f) (hchain : f.chain stage = some chain) :
    root.hasOperators stage = true := by
  have hfield : ∀ {schema : TypeSchema} {k : String} {f : FieldSchema} {chain : Chain},
      schema.field? k = some f → f.chain stage = some chain →
        schema.hasOperators stage = true := by
    intro schema k f chain hf hchain
    exact List.any_eq_true.2 ⟨f, List.mem_of_find?_eq_some hf, by rw [hchain]; rfl⟩
  cases hreach with
  | here => exact hfield hf hchain
  | inside hleads _ => cases hleads <;> exact hfield ‹_› ‹_›

/-- **Where the operators of a tag are run.** A field of the body's type, or of a struct that the
stage goes by, has a kind that is built of strings and an accepted tag with an operator. The stage
replaces every string of the field by what the operators make of it exactly if the kind has one
layer of lists and maps at most, or the operators leave all these strings as they are. -/
theorem strings_replaced_iff {m : Model} {stage : Stage} {v w j x : Json}
    {root schema : TypeSchema} {type tag : String} {rule : FieldRule} {p : List Place}
    (hwritten : m.write v = some j) (h : m.transform stage v = .ok w)
    (hroot : m.family.schema m.type = .ok root)
    (hreach : Reach m.family stage (.fields root) p (.fields schema))
    (htag : Tagged m.family type schema stage rule tag) (hcore : rule.kind.core = .string)
    (hx : j.at? (p ++ [.key rule.name]) = some x) (hheld : rule.kind.Holds x) :
    ∃ operators u y, Resolves m.family.registry stage tag operators ∧
      transformObject m.family stage root "" j = .ok (u, []) ∧ m.shape.fit u = .ok w ∧
      u.at? (p ++ [.key rule.name]) = some y ∧
      (Replaced operators x y ↔ rule.kind.layers ≤ 1 ∨ Replaced operators x x) := by
  obtain ⟨f, _, hf, haccepted⟩ := htag.field
  have hoperators : root.hasOperators stage = true :=
    hasOperators_of_reach hreach hf haccepted.chain_eq
  obtain ⟨u, hu, hfit⟩ := transform_eq_ok hroot hoperators hwritten h
  obtain ⟨z, hz, hx⟩ := Json.at?_append_eq_some.1 hx
  obtain ⟨z', hz', hmade⟩ := (effect hu).struct p schema z hreach hz
  obtain ⟨operators, y, hresolves, hy, hiff⟩ :=
    (effect hmade).replaced_iff htag hcore (Json.at?_singleton.symm.trans hx) hheld
  refine ⟨operators, u, y, hresolves, hu, hfit, ?_, hiff⟩
  exact Json.at?_append_eq_some.2 ⟨z', hz', Json.at?_singleton.trans hy⟩

/-- Notes with labels, with sheets of lines, and with notes that reply to them. -/
def notes : Model where
  type := "Note"
  family := {
    registry := .builtin
    types := [("Note", [
      { name := "labels", kind := .list (.optional .string), normalize := some "dive,trim" },
      { name := "sheets", kind := .list (.list .string), normalize := some "dive,trim" },
      { name := "replies", kind := .list (.struct "Note"), normalize := some "dive" }])] }
  shape := .any

def noteLabels : FieldRule where
  name := "labels"
  kind := .list (.optional .string)
  normalize := some "dive,trim"

def noteSheets : FieldRule where
  name := "sheets"
  kind := .list (.list .string)
  normalize := some "dive,trim"

/-- The labels of a note that replies to another one. -/
theorem strings_replaced_iff_reply :
    let labels : String → Json := fun s => .array [.string s, .null]
    let v : String → Json := fun s => .object [("replies", .array [.object [("labels", labels s)]])]
    ∃ schema, notes.family.schema "Note" = .ok schema ∧
      notes.transform .normalize (v " a ") = .ok (v "a") ∧
      Reach notes.family .normalize (.fields schema) [.key "replies", .item 0] (.fields schema) ∧
      Tagged notes.family "Note" schema .normalize noteLabels "dive,trim" ∧
      noteLabels.kind.Holds (labels " a ") ∧
      ∃ operators u y, Resolves notes.family.registry .normalize "dive,trim" operators ∧
        transformObject notes.family .normalize schema "" (v " a ") = .ok (u, []) ∧
        notes.shape.fit u = .ok (v "a") ∧
        u.at? [.key "replies", .item 0, .key "labels"] = some y ∧
        (Replaced operators (labels " a ") y ↔
          noteLabels.kind.layers ≤ 1 ∨ Replaced operators (labels " a ") (labels " a ")) := by
  intro labels v
  have htransform : notes.transform .normalize (v " a ") = .ok (v "a") := rfl
  obtain ⟨schema, hschema⟩ : ∃ schema, notes.family.schema "Note" = .ok schema := ⟨_, rfl⟩
  have hreach : Reach notes.family .normalize (.fields schema) [.key "replies", .item 0]
      (.fields schema) := by
    have hfields := hschema
    cases hfields
    exact .inside (.collection rfl rfl rfl rfl) (.inside (.elementStruct rfl hschema) .here)
  have htag : Tagged notes.family "Note" schema .normalize noteLabels "dive,trim" :=
    ⟨hschema, by decide, rfl, "trim", by decide, by decide⟩
  have hheld : noteLabels.kind.Holds (labels " a ") := by
    refine .list fun x hx => ?_
    rcases List.mem_cons.1 hx with rfl | hx
    · exact .present .string
    · obtain rfl := List.mem_singleton.1 hx
      exact .absent
  exact ⟨schema, hschema, htransform, hreach, htag, hheld,
    strings_replaced_iff (p := [.key "replies", .item 0]) rfl htransform hschema hreach htag rfl
      rfl hheld⟩

/-- The tag of the sheets is accepted, and a line in them keeps its blanks. -/
theorem line_of_sheet_kept :
    let x : Json := .array [.array [.string " a "]]
    let v : Json := .object [("sheets", x)]
    ∃ schema operators, Tagged notes.family "Note" schema .normalize noteSheets "dive,trim" ∧
      Resolves notes.family.registry .normalize "dive,trim" operators ∧
      noteSheets.kind.core = .string ∧ noteSheets.kind.Holds x ∧
      notes.transform .normalize v = .ok v ∧ ¬ Replaced operators x x := by
  intro x v
  have hheld : noteSheets.kind.Holds x := by
    refine .list fun y hy => ?_
    obtain rfl := List.mem_singleton.1 hy
    refine .list fun z hz => ?_
    obtain rfl := List.mem_singleton.1 hz
    exact .string
  refine ⟨_, [total "trim" Text.trim], ⟨rfl, by decide, rfl, "trim", by decide, by decide⟩,
    .cons rfl .nil, rfl, hheld, rfl, ?_⟩
  intro h
  obtain ⟨t, ht, hturn⟩ := h [.item 0, .item 0] " a " rfl
  cases ht
  cases hturn with
  | cons hfirst hrest =>
    cases hrest
    have hne : Text.trim " a " ≠ " a " := by decide
    exact hne (Except.ok.inj hfirst)

end RestKit.Body
