import RestKit.Body.Model
import RestKit.Proofs.Schema.Fault
/-!
# What validation finds

A struct value is reached from a body through fields that are structs (`Reaches`). Validation looks
only into values whose enclosing types all declare rules of their own, and it fails exactly if one
of the values that it looks into breaks a rule of its type (`check_error_iff`). A value inside a
struct without rules is not looked into (`item_of_plain_order_unchecked`).
-/
namespace RestKit.Schema

variable {fam : Family} {schema : TypeSchema} {kind : Kind} {rules : Option RuleSet}
  {P : TypeSchema → Prop} {type inner : String} {v w : Json}

/-- The value `w` of the type `inner` stands in the value `v` of a type: it is `v`, or is reached
through fields that are structs. `P` holds of the schemas of all enclosing types. -/
inductive Reaches (fam : Family) (P : TypeSchema → Prop) : String → Json → String → Json → Prop
  | refl {type : String} {v : Json} : Reaches fam P type v type v
  | field {type next inner : String} {v w : Json} {schema : TypeSchema} {f : FieldSchema}
    {es : List (String × Json)} (hschema : fam.schema type = .ok schema) (hP : P schema)
    (hf : f ∈ schema.fields) (hkind : f.kind.base = .struct next)
    (hvalue : v.get? f.name = some (.object es)) (h : Reaches fam P next (.object es) inner w) :
    Reaches fam P type v inner w

/-- A value fails its own rules, or one of its elements does. -/
def BreaksRule (fam : Family) (kind : Kind) (rules : Option RuleSet) (v : Json) : Prop :=
  ∃ s ∈ rules, (s.check kind v).isSome ∨
    ∃ d ∈ s.dive, ∃ e ∈ kind.element?, ∃ x ∈ v.elements, Fault fam e (some d) x

/-- A value breaks a rule that its type declares for one of the fields. -/
def BreaksSchema (fam : Family) (schema : TypeSchema) (v : Json) : Prop :=
  ∃ f ∈ schema.fields, BreaksRule fam f.kind f.validate (fieldValue v f.name)

/-- A value is no good value of a type: the type's schema is broken, or the value breaks a rule. -/
def Refuses (fam : Family) (type : String) (v : Json) : Prop :=
  ∀ schema, fam.schema type = .ok schema → BreaksSchema fam schema v

theorem hasRules_of_breaks (h : BreaksSchema fam schema v) : schema.HasRules := by
  obtain ⟨f, hf, s, hs, -⟩ := h
  exact List.any_eq_true.2 ⟨f, hf, by rw [Option.mem_def.1 hs]; rfl⟩

theorem fault_of_breaksRule (h : BreaksRule fam kind rules v) : Fault fam kind rules v := by
  obtain ⟨s, rfl, h | ⟨d, hd, e, he, x, hx, h⟩⟩ := h
  · obtain ⟨message, hmessage⟩ := Option.isSome_iff_exists.1 h
    exact .rule hmessage
  · exact .element hd he hx h

theorem fieldValue_eq_object {es : List (String × Json)} {name : String} :
    fieldValue v name = .object es ↔ v.get? name = some (.object es) := by
  unfold fieldValue
  cases v.get? name <;> simp

/-- What a validated struct is asked: a schema, and no fault in a field if the type has rules. -/
def StructFault (fam : Family) (type : String) (v : Json) : Prop :=
  ∀ schema, fam.schema type = .ok schema → schema.HasRules ∧ FieldFault fam schema v

/-- A fault is a broken rule of the value itself, or of a struct that is reached from it. -/
theorem reaches_of_fault (h : Fault fam kind rules v) :
    BreaksRule fam kind rules v ∨
      ∃ es type inner w, v = .object es ∧ kind.base = .struct type ∧
        Reaches fam TypeSchema.HasRules type v inner w ∧ Refuses fam inner w := by
  induction h with
  | rule h => exact Or.inl ⟨_, rfl, Or.inl (by rw [h]; rfl)⟩
  | element hdive hkind hx h _ => exact Or.inl ⟨_, rfl, Or.inr ⟨_, hdive, _, hkind, _, hx, h⟩⟩
  | unknown hkind h =>
    exact Or.inr ⟨_, _, _, _, rfl, hkind, .refl, fun _ hok => by cases h.symm.trans hok⟩
  | @field kind rules type es schema f hkind hschema hrules hf _ ih =>
    rcases ih with ih | ⟨fs, next, inner, w, hv, hnext, hreach, hw⟩
    · refine Or.inr ⟨es, type, type, .object es, rfl, hkind, .refl, fun schema' hok => ?_⟩
      cases hschema.symm.trans hok
      exact ⟨f, hf, ih⟩
    · rw [hv] at hreach
      exact Or.inr ⟨es, type, inner, w, rfl, hkind,
        .field hschema hrules hf hnext (fieldValue_eq_object.1 hv) hreach, hw⟩

/-- A struct has a fault exactly if a struct that is reached from it, through types with rules, is
refused by its type. -/
theorem structFault_iff : StructFault fam type v ↔
    ∃ inner w, Reaches fam TypeSchema.HasRules type v inner w ∧ Refuses fam inner w := by
  constructor
  · intro h
    cases hschema : fam.schema type with
    | error cause => exact ⟨type, v, .refl, fun _ hok => by cases hschema.symm.trans hok⟩
    | ok schema =>
      obtain ⟨hrules, f, hf, hfault⟩ := h schema hschema
      rcases reaches_of_fault hfault with hrule | ⟨es, next, inner, w, hv, hnext, hreach, hw⟩
      · refine ⟨type, v, .refl, fun schema' hok => ?_⟩
        cases hschema.symm.trans hok
        exact ⟨f, hf, hrule⟩
      · rw [hv] at hreach
        exact ⟨inner, w, .field hschema hrules hf hnext (fieldValue_eq_object.1 hv) hreach, hw⟩
  · rintro ⟨inner, w, hreach, hw⟩
    induction hreach with
    | refl =>
      intro schema hok
      obtain ⟨f, hf, hrule⟩ := hw schema hok
      exact ⟨hasRules_of_breaks ⟨f, hf, hrule⟩, f, hf, fault_of_breaksRule hrule⟩
    | @field type next inner v w schema f es hschema hP hf hkind hvalue _ ih =>
      intro schema' hok
      cases hschema.symm.trans hok
      refine ⟨hP, f, hf, ?_⟩
      rw [fieldValue_eq_object.2 hvalue]
      cases hnext : fam.schema next with
      | error cause => exact .unknown hkind hnext
      | ok nested =>
        obtain ⟨hrules, g, hg, hfault⟩ := ih hw nested hnext
        exact .field hkind hnext hrules hg hfault

end RestKit.Schema

namespace RestKit.Body
open Schema

variable {m : Model} {ctx : Context} {v j : Json}

/-- The stage without a hook succeeds exactly if the type's schema compiles and no field of a type
with rules has a fault. -/
theorem check_ok_iff (hhook : m.validate ctx v = .ok false) (hwritten : m.write v = some j) :
    m.check ctx v = .ok () ↔ ∃ schema, m.family.schema m.type = .ok schema ∧
      ¬ (schema.HasRules ∧ FieldFault m.family schema j) := by
  have hj : m.written v = .ok j := by rw [Model.written, hwritten]
  rw [Model.check, hhook]
  simp only [bind_eq_ok, Model.schema, mapError_eq_ok, Except.ok.injEq, exists_eq_left',
    Bool.false_eq_true, if_false]
  refine exists_congr fun schema => and_congr_right fun hschema => ?_
  cases htags : schema.hasValidateTags with
  | false => simp [TypeSchema.HasRules, htags, pure_eq_ok]
  | true =>
    have hrules : schema.HasRules := htags
    simp only [hrules, true_and, Bool.not_true, Bool.false_eq_true, if_false, bind_eq_ok, hj,
      Except.ok.injEq, exists_eq_left', mapError_eq_ok]
    constructor
    · rintro ⟨messages, hmessages, h⟩
      cases messages with
      | nil => exact (checkObject_eq_nil hschema j).1 hmessages
      | cons => simp [throw_eq_ok] at h
    · exact fun h => ⟨[], (checkObject_eq_nil hschema j).2 h, rfl⟩

/-- **What validation finds.** The stage without a hook fails exactly if a struct value that is
reached from the body, through types that all have rules of their own, breaks a rule of its type or
has a type whose schema is broken. -/
theorem check_error_iff (hhook : m.validate ctx v = .ok false) (hwritten : m.write v = some j) :
    (∃ e, m.check ctx v = .error e) ↔ ∃ inner w,
      Reaches m.family TypeSchema.HasRules m.type j inner w ∧ Refuses m.family inner w := by
  rw [exists_error_iff, ← structFault_iff]
  have hok : (∃ u, m.check ctx v = .ok u) ↔ m.check ctx v = .ok () :=
    ⟨fun ⟨_, h⟩ => h, fun h => ⟨(), h⟩⟩
  rw [hok, check_ok_iff hhook hwritten]
  simp only [StructFault, not_exists, not_and_not_right]

/-- Orders, whose item is optional and has to have a code. -/
def orders (itemRules : Option String) : Family where
  registry := ⟨[]⟩
  types := [
    ("Order", [{ name := "item", kind := .optional (.struct "Item"), validate := itemRules }]),
    ("Item", [{ name := "code", kind := .string, validate := some "required" }])]

def itemCode : FieldSchema where
  name := "code"
  kind := .string
  normalize := none
  sanitize := none
  validate := some { rules := [⟨.required, none⟩] }

def orderItem (rules : Option RuleSet) : FieldSchema where
  name := "item"
  kind := .optional (.struct "Item")
  normalize := none
  sanitize := none
  validate := rules

def codelessItem : Json := .object [("code", .string "")]

theorem orders_schema_item (itemRules : Option String) :
    (orders itemRules).schema "Item" = .ok { name := "Item", fields := [itemCode] } :=
  rfl

theorem breaksSchema_codelessItem {fam : Family} :
    BreaksSchema fam { name := "Item", fields := [itemCode] } codelessItem := by
  have h : (RuleSet.check { rules := [⟨.required, none⟩] } .string (.string "")).isSome := by
    decide
  exact ⟨itemCode, List.mem_singleton_self _, _, rfl, Or.inl h⟩

/-- An item with an empty code inside an order that has a rule of its own. -/
theorem check_error_iff_item :
    let m : Model := { type := "Order", family := orders (some "required"), shape := .any }
    let ctx : Context := .detached .development
    let order : Json := .object [("item", codelessItem)]
    m.validate ctx order = .ok false ∧ m.write order = some order ∧
      Reaches m.family TypeSchema.HasRules "Order" order "Item" codelessItem ∧
      Refuses m.family "Item" codelessItem ∧ ∃ e, m.check ctx order = .error e := by
  intro m ctx order
  have hschema : m.family.schema "Order" =
      .ok { name := "Order", fields := [orderItem (some { rules := [⟨.required, none⟩] })] } := rfl
  have hreach : Reaches m.family TypeSchema.HasRules "Order" order "Item" codelessItem :=
    .field hschema rfl (List.mem_singleton_self _) rfl rfl .refl
  have hrefused : Refuses m.family "Item" codelessItem := by
    intro schema hok
    cases (orders_schema_item _).symm.trans hok
    exact breaksSchema_codelessItem
  exact ⟨rfl, rfl, hreach, hrefused, (check_error_iff rfl rfl).2 ⟨"Item", _, hreach, hrefused⟩⟩

/-- The same item inside an order that declares no rules of its own is not looked at. -/
theorem item_of_plain_order_unchecked :
    let m : Model := { type := "Order", family := orders none, shape := .any }
    let ctx : Context := .detached .development
    let order : Json := .object [("item", codelessItem)]
    m.validate ctx order = .ok false ∧ m.write order = some order ∧
      Reaches m.family (fun _ => True) "Order" order "Item" codelessItem ∧
      (∃ schema, m.family.schema "Item" = .ok schema ∧
        BreaksSchema m.family schema codelessItem) ∧
      m.check ctx order = .ok () := by
  intro m ctx order
  have hschema : m.family.schema "Order" = .ok { name := "Order", fields := [orderItem none] } :=
    rfl
  have hreach : Reaches m.family (fun _ => True) "Order" order "Item" codelessItem :=
    .field hschema trivial (List.mem_singleton_self _) rfl rfl .refl
  refine ⟨rfl, rfl, hreach, ⟨_, orders_schema_item _, breaksSchema_codelessItem⟩, ?_⟩
  exact (check_ok_iff rfl rfl).2 ⟨_, hschema, fun h => Bool.false_ne_true h.1⟩

end RestKit.Body
