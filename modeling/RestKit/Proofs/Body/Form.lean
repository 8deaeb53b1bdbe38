import Mathlib.Data.List.ReduceOption
import RestKit.Body.Form
import RestKit.Proofs.Except
import RestKit.Proofs.Json.Ordered
import RestKit.Proofs.Schema.Layers
import RestKit.Proofs.Text.Blank
/-!
# Forms are read field by field

`TextReads` has one rule for each way in which a text is read as a kind, `TextsRead` for the texts
of a declared field, and `FieldReads` for a field of a form. A form is refused exactly if a declared
field cannot be read, under the names of all such fields; otherwise its object has the values that
the fields are read as. Both look at each field alone (`form_read_field_by_field`).
-/
namespace RestKit.Body
open Schema
open Json (KeyOrdered)

variable {kind : Kind} {raw name : String} {raws : List String} {v? : Option Json}
  {schema : TypeSchema} {form : Form}

/-! ## One text -/

/-- The kinds that are read as JSON where a single text stands for them. -/
def IsTree : Kind → Prop
  | .json | .list _ | .map _ | .struct _ => True
  | _ => False

/-- The ways in which a text is read as a kind, or as no value. -/
inductive TextReads : Kind → String → Option Json → Prop
  | optional {kind : Kind} {raw : String} {v? : Option Json} (reads : TextReads kind raw v?) :
    TextReads (.optional kind) raw v?
  | string {raw : String} : TextReads .string raw (some (.string raw))
  /-- A blank text is no value, unless a string is wanted. -/
  | blank {kind : Kind} {raw : String} (wanted : kind.base ≠ .string)
    (blank : Text.isBlankText raw = true) : TextReads kind raw none
  | int {raw : String} {n : Int} (filled : Text.isBlankText raw = false)
    (spelled : Numeral.int64? (Text.trim raw) = some n) : TextReads .int raw (some (.int n))
  | float {raw : String} {x : Double} (filled : Text.isBlankText raw = false)
    (spelled : Numeral.double? (Text.trim raw) = some x) (finite : x.isFinite = true) :
    TextReads .float raw (some (.number (.double x)))
  | yes {raw : String} (filled : Text.isBlankText raw = false)
    (word : Text.asciiLower (Text.trim raw) ∈ ["true", "1"]) :
    TextReads .bool raw (some (.bool true))
  | no {raw : String} (filled : Text.isBlankText raw = false)
    (word : Text.asciiLower (Text.trim raw) ∈ ["false", "0"]) :
    TextReads .bool raw (some (.bool false))
  | tree {kind : Kind} {raw : String} {v : Json} (tree : IsTree kind)
    (filled : Text.isBlankText raw = false) (read : Json.read raw = .ok v) :
    TextReads kind raw (some v)

/-- The values that a text is read as for a kind; for a tree any. -/
def HasKind : Kind → Json → Prop
  | .string, v => ∃ s, v = .string s
  | .int, v => ∃ n, v = .int n ∧ Numeral.int64Min ≤ n ∧ n ≤ Numeral.int64Max
  | .float, v => ∃ x, v = .number (.double x) ∧ x.isFinite = true
  | .bool, v => ∃ b, v = .bool b
  | .optional kind, v => HasKind kind v
  | .json, _ | .list _, _ | .map _, _ | .struct _, _ => True

theorem le_of_int64? {n : Int} (h : Numeral.int64? raw = some n) :
    Numeral.int64Min ≤ n ∧ n ≤ Numeral.int64Max := by
  unfold Numeral.int64? Numeral.intWithin? at h
  exact of_decide_eq_true (Option.filter_eq_some_iff.1 h).2

theorem TextReads.hasKind {v : Json} (h : TextReads kind raw (some v)) : HasKind kind v := by
  generalize hv : some v = v? at h
  induction h with
  | optional _ ih => exact ih hv
  | string => exact ⟨_, Option.some.inj hv⟩
  | blank => cases hv
  | int _ spelled => exact ⟨_, Option.some.inj hv, le_of_int64? spelled⟩
  | float _ _ finite => exact ⟨_, Option.some.inj hv, finite⟩
  | yes | no => exact ⟨_, Option.some.inj hv⟩
  | @tree kind raw v tree =>
    cases kind with
    | json | list | map | struct => trivial
    | _ => cases tree

theorem isEmpty_trim : (Text.trim raw).isEmpty = Text.isBlankText raw := by
  rw [Bool.eq_iff_iff, String.isEmpty_iff, Text.trim_eq_empty_iff]

theorem readJson_eq_ok (what : String) :
    readJson what raw = .ok v? ↔ ∃ v, Json.read raw = .ok v ∧ some v = v? := by
  unfold readJson
  cases Json.read raw with
  | ok v => simp
  | error f => simp

theorem coerceOne_of_blank (hwanted : kind.base ≠ .string) (hblank : Text.isBlankText raw = true) :
    coerceOne kind raw = .ok none := by
  unfold coerceOne
  dsimp only
  rw [isEmpty_trim, hblank]
  cases hbase : kind.base with
  | string => exact absurd hbase hwanted
  | _ => rfl

section Filled

variable (filled : Text.isBlankText raw = false)
include filled

theorem coerceOne_int :
    coerceOne .int raw = .ok v? ↔
      ∃ n, Numeral.int64? (Text.trim raw) = some n ∧ some (.int n) = v? := by
  simp only [coerceOne, Kind.base, isEmpty_trim, filled, if_neg Bool.false_ne_true]
  cases Numeral.int64? (Text.trim raw) with
  | none => simp
  | some n => simp

theorem coerceOne_float :
    coerceOne .float raw = .ok v? ↔ ∃ x, Numeral.double? (Text.trim raw) = some x ∧
      x.isFinite = true ∧ some (.number (.double x)) = v? := by
  simp only [coerceOne, Kind.base, isEmpty_trim, filled, if_neg Bool.false_ne_true]
  cases Numeral.double? (Text.trim raw) with
  | none => simp
  | some x =>
    rw [Option.filter_some]
    cases hfinite : x.isFinite with
    | true => simp [hfinite]
    | false => simp [hfinite]

theorem coerceOne_bool :
    coerceOne .bool raw = .ok v? ↔
      (Text.asciiLower (Text.trim raw) ∈ ["true", "1"] ∧ some (.bool true) = v?) ∨
        (Text.asciiLower (Text.trim raw) ∈ ["false", "0"] ∧ some (.bool false) = v?) := by
  simp only [coerceOne, Kind.base, isEmpty_trim, filled, if_neg Bool.false_ne_true]
  generalize Text.asciiLower (Text.trim raw) = word
  simp only [List.mem_cons, List.not_mem_nil, or_false, Bool.or_eq_true, beq_iff_eq]
  by_cases hyes : word = "true" ∨ word = "1"
  · have hno : ¬ (word = "false" ∨ word = "0") := by
      rcases hyes with rfl | rfl <;> decide
    simp [hyes, hno]
  · by_cases hno : word = "false" ∨ word = "0"
    · simp [hyes, hno]
    · simp [hyes, hno]

theorem coerceOne_tree (htree : IsTree kind) :
    coerceOne kind raw = .ok v? ↔ ∃ v, Json.read raw = .ok v ∧ some v = v? := by
  rw [← readJson_eq_ok "valid JSON"]
  cases kind with
  | json | list | map | struct => simp [coerceOne, Kind.base, isEmpty_trim, filled]
  | _ => cases htree

end Filled

theorem TextReads.coerceOne_eq (h : TextReads kind raw v?) : coerceOne kind raw = .ok v? := by
  induction h with
  | optional _ ih => exact ih
  | string => rfl
  | blank wanted blank => exact coerceOne_of_blank wanted blank
  | int filled spelled => exact (coerceOne_int filled).2 ⟨_, spelled, rfl⟩
  | float filled spelled finite => exact (coerceOne_float filled).2 ⟨_, spelled, finite, rfl⟩
  | yes filled word => exact (coerceOne_bool filled).2 (.inl ⟨word, rfl⟩)
  | no filled word => exact (coerceOne_bool filled).2 (.inr ⟨word, rfl⟩)
  | tree tree filled read => exact (coerceOne_tree filled tree).2 ⟨_, read, rfl⟩

theorem textReads_of_blank (hwanted : kind.base ≠ .string) (hblank : Text.isBlankText raw = true)
    (h : coerceOne kind raw = .ok v?) : TextReads kind raw v? := by
  rw [coerceOne_of_blank hwanted hblank] at h
  cases h
  exact .blank hwanted hblank

theorem textReads_of_tree (htree : IsTree kind) (h : coerceOne kind raw = .ok v?) :
    TextReads kind raw v? := by
  cases hblank : Text.isBlankText raw with
  | true =>
    refine textReads_of_blank (fun hbase => ?_) hblank h
    cases kind with
    | json | list | map | struct => cases hbase
    | _ => cases htree
  | false =>
    obtain ⟨v, read, rfl⟩ := (coerceOne_tree hblank htree).1 h
    exact .tree htree hblank read

theorem textReads_of_coerceOne (h : coerceOne kind raw = .ok v?) : TextReads kind raw v? := by
  induction kind with
  | optional kind ih => exact .optional (ih h)
  | string =>
    cases h
    exact .string
  | int =>
    cases hblank : Text.isBlankText raw with
    | true => exact textReads_of_blank nofun hblank h
    | false =>
      obtain ⟨n, spelled, rfl⟩ := (coerceOne_int hblank).1 h
      exact .int hblank spelled
  | float =>
    cases hblank : Text.isBlankText raw with
    | true => exact textReads_of_blank nofun hblank h
    | false =>
      obtain ⟨x, spelled, finite, rfl⟩ := (coerceOne_float hblank).1 h
      exact .float hblank spelled finite
  | bool =>
    cases hblank : Text.isBlankText raw with
    | true => exact textReads_of_blank nofun hblank h
    | false =>
      rcases (coerceOne_bool hblank).1 h with ⟨word, rfl⟩ | ⟨word, rfl⟩
      · exact .yes hblank word
      · exact .no hblank word
  | json | list | map | struct => exact textReads_of_tree trivial h

/-- The rules say what a text is read as. -/
theorem textReads_iff : TextReads kind raw v? ↔ coerceOne kind raw = .ok v? :=
  ⟨TextReads.coerceOne_eq, textReads_of_coerceOne⟩

/-! ## The texts of a field -/

/-- The ways in which the texts of a field are read as its kind. A list takes all of them, blank
ones apart, or a single text that starts as an array; any other kind takes the last one. -/
inductive TextsRead : Kind → List String → Option Json → Prop
  | optional {kind : Kind} {raws : List String} {v? : Option Json}
    (reads : TextsRead kind raws v?) : TextsRead (.optional kind) raws v?
  | last {kind : Kind} {before : List String} {raw : String} {v? : Option Json}
    (single : ∀ e, kind.base ≠ .list e) (reads : TextReads kind raw v?) :
    TextsRead kind (before ++ [raw]) v?
  | array {e : Kind} {raw : String} {v : Json}
    (opens : Text.startsWith '[' (Text.trimStart raw) = true) (read : Json.read raw = .ok v) :
    TextsRead (.list e) [raw] (some v)
  | items {e : Kind} {raws : List String} {vs : List (Option Json)}
    (opens : ∀ raw, raws = [raw] → Text.startsWith '[' (Text.trimStart raw) = false)
    (reads : List.Forall₂ (TextReads e) raws vs) :
    TextsRead (.list e) raws (some (.array vs.reduceOption))

theorem TextsRead.hasKind {v : Json} (h : TextsRead kind raws (some v)) : HasKind kind v := by
  generalize hv : some v = v? at h
  induction h with
  | optional _ ih => exact ih hv
  | last _ reads =>
    rw [← hv] at reads
    exact reads.hasKind
  | array | items => trivial

theorem reduceOption_cons (v : Option Json) (vs : List (Option Json)) :
    (v :: vs).reduceOption = v.toList ++ vs.reduceOption := by
  cases v with
  | none => exact List.reduceOption_cons_of_none vs
  | some v => exact List.reduceOption_cons_of_some v vs

theorem coerceItems_eq_ok {xs : List Json} :
    coerceItems kind raws = .ok xs ↔
      ∃ vs, List.Forall₂ (TextReads kind) raws vs ∧ vs.reduceOption = xs := by
  induction raws generalizing xs with
  | nil => simp [coerceItems]
  | cons raw raws ih =>
    simp only [coerceItems, bind_eq_ok, pure_eq_ok, ih, ← textReads_iff, List.forall₂_cons_left_iff]
    constructor
    · rintro ⟨v, hv, _, ⟨vs, hvs, rfl⟩, rfl⟩
      exact ⟨_, ⟨v, vs, hv, hvs, rfl⟩, reduceOption_cons v vs⟩
    · rintro ⟨_, ⟨v, vs, hv, hvs, rfl⟩, rfl⟩
      exact ⟨v, hv, _, ⟨vs, hvs, rfl⟩, (reduceOption_cons v vs).symm⟩

theorem coerceField_array {e : Kind} (opens : Text.startsWith '[' (Text.trimStart raw) = true) :
    coerceField (.list e) [raw] = .ok v? ↔ ∃ v, Json.read raw = .ok v ∧ some v = v? := by
  rw [← readJson_eq_ok "a JSON array"]
  simp [coerceField, Kind.base, opens]

theorem coerceField_items {e : Kind}
    (opens : ∀ raw, raws = [raw] → Text.startsWith '[' (Text.trimStart raw) = false) :
    coerceField (.list e) raws = .ok v? ↔
      ∃ vs, List.Forall₂ (TextReads e) raws vs ∧ some (.array vs.reduceOption) = v? := by
  have hitems : coerceField (.list e) raws =
      (coerceItems e raws).map fun xs => some (.array xs) := by
    cases raws with
    | nil => rfl
    | cons raw raws =>
      cases raws with
      | nil => simp [coerceField, Kind.base, opens raw rfl]
      | cons raw' raws => rfl
  rw [hitems, map_eq_ok]
  simp only [coerceItems_eq_ok]
  constructor
  · rintro ⟨_, ⟨vs, hvs, rfl⟩, rfl⟩
    exact ⟨vs, hvs, rfl⟩
  · rintro ⟨vs, hvs, rfl⟩
    exact ⟨_, ⟨vs, hvs, rfl⟩, rfl⟩

theorem coerceField_last {before : List String} (single : ∀ e, kind.base ≠ .list e) :
    coerceField kind (before ++ [raw]) = coerceOne kind raw := by
  unfold coerceField
  cases hbase : kind.base with
  | list e => exact absurd hbase (single e)
  | _ => simp

theorem textsRead_of_single (single : ∀ e, kind.base ≠ .list e) (hgiven : raws ≠ [])
    (h : coerceField kind raws = .ok v?) : TextsRead kind raws v? := by
  have hsplit : raws.dropLast ++ [raws.getLast hgiven] = raws := List.dropLast_append_getLast hgiven
  rw [← hsplit] at h ⊢
  rw [coerceField_last single] at h
  exact .last single (textReads_iff.2 h)

theorem textsRead_of_list {e : Kind} (h : coerceField (.list e) raws = .ok v?) :
    TextsRead (.list e) raws v? := by
  by_cases hopens : ∃ raw, raws = [raw] ∧ Text.startsWith '[' (Text.trimStart raw) = true
  · obtain ⟨raw, rfl, opens⟩ := hopens
    obtain ⟨v, read, rfl⟩ := (coerceField_array opens).1 h
    exact .array opens read
  · have opens : ∀ raw, raws = [raw] → Text.startsWith '[' (Text.trimStart raw) = false := by
      simpa using hopens
    obtain ⟨vs, reads, rfl⟩ := (coerceField_items opens).1 h
    exact .items opens reads

/-- The rules say what the texts of a field are read as. -/
theorem textsRead_iff (hgiven : raws ≠ []) :
    TextsRead kind raws v? ↔ coerceField kind raws = .ok v? := by
  constructor
  · intro h
    induction h with
    | optional _ ih => exact ih hgiven
    | last single reads => rw [coerceField_last single, reads.coerceOne_eq]
    | array opens read => exact (coerceField_array opens).2 ⟨_, read, rfl⟩
    | items opens reads => exact (coerceField_items opens).2 ⟨_, reads, rfl⟩
  · intro h
    induction kind with
    | optional kind ih => exact .optional (ih h)
    | list e => exact textsRead_of_list h
    | _ => exact textsRead_of_single (fun e he => by cases he) hgiven h

/-! ## One field -/

/-- The ways in which a field of a form is read. A field that is not declared stays a text, or a
list of texts if it is repeated. -/
inductive FieldReads (schema : TypeSchema) (name : String) : List String → Option Json → Prop
  | empty : FieldReads schema name [] none
  | declared {f : FieldSchema} {raws : List String} {v? : Option Json}
    (declared : schema.field? name = some f) (given : raws ≠ [])
    (reads : TextsRead f.kind raws v?) : FieldReads schema name raws v?
  | text {raw : String} (missing : schema.field? name = none) :
    FieldReads schema name [raw] (some (.string raw))
  | texts {raw raw' : String} {raws : List String} (missing : schema.field? name = none) :
    FieldReads schema name (raw :: raw' :: raws)
      (some (.array ((raw :: raw' :: raws).map .string)))

theorem FieldReads.hasKind {f : FieldSchema} {v : Json}
    (h : FieldReads schema name raws (some v)) (hf : schema.field? name = some f) :
    HasKind f.kind v := by
  cases h with
  | declared declared _ reads =>
    cases hf.symm.trans declared
    exact reads.hasKind
  | text missing | texts missing => cases hf.symm.trans missing

/-- A declared field whose texts are read in no way. -/
structure Misread (schema : TypeSchema) (name : String) (raws : List String) : Prop where
  declared : ∃ f, schema.field? name = some f ∧ ∀ v?, ¬ TextsRead f.kind raws v?
  given : raws ≠ []

theorem fieldValue_declared {f : FieldSchema} (declared : schema.field? name = some f)
    (given : raws ≠ []) : fieldValue schema name raws = coerceField f.kind raws := by
  unfold fieldValue
  rw [if_neg (by simpa using given), declared]

theorem fieldValue_undeclared (missing : schema.field? name = none) (given : raws ≠ []) :
    fieldValue schema name raws = .ok (some (undeclared raws)) := by
  unfold fieldValue
  rw [if_neg (by simpa using given), missing]

/-- The rules say what a field is read as. -/
theorem fieldReads_iff :
    FieldReads schema name raws v? ↔ fieldValue schema name raws = .ok v? := by
  constructor
  · intro h
    cases h with
    | empty => rfl
    | declared declared given reads =>
      rw [fieldValue_declared declared given]
      exact (textsRead_iff given).1 reads
    | text missing => exact fieldValue_undeclared missing (List.cons_ne_nil _ _)
    | texts missing => exact fieldValue_undeclared missing (List.cons_ne_nil _ _)
  · intro h
    by_cases given : raws = []
    · subst given
      cases h
      exact .empty
    · cases hfield : schema.field? name with
      | some f =>
        rw [fieldValue_declared hfield given] at h
        exact .declared hfield given ((textsRead_iff given).2 h)
      | none =>
        rw [fieldValue_undeclared hfield given] at h
        cases h
        cases raws with
        | nil => exact absurd rfl given
        | cons raw raws =>
          cases raws with
          | nil => exact .text hfield
          | cons raw' raws => exact .texts hfield

/-- A field fails exactly if it is declared and its texts are read in no way. -/
theorem misread_iff :
    Misread schema name raws ↔ ∃ message, fieldValue schema name raws = .error message := by
  rw [exists_error_iff, not_exists]
  constructor
  · rintro ⟨⟨f, declared, hreads⟩, given⟩ v? h
    rw [fieldValue_declared declared given] at h
    exact hreads v? ((textsRead_iff given).2 h)
  · intro h
    have given : raws ≠ [] := by
      rintro rfl
      exact h none rfl
    cases hfield : schema.field? name with
    | none => exact absurd (fieldValue_undeclared hfield given) (h _)
    | some f =>
      refine ⟨⟨f, hfield, fun v? reads => h v? ?_⟩, given⟩
      rw [fieldValue_declared hfield given]
      exact (textsRead_iff given).1 reads

/-! ## The form -/

/-- What two results say of a name is the same: its message, its value, or that it is no fault. -/
def SameAt (name : String) : Except FieldErrors Json → Except FieldErrors Json → Prop
  | .ok v, .ok w => v.get? name = w.get? name
  | .error es, .error fs => Json.lookup es name = Json.lookup fs name
  | .error es, .ok _ | .ok _, .error es => Json.lookup es name = none

theorem fieldFault?_eq_some {field : String × List String} {fault : String × String} :
    fieldFault? schema field = some fault ↔
      fault.1 = field.1 ∧ fieldValue schema field.1 field.2 = .error fault.2 := by
  unfold fieldFault?
  obtain ⟨name, message⟩ := fault
  cases fieldValue schema field.1 field.2 with
  | ok v? => simp
  | error m => simp [eq_comm]

theorem fieldPair?_eq_some {field : String × List String} {pair : String × Json} :
    fieldPair? schema field = some pair ↔
      pair.1 = field.1 ∧ FieldReads schema field.1 field.2 (some pair.2) := by
  rw [fieldReads_iff]
  unfold fieldPair?
  obtain ⟨name, v⟩ := pair
  cases fieldValue schema field.1 field.2 with
  | ok v? =>
    cases v? with
    | none => simp
    | some v => simp [eq_comm]
  | error m => simp

theorem fieldFault?_ne_none {field : String × List String} :
    fieldFault? schema field ≠ none ↔ Misread schema field.1 field.2 := by
  rw [misread_iff, Option.ne_none_iff_exists']
  simp only [fieldFault?_eq_some, Prod.exists, exists_and_left, exists_eq_left]

theorem fieldFault?_key (field : String × List String) (fault : String × String)
    (h : fieldFault? schema field = some fault) : fault.1 = field.1 := (fieldFault?_eq_some.1 h).1

theorem fieldPair?_key (field : String × List String) (pair : String × Json)
    (h : fieldPair? schema field = some pair) : pair.1 = field.1 := (fieldPair?_eq_some.1 h).1

theorem formValue_eq_error {es : FieldErrors} :
    formValue schema form = .error es ↔
      form.filterMap (fieldFault? schema) ≠ [] ∧ form.filterMap (fieldFault? schema) = es := by
  unfold formValue
  cases form.filterMap (fieldFault? schema) with
  | nil => simp
  | cons fault faults => simp

theorem formValue_eq_ok {v : Json} :
    formValue schema form = .ok v ↔ form.filterMap (fieldFault? schema) = [] ∧
      .object (form.filterMap (fieldPair? schema)) = v := by
  unfold formValue
  cases form.filterMap (fieldFault? schema) with
  | nil => simp
  | cons fault faults => simp

/-- **Forms are read field by field.** A form is refused exactly if a declared field of it cannot be
read as its kind, and the messages name exactly these fields. Otherwise the form gives an object of
the values that its fields are read as and of no others, those of declared fields of their kinds.
And what is said of one name depends on the texts of that name alone. -/
theorem form_read_field_by_field (schema : TypeSchema) (form : Form) (hform : KeyOrdered form) :
    ((∃ es, formValue schema form = .error es) ↔ ∃ field ∈ form, Misread schema field.1 field.2) ∧
    (∀ es, formValue schema form = .error es → KeyOrdered es ∧
      ∀ name, name ∈ es.map (·.1) ↔ ∃ raws, (name, raws) ∈ form ∧ Misread schema name raws) ∧
    (∀ v, formValue schema form = .ok v → ∃ es, v = .object es ∧ KeyOrdered es ∧
      (∀ name x, (name, x) ∈ es ↔ ∃ raws, (name, raws) ∈ form ∧
        FieldReads schema name raws (some x)) ∧
      ∀ name x f, (name, x) ∈ es → schema.field? name = some f → HasKind f.kind x) ∧
    ∀ form' name, KeyOrdered form' → Json.lookup form' name = Json.lookup form name →
      SameAt name (formValue schema form) (formValue schema form') := by
  refine ⟨?refused, ?faults, ?object, ?frame⟩
  case refused =>
    simp only [formValue_eq_error, exists_eq_right', ← fieldFault?_ne_none]
    rw [ne_eq, List.filterMap_eq_nil_iff]
    simp only [not_forall, exists_prop, ne_eq]
  case faults =>
    intro es h
    obtain ⟨-, rfl⟩ := formValue_eq_error.1 h
    refine ⟨hform.filterMap fieldFault?_key, fun name => ?_⟩
    rw [List.mem_map]
    constructor
    · rintro ⟨⟨_, message⟩, hfault, rfl⟩
      obtain ⟨raws, hraws, h⟩ := (Json.mem_filterMap_key fieldFault?_key).1 hfault
      exact ⟨raws, hraws, misread_iff.2 ⟨message, (fieldFault?_eq_some.1 h).2⟩⟩
    · rintro ⟨raws, hraws, hmisread⟩
      obtain ⟨message, h⟩ := misread_iff.1 hmisread
      have hfault : fieldFault? schema (name, raws) = some (name, message) :=
        fieldFault?_eq_some.2 ⟨rfl, h⟩
      exact ⟨_, (Json.mem_filterMap_key fieldFault?_key).2 ⟨raws, hraws, hfault⟩, rfl⟩
  case object =>
    intro v h
    obtain ⟨-, rfl⟩ := formValue_eq_ok.1 h
    have hmem : ∀ name x, (name, x) ∈ form.filterMap (fieldPair? schema) ↔
        ∃ raws, (name, raws) ∈ form ∧ FieldReads schema name raws (some x) := by
      intro name x
      rw [Json.mem_filterMap_key fieldPair?_key]
      simp only [fieldPair?_eq_some, true_and]
    refine ⟨_, rfl, hform.filterMap fieldPair?_key, hmem, fun name x f hx hf => ?_⟩
    obtain ⟨raws, -, reads⟩ := (hmem name x).1 hx
    exact reads.hasKind hf
  case frame =>
    intro form' name hform' hlookup
    have hfaults : Json.lookup (form.filterMap (fieldFault? schema)) name =
        Json.lookup (form'.filterMap (fieldFault? schema)) name := by
      rw [hform.lookup_filterMap fieldFault?_key,
        hform'.lookup_filterMap fieldFault?_key, hlookup]
    have hpairs : Json.lookup (form.filterMap (fieldPair? schema)) name =
        Json.lookup (form'.filterMap (fieldPair? schema)) name := by
      rw [hform.lookup_filterMap fieldPair?_key,
        hform'.lookup_filterMap fieldPair?_key, hlookup]
    cases hr : formValue schema form with
    | ok v =>
      obtain ⟨hnone, rfl⟩ := formValue_eq_ok.1 hr
      cases hr' : formValue schema form' with
      | ok w =>
        obtain ⟨-, rfl⟩ := formValue_eq_ok.1 hr'
        exact hpairs
      | error fs =>
        obtain ⟨-, rfl⟩ := formValue_eq_error.1 hr'
        rw [hnone] at hfaults
        exact hfaults.symm
    | error es =>
      obtain ⟨-, rfl⟩ := formValue_eq_error.1 hr
      cases hr' : formValue schema form' with
      | ok w =>
        obtain ⟨hnone, -⟩ := formValue_eq_ok.1 hr'
        rw [hnone] at hfaults
        exact hfaults
      | error fs =>
        obtain ⟨-, rfl⟩ := formValue_eq_error.1 hr'
        exact hfaults

/-- A profile with a repeated flag, a blank number, a list with a blank text and a note that is not
declared; and the same form with two faults. -/
theorem form_read_field_by_field_profile :
    let declare (name : String) (kind : Kind) : FieldSchema := ⟨name, kind, none, none, none⟩
    let schema : TypeSchema := ⟨"Profile", [declare "active" .bool, declare "age" (.optional .int),
      declare "name" .string, declare "scores" (.list .int)]⟩
    let form : Form := [("active", ["no", " TRUE"]), ("age", [" "]), ("name", [" Ada "]),
      ("note", ["a", "b"]), ("scores", ["3", "", "-1"])]
    let faulty : Form := [("active", ["no", "2"]), ("age", [" "]), ("name", [" Ada "]),
      ("note", ["a", "b"]), ("scores", ["3", "x"])]
    let es : List (String × Json) := [("active", .bool true), ("name", .string " Ada "),
      ("note", .array [.string "a", .string "b"]), ("scores", .array [.int 3, .int (-1)])]
    (KeyOrdered form ∧ formValue schema form = .ok (.object es) ∧
      ∀ name x, (name, x) ∈ es ↔ ∃ raws, (name, raws) ∈ form ∧
        FieldReads schema name raws (some x)) ∧
    (KeyOrdered faulty ∧ ∀ name, name ∈ ["active", "scores"] ↔
      ∃ raws, (name, raws) ∈ faulty ∧ Misread schema name raws) ∧
    SameAt "name" (formValue schema form) (formValue schema faulty) := by
  intro declare schema form faulty es
  have hform : KeyOrdered form := by
    unfold KeyOrdered
    decide
  have hfaulty : KeyOrdered faulty := by
    unfold KeyOrdered
    decide
  have hvalue : formValue schema form = .ok (.object es) := by decide +kernel
  have hrefused : formValue schema faulty = .error
      [("active", "must be a boolean (true, false, 1 or 0)"),
        ("scores", "must be a valid integer")] := by
    decide +kernel
  obtain ⟨-, -, hobject, hframe⟩ := form_read_field_by_field schema form hform
  obtain ⟨-, hfaults, -, -⟩ := form_read_field_by_field schema faulty hfaulty
  obtain ⟨_, hes, -, hmem, -⟩ := hobject _ hvalue
  cases hes
  exact ⟨⟨hform, hvalue, hmem⟩, ⟨hfaulty, (hfaults _ hrefused).2⟩, hframe faulty "name" hfaulty rfl⟩

end RestKit.Body
