import RestKit.Proofs.Except
import RestKit.Proofs.Json.Entries
import RestKit.Proofs.Json.Inside
import RestKit.Proofs.Keyed
import RestKit.Schema.Check
/-!
# Faults

`Fault fam kind rules v` says that a value of a kind, with rules of its own, is not as its
declaration asks: it fails a rule, one of its elements fails the rules behind `dive`, or it is a
struct whose type declares rules and one of whose fields has a fault. The check of a value gives no
message exactly if the value has no fault (`checked`).
-/
namespace RestKit.Schema

variable {fam : Family} {schema : TypeSchema} {kind : Kind} {rules : Option RuleSet}
  {path type : String} {es : List (String × Json)}

/-! ## Compiled schemas name each field once -/

theorem name_of_compileField {r : Registry} {f : FieldRule} {s : FieldSchema}
    (h : TypeSchema.compileField r type f = .ok s) : s.name = f.name := by
  simp only [TypeSchema.compileField, bind_eq_ok, pure_eq_ok] at h
  obtain ⟨_, -, _, -, _, -, rfl⟩ := h
  rfl

theorem names_of_compileFields {r : Registry} {seen : List String} {fs : List FieldRule}
    {ss : List FieldSchema} (h : TypeSchema.compileFields r type seen fs = .ok ss) :
    (ss.map (·.name)).Nodup ∧ ∀ s ∈ ss, s.name ∉ seen := by
  induction fs generalizing seen ss with
  | nil =>
    cases h
    exact ⟨List.nodup_nil, nofun⟩
  | cons f fs ih =>
    simp only [TypeSchema.compileFields, List.contains_iff_mem] at h
    split at h
    · simp only [bind_eq_ok, throw_eq_ok, false_and, exists_false] at h
    · rename_i hfirst
      simp only [bind_eq_ok, pure_eq_ok] at h
      obtain ⟨s, hs, ss', hss', rfl⟩ := h
      obtain ⟨hnodup, hnew⟩ := ih hss'
      have hname : s.name = f.name := name_of_compileField hs
      refine ⟨List.nodup_cons.2 ⟨fun hmem => ?_, hnodup⟩, fun t ht => ?_⟩
      · obtain ⟨t, ht, hts⟩ := List.mem_map.1 hmem
        exact hnew t ht (hts.trans hname ▸ List.mem_cons_self ..)
      · rcases List.mem_cons.1 ht with rfl | ht
        · exact hname ▸ hfirst
        · exact fun hmem => hnew t ht (List.mem_cons_of_mem _ hmem)

/-- Each declared field is compiled. -/
theorem mem_of_compileFields {r : Registry} {seen : List String} {fs : List FieldRule}
    {ss : List FieldSchema} {f : FieldRule} (h : TypeSchema.compileFields r type seen fs = .ok ss)
    (hf : f ∈ fs) : ∃ s ∈ ss, TypeSchema.compileField r type f = .ok s := by
  induction fs generalizing seen ss with
  | nil => cases hf
  | cons g fs ih =>
    simp only [TypeSchema.compileFields] at h
    split at h
    · simp only [bind_eq_ok, throw_eq_ok, false_and, exists_false] at h
    · simp only [bind_eq_ok, pure_eq_ok] at h
      obtain ⟨t, ht, ts, hts, rfl⟩ := h
      rcases List.mem_cons.1 hf with rfl | hf
      · exact ⟨t, List.mem_cons_self .., ht⟩
      · obtain ⟨s, hs, hfield⟩ := ih hts hf
        exact ⟨s, List.mem_cons_of_mem _ hs, hfield⟩

theorem nodup_names (h : fam.schema type = .ok schema) : (schema.fields.map (·.name)).Nodup := by
  simp only [Family.schema, TypeSchema.compile, bind_eq_ok, pure_eq_ok] at h
  obtain ⟨fields, hfields, rfl⟩ := h
  exact (names_of_compileFields hfields).1

/-- A field is found by its name. -/
theorem field?_of_mem (h : (schema.fields.map (·.name)).Nodup) {f : FieldSchema}
    (hf : f ∈ schema.fields) : schema.field? f.name = some f :=
  (find?_key_eq_some h).2 ⟨hf, rfl⟩

/-- The declared fields of a type. -/
def Family.declared (fam : Family) (type : String) : List FieldRule :=
  (Json.lookup fam.types type).getD []

/-- A declared field is found in the type's schema, as it is compiled. -/
theorem field?_of_rule (h : fam.schema type = .ok schema) {f : FieldRule}
    (hf : f ∈ fam.declared type) :
    ∃ s, schema.field? f.name = some s ∧
      TypeSchema.compileField fam.registry type f = .ok s := by
  have hnodup := nodup_names h
  simp only [Family.schema, TypeSchema.compile, bind_eq_ok, pure_eq_ok] at h
  obtain ⟨fields, hfields, rfl⟩ := h
  obtain ⟨s, hs, hfield⟩ := mem_of_compileFields hfields hf
  refine ⟨s, ?_, hfield⟩
  rw [← name_of_compileField hfield]
  exact field?_of_mem hnodup hs

/-! ## Faults -/

/-- The value of a field; a missing one counts as null. -/
def fieldValue (v : Json) (name : String) : Json := (v.get? name).getD .null

/-- A type that has rules for some field. -/
def TypeSchema.HasRules (s : TypeSchema) : Prop := s.hasValidateTags = true

/-- A value is not as its declaration asks. -/
inductive Fault (fam : Family) : Kind → Option RuleSet → Json → Prop
  | rule {kind : Kind} {s : RuleSet} {v : Json} {message : String}
    (h : s.check kind v = some message) : Fault fam kind (some s) v
  | element {kind e : Kind} {s d : RuleSet} {v x : Json} (hdive : s.dive = some d)
    (hkind : kind.element? = some e) (hx : x ∈ v.elements) (h : Fault fam e (some d) x) :
    Fault fam kind (some s) v
  | unknown {kind : Kind} {rules : Option RuleSet} {type : String} {es : List (String × Json)}
    {cause : SchemaError} (hkind : kind.base = .struct type) (h : fam.schema type = .error cause) :
    Fault fam kind rules (.object es)
  | field {kind : Kind} {rules : Option RuleSet} {type : String} {es : List (String × Json)}
    {schema : TypeSchema} {f : FieldSchema} (hkind : kind.base = .struct type)
    (hschema : fam.schema type = .ok schema) (hrules : schema.HasRules)
    (hf : f ∈ schema.fields) (h : Fault fam f.kind f.validate (fieldValue (.object es) f.name)) :
    Fault fam kind rules (.object es)

/-- Some field of a value has a fault. -/
def FieldFault (fam : Family) (schema : TypeSchema) (v : Json) : Prop :=
  ∃ f ∈ schema.fields, Fault fam f.kind f.validate (fieldValue v f.name)

/-- A value without a fault: it passes its rules, and so do its elements and its fields. -/
theorem not_fault_iff {v : Json} :
    ¬ Fault fam kind rules v ↔
      rules.bind (fun s => s.check kind v) = none ∧
      (∀ d ∈ rules.bind (·.dive), ∀ e ∈ kind.element?, ∀ x ∈ v.elements,
        ¬ Fault fam e (some d) x) ∧
      ∀ es, v = .object es → ∀ type, kind.base = .struct type →
        ∃ schema, fam.schema type = .ok schema ∧
          (schema.HasRules → ¬ FieldFault fam schema v) := by
  constructor
  · intro h
    refine ⟨Option.eq_none_iff_forall_ne_some.2 fun message hm => h ?_,
      fun d hd e he x hx hf => h ?_, ?_⟩
    · obtain ⟨s, rfl, hs⟩ := Option.bind_eq_some_iff.1 hm
      exact .rule hs
    · obtain ⟨s, rfl, hs⟩ := Option.bind_eq_some_iff.1 hd
      exact .element hs he hx hf
    · rintro es rfl type hkind
      cases hschema : fam.schema type with
      | error cause => exact absurd (.unknown hkind hschema) h
      | ok schema =>
        exact ⟨schema, rfl, fun hrules ⟨f, hf, hfault⟩ => h (.field hkind hschema hrules hf hfault)⟩
  · rintro ⟨hrule, helement, hfield⟩ h
    cases h with
    | rule h => simp [h] at hrule
    | element hdive hkind hx h => exact helement _ (by simpa using hdive) _ hkind _ hx h
    | unknown hkind h =>
      obtain ⟨schema, hschema, -⟩ := hfield _ rfl _ hkind
      cases h.symm.trans hschema
    | field hkind hschema hrules hf h =>
      obtain ⟨schema, hschema', hno⟩ := hfield _ rfl _ hkind
      cases hschema.symm.trans hschema'
      exact hno hrules ⟨_, hf, h⟩

/-- A null value has a fault only if it fails a rule. -/
theorem fault_null : Fault fam kind rules .null ↔ ∃ s ∈ rules, (s.check kind .null).isSome := by
  constructor
  · intro h
    cases h with
    | rule h => exact ⟨_, rfl, by rw [h]; rfl⟩
    | element _ _ hx _ => cases hx
  · rintro ⟨s, rfl, h⟩
    obtain ⟨message, hmessage⟩ := Option.isSome_iff_exists.1 h
    exact .rule hmessage

/-! ## Messages -/

/-- What a declared field of an object gives. -/
theorem lookup_checkFields {f : FieldSchema} (h : schema.field? f.name = some f) :
    Json.lookup (checkFields fam schema path es) f.name =
      (Json.lookup es f.name).map
        (checkValue fam f.kind f.validate (joinPath path f.name)) := by
  induction es with
  | nil => rfl
  | cons e es ih =>
    obtain ⟨k, x⟩ := e
    rw [Json.lookup_cons, checkFields]
    by_cases hk : k = f.name
    · subst hk
      rw [if_pos rfl, h]
      exact Json.lookup_cons.trans (if_pos rfl)
    · rw [if_neg hk, ← ih]
      cases schema.field? k with
      | none => rfl
      | some g => exact Json.lookup_cons.trans (if_neg hk)

theorem checkMissing_eq_nil {f : FieldSchema} :
    checkMissing path f = [] ↔ ¬ Fault fam f.kind f.validate .null := by
  rw [fault_null, checkMissing]
  cases f.validate with
  | none => simp
  | some s => cases h : s.check f.kind .null <;> simp [h]

/-- The check of a value is right: it gives no message exactly if there is no fault. -/
def Checked (fam : Family) (v : Json) : Prop :=
  ∀ kind rules path, checkValue fam kind rules path v = .ok [] ↔ ¬ Fault fam kind rules v

theorem checkItems_eq_nil {e : Kind} {d : RuleSet} {i : Nat} {xs : List Json}
    (h : ∀ x ∈ xs, Checked fam x) :
    checkItems fam e d path i xs = .ok [] ↔ ∀ x ∈ xs, ¬ Fault fam e (some d) x := by
  induction xs generalizing i with
  | nil => simp [checkItems]
  | cons x xs ih =>
    obtain ⟨hx, hxs⟩ := List.forall_mem_cons.1 h
    rw [checkItems, append_eq_ok_nil, hx, ih hxs, List.forall_mem_cons]

theorem checkEntries_eq_nil {e : Kind} {d : RuleSet}
    (h : ∀ x ∈ es.map (·.2), Checked fam x) :
    checkEntries fam e d path es = .ok [] ↔ ∀ x ∈ es.map (·.2), ¬ Fault fam e (some d) x := by
  induction es with
  | nil => simp [checkEntries]
  | cons x es ih =>
    obtain ⟨hx, hxs⟩ := List.forall_mem_cons.1 h
    rw [checkEntries, append_eq_ok_nil, hx, ih hxs, List.map_cons, List.forall_mem_cons]

/-- The fields of an object whose values are checked rightly. -/
theorem gather_eq_nil (hschema : fam.schema type = .ok schema)
    (h : ∀ x ∈ es.map (·.2), Checked fam x) :
    gather schema path (checkFields fam schema path es) = .ok [] ↔
      ¬ FieldFault fam schema (.object es) := by
  rw [gather, flatten_mapM_eq_ok_nil, FieldFault, not_exists]
  refine forall_congr' fun f => ?_
  rw [not_and]
  refine forall_congr' fun hf => ?_
  have hget : Json.get? (.object es) f.name = Json.lookup es f.name := rfl
  rw [lookup_checkFields (field?_of_mem (nodup_names hschema) hf), fieldValue, hget]
  cases hx : Json.lookup es f.name with
  | none => simpa using checkMissing_eq_nil
  | some x => exact h x (List.mem_map_of_mem (Json.mem_of_lookup hx)) ..

theorem checked_array {xs : List Json} (ih : ∀ x ∈ xs, Checked fam x) :
    Checked fam (.array xs) := by
  intro kind rules path
  rw [not_fault_iff]
  cases rules with
  | none => simp [checkValue]
  | some s =>
    simp only [checkValue, Option.bind_some]
    cases s.check kind (.array xs) with
    | some message => simp
    | none =>
      cases s.dive <;> cases kind.element? <;> simp [checkItems_eq_nil ih, Json.elements]

/-- The messages of an object's values behind `dive`. -/
def memberMessages (fam : Family) (kind : Kind) (rules : Option RuleSet) (path : String)
    (es : List (String × Json)) : Except SchemaError FieldErrors :=
  match rules.bind (·.dive), kind.element? with
  | some d, some e => checkEntries fam e d path es
  | _, _ => .ok []

/-- The messages of a struct's fields, if its type declares rules. -/
def structMessages (fam : Family) (kind : Kind) (path : String) (es : List (String × Json)) :
    Except SchemaError FieldErrors :=
  match kind.base with
  | .struct type => do
    let schema ← fam.schema type
    if schema.hasValidateTags then gather schema path (checkFields fam schema path es)
    else return []
  | _ => .ok []

/-- An object that passes its rules is checked inside. -/
theorem checkValue_object (h : rules.bind (fun s => s.check kind (.object es)) = none) :
    checkValue fam kind rules path (.object es) = do
      return (← memberMessages fam kind rules path es) ++
        (← structMessages fam kind path es) := by
  rw [checkValue, h]
  unfold memberMessages structMessages
  cases kind.base with
  | struct type =>
    cases hschema : fam.schema type with
    | error cause =>
      cases rules.bind (·.dive) <;> cases kind.element? <;>
        simp [hschema, bind, Except.bind, pure, Except.pure]
    | ok schema =>
      cases rules.bind (·.dive) <;> cases kind.element? <;> cases hs : schema.hasValidateTags <;>
        simp [hschema, hs, bind, Except.bind, pure, Except.pure]
  | _ => cases rules.bind (·.dive) <;> cases kind.element? <;> rfl

theorem memberMessages_eq_nil (ih : ∀ x ∈ es.map (·.2), Checked fam x) :
    memberMessages fam kind rules path es = .ok [] ↔
      ∀ d ∈ rules.bind (·.dive), ∀ e ∈ kind.element?, ∀ x ∈ es.map (·.2),
        ¬ Fault fam e (some d) x := by
  unfold memberMessages
  cases rules.bind (·.dive) with
  | none => simp
  | some d =>
    cases kind.element? with
    | none => simp
    | some e => simpa using checkEntries_eq_nil ih

theorem structMessages_eq_nil (ih : ∀ x ∈ es.map (·.2), Checked fam x) :
    structMessages fam kind path es = .ok [] ↔
      ∀ type, kind.base = .struct type → ∃ schema, fam.schema type = .ok schema ∧
        (schema.HasRules → ¬ FieldFault fam schema (.object es)) := by
  unfold structMessages
  cases kind.base with
  | struct type =>
    simp only [bind_eq_ok, Kind.struct.injEq, forall_eq']
    refine exists_congr fun schema => and_congr_right fun hschema => ?_
    split
    · rename_i hrules
      rw [gather_eq_nil hschema ih]
      exact ⟨fun h _ => h, fun h => h hrules⟩
    · rename_i hrules
      exact iff_of_true rfl fun h => absurd h hrules
  | _ => simp

theorem checked_object (ih : ∀ x ∈ es.map (·.2), Checked fam x) : Checked fam (.object es) := by
  intro kind rules path
  rw [not_fault_iff]
  cases hrule : rules.bind fun s => s.check kind (.object es) with
  | some message => simp [checkValue, hrule]
  | none =>
    rw [checkValue_object hrule, append_eq_ok_nil, memberMessages_eq_nil ih,
      structMessages_eq_nil ih]
    simp [Json.elements]

/-- A value is as its declaration asks exactly if its check gives no message. -/
theorem checked (v : Json) : Checked fam v := by
  induction v using Json.elements_induction with
  | step v ih =>
    cases v with
    | array xs => exact checked_array ih
    | object es => exact checked_object ih
    | _ =>
      intro kind rules path
      rw [not_fault_iff]
      simp only [checkValue]
      cases rules.bind fun s => s.check kind _ <;> simp [Json.elements]

/-- The check of a body gives no message exactly if no field has a fault. -/
theorem checkObject_eq_nil (h : fam.schema type = .ok schema) (v : Json) :
    checkObject fam schema path v = .ok [] ↔ ¬ FieldFault fam schema v := by
  cases v with
  | object es => exact gather_eq_nil h fun x _ => checked x
  | _ =>
    have hempty : ∀ x ∈ ([] : List (String × Json)).map (·.2), Checked fam x := nofun
    exact gather_eq_nil h hempty

end RestKit.Schema
