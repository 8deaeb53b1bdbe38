import RestKit.Demo.Contacts
import RestKit.Proofs.Body.Validation
import RestKit.Proofs.Endpoint.Handler
import RestKit.Proofs.Json.Fits
import RestKit.Proofs.Schema.Rules
import RestKit.Proofs.Schema.Transform
import RestKit.Proofs.Text.Blank
/-!
# Contacts that come from bodies

A body that has been bound and has passed its stages describes a sound contact, whichever source it
was bound from (`sound_of_receive`). The last stage that changes a body reads it again as a record,
so its fields have their shapes; what was trimmed before is still trimmed then.
-/
namespace RestKit.Demo
open Schema Body

variable {ctx : Context} {source : Source} {b : ParsedBody} {v normal clean : Json}
  {es : List (String × Json)} {f : FieldSchema}

/-- What is asked of a stored contact. -/
structure Contact.Sound (c : Contact) : Prop where
  nameLength : 2 ≤ c.name.length ∧ c.name.length ≤ 100
  /-- The name neither starts nor ends with a blank. -/
  nameEnds : ∀ ch, c.name.toList.head? = some ch ∨ c.name.toList.getLast? = some ch →
    Text.isBlank ch = false
  age : 0 ≤ c.age ∧ c.age ≤ 150
  tagCount : c.tags.length ≤ 10
  tags : ∀ t ∈ c.tags, t ≠ "" ∧ ∀ ch ∈ t.toList, Text.isAlphanumeric ch = true

/-! ## The schema of a new contact -/

def nameField : FieldSchema where
  name := "name"
  kind := .string
  normalize := some ⟨[total "trim" Text.trim], false⟩
  sanitize := none
  validate := some { rules := [⟨.required, none⟩, ⟨.min, some "2"⟩, ⟨.max, some "100"⟩] }

def emailField : FieldSchema where
  name := "email"
  kind := .string
  normalize := some ⟨[total "trim" Text.trim, total "lowercase" Text.lowercase], false⟩
  sanitize := some ⟨[total "html" Html.sanitize], false⟩
  validate := some { rules := [⟨.required, none⟩, ⟨.email, none⟩] }

def ageField : FieldSchema where
  name := "age"
  kind := .int
  normalize := none
  sanitize := none
  validate := some { rules := [⟨.gte, some "0"⟩, ⟨.lte, some "150"⟩] }

def tagsField : FieldSchema where
  name := "tags"
  kind := .list .string
  normalize := some ⟨[total "trim" Text.trim, total "lowercase" Text.lowercase], true⟩
  sanitize := none
  validate := some {
    rules := [⟨.max, some "10"⟩], dive := some { rules := [⟨.alphanum, none⟩] } }

def contactSchema : TypeSchema where
  name := "NewContact"
  fields := [nameField, emailField, ageField, tagsField]

theorem schema_newContact : newContact.family.schema newContact.type = .ok contactSchema := rfl

/-! ## The fields of a record -/

/-- The fields that a record is read with, and their defaults. -/
def recordFields : List (String × Json.Shape × Option Json) :=
  [("name", .text, none), ("email", .text, none), ("age", .int64, some (.int 0)),
    ("tags", .list .text, some (.array []))]

theorem nodup_recordFields : (recordFields.map (·.1)).Nodup := by decide

/-- The name of a record is the text that it was read from. -/
theorem name_of_fit (h : newContact.shape.fit (.object es) = .ok v) :
    ∃ name, Json.lookup es "name" = some (.string name) ∧ v.get? "name" = some (.string name) := by
  have hfield : ("name", .text, none) ∈ recordFields := by simp [recordFields]
  obtain ⟨y, hy, hread⟩ := Json.get_of_fit_record nodup_recordFields h hfield
  rcases hread with ⟨x, hx, hfit⟩ | ⟨-, habsent⟩
  · obtain ⟨name, rfl, rfl⟩ := Json.fit_text.1 hfit
    exact ⟨name, hx, hy⟩
  · cases habsent

theorem age_of_fit (h : newContact.shape.fit (.object es) = .ok v) :
    ∃ age, v.get? "age" = some (.int age) ∧
      -9223372036854775808 ≤ age ∧ age ≤ 9223372036854775807 := by
  have hfield : ("age", .int64, some (.int 0)) ∈ recordFields := by simp [recordFields]
  obtain ⟨y, hy, hread⟩ := Json.get_of_fit_record nodup_recordFields h hfield
  rcases hread with ⟨x, -, hfit⟩ | ⟨-, habsent⟩
  · obtain ⟨age, rfl, hbounds⟩ := Json.fit_int64 hfit
    exact ⟨age, hy, hbounds⟩
  · cases habsent
    exact ⟨0, hy, by decide⟩

theorem tags_of_fit (h : newContact.shape.fit (.object es) = .ok v) :
    ∃ tags : List String, v.get? "tags" = some (.array (tags.map .string)) := by
  have hfield : ("tags", .list .text, some (.array [])) ∈ recordFields := by simp [recordFields]
  obtain ⟨y, hy, hread⟩ := Json.get_of_fit_record nodup_recordFields h hfield
  rcases hread with ⟨x, -, hfit⟩ | ⟨-, habsent⟩
  · obtain ⟨xs, ys, -, rfl, hitems⟩ := Json.fit_list hfit
    have htexts : ∃ tags : List String, ys = tags.map .string := by
      clear hy hfit
      induction hitems with
      | nil => exact ⟨[], rfl⟩
      | cons hitem _ ih =>
        obtain ⟨t, -, rfl⟩ := Json.fit_text.1 hitem
        obtain ⟨tags, rfl⟩ := ih
        exact ⟨t :: tags, rfl⟩
    obtain ⟨tags, rfl⟩ := htexts
    exact ⟨tags, hy⟩
  · cases habsent
    exact ⟨[], hy⟩

/-! ## The stages of a body -/

/-- A body is bound as an object. -/
theorem object_of_bind (h : (BodyType.model newContact).bind source = .ok v) :
    ∃ es, v = .object es := by
  cases source with
  | json bytes =>
    rw [BodyType.bind, bindJson] at h
    split at h
    · cases h
    · exact Json.object_of_readAs_record (mapError_eq_ok.1 h)
  | form form =>
    simp only [BodyType.bind, bind_eq_ok] at h
    obtain ⟨_, -, _, -, h⟩ := h
    exact Json.object_of_fit_record (mapError_eq_ok.1 h)

/-- Without hooks a stage is done by the operators. -/
theorem run_newContact (stage : Schema.Stage) (ctx : Context) (v : Json) :
    newContact.run stage ctx v = newContact.transform stage v := by
  cases stage <;> rfl

/-- A stage reads what its operators have made as a record again. -/
theorem fit_of_run {stage : Schema.Stage} (hoperators : contactSchema.hasOperators stage = true)
    (h : newContact.run stage ctx (.object es) = .ok v) :
    ∃ fs, newContact.shape.fit (.object fs) = .ok v ∧
      ∀ k y, Json.lookup fs k = some y → ∃ x ms, Json.lookup es k = some x ∧
        entryOutcome newContact.family stage contactSchema "" k x = .ok (y, ms) := by
  rw [run_newContact] at h
  obtain ⟨u, htransform, hfit⟩ := transform_eq_ok schema_newContact hoperators rfl h
  obtain ⟨fs, rfl, hfs⟩ := get_of_transformObject htransform
  exact ⟨fs, hfit, hfs⟩

/-- Behind normalization the name is trimmed. -/
theorem name_of_normalize (h : newContact.run .normalize ctx (.object es) = .ok v) :
    ∃ s, v.get? "name" = some (.string (Text.trim s)) := by
  obtain ⟨fs, hfit, hfs⟩ := fit_of_run (by rfl) h
  obtain ⟨name, hname, hvalue⟩ := name_of_fit hfit
  obtain ⟨x, ms, -, hout⟩ := hfs "name" _ hname
  obtain ⟨s, -, hs⟩ := string_of_transformField rfl hout
  rcases hs with hs | ⟨⟨message, hrefused⟩, -⟩
  · cases hs
    exact ⟨s, hvalue⟩
  · cases hrefused

/-- Sanitizing leaves the name, and gives a record. -/
theorem name_of_sanitize (h : newContact.run .sanitize ctx (.object es) = .ok v) :
    (∃ fs, newContact.shape.fit (.object fs) = .ok v) ∧
      v.get? "name" = Json.lookup es "name" := by
  obtain ⟨fs, hfit, hfs⟩ := fit_of_run (by rfl) h
  obtain ⟨name, hname, hvalue⟩ := name_of_fit hfit
  obtain ⟨x, ms, hx, hout⟩ := hfs "name" _ hname
  have hsame : x = .string name := by
    cases hout
    rfl
  exact ⟨⟨fs, hfit⟩, by rw [hvalue, hx, hsame]⟩

/-- No field of a body that was validated has a fault. -/
theorem not_fault_of_check {x : Json} (h : newContact.check ctx v = .ok ())
    (hf : f ∈ contactSchema.fields) (hx : v.get? f.name = some x) :
    ¬ Fault newContact.family f.kind f.validate x := by
  obtain ⟨schema, hschema, hno⟩ := (check_ok_iff (j := v) rfl rfl).1 h
  cases schema_newContact.symm.trans hschema
  have hvalue : Schema.fieldValue v f.name = x := by rw [Schema.fieldValue, hx, Option.getD_some]
  exact fun hfault => hno ⟨rfl, f, hf, hvalue ▸ hfault⟩

/-! ## Fields without a fault -/

theorem length_of_valid_name {t : String}
    (h : ¬ Fault newContact.family nameField.kind nameField.validate (.string t)) :
    2 ≤ t.length ∧ t.length ≤ 100 := by
  have hmin := passes_of_not_fault h rfl rfl (r := ⟨.min, some "2"⟩) (by simp)
  have hmax := passes_of_not_fault h rfl rfl (r := ⟨.max, some "100"⟩) (by simp)
  rw [atLeast_iff (k := 2) (.inl rfl) (by decide +kernel) (by decide) rfl] at hmin
  rw [atMost_iff (k := 100) (.inl rfl) (by decide +kernel) (by decide) rfl] at hmax
  omega

theorem bounds_of_valid_age {n : Int}
    (h : ¬ Fault newContact.family ageField.kind ageField.validate (.int n)) :
    0 ≤ n ∧ n ≤ 150 := by
  have hmin := passes_of_not_fault h rfl rfl (r := ⟨.gte, some "0"⟩) (by simp)
  have hmax := passes_of_not_fault h rfl rfl (r := ⟨.lte, some "150"⟩) (by simp)
  rw [atLeast_iff (k := 0) (.inr rfl) (by decide +kernel) (by decide) rfl] at hmin
  rw [atMost_iff (k := 150) (.inr rfl) (by decide +kernel) (by decide) rfl] at hmax
  exact ⟨hmin, hmax⟩

theorem alphanumeric_of_valid_tags {tags : List String}
    (h : ¬ Fault newContact.family tagsField.kind tagsField.validate (.array (tags.map .string))) :
    tags.length ≤ 10 ∧
      ∀ t ∈ tags, t ≠ "" ∧ ∀ ch ∈ t.toList, Text.isAlphanumeric ch = true := by
  constructor
  · have hmax := passes_of_not_fault h rfl rfl (r := ⟨.max, some "10"⟩) (by simp)
    rw [atMost_iff (k := 10) (.inl rfl) (by decide +kernel) (by decide) rfl] at hmax
    simpa using hmax
  · intro t ht
    have htag := not_fault_of_mem h rfl rfl (List.mem_map_of_mem ht)
    exact (alphanum_iff rfl).1
      (passes_of_not_fault htag rfl rfl (r := ⟨.alphanum, none⟩) (by simp))

/-! ## Sound contacts -/

/-- A record whose name is trimmed describes a sound contact, if it passes the rules. -/
theorem sound_ofBody (id : String) (hrecord : newContact.shape.fit (.object es) = .ok v)
    (htrimmed : ∃ s, v.get? "name" = some (.string (Text.trim s)))
    (hvalid : newContact.check ctx v = .ok ()) : (Contact.ofBody id v).Sound := by
  obtain ⟨s, hname⟩ := htrimmed
  obtain ⟨age, hage, hlow, hhigh⟩ := age_of_fit hrecord
  obtain ⟨tags, htags⟩ := tags_of_fit hrecord
  have hnameFault := not_fault_of_check hvalid (f := nameField) (by simp [contactSchema]) hname
  have hageFault := not_fault_of_check hvalid (f := ageField) (by simp [contactSchema]) hage
  have htagsFault := not_fault_of_check hvalid (f := tagsField) (by simp [contactSchema]) htags
  -- The contact holds what the record does.
  have hcontactName : (Contact.ofBody id v).name = Text.trim s := by
    simp [Contact.ofBody, textOf, hname, Json.string?]
  have hcontactAge : (Contact.ofBody id v).age = age := by
    simp [Contact.ofBody, hage, Json.int, Json.int64?, hlow, hhigh]
  have hcontactTags : (Contact.ofBody id v).tags = tags := by
    simp [Contact.ofBody, htags, Json.array?, Json.string?, Function.comp_def]
  obtain ⟨hcount, hall⟩ := alphanumeric_of_valid_tags htagsFault
  exact {
    nameLength := hcontactName ▸ length_of_valid_name hnameFault
    nameEnds := by
      rw [hcontactName]
      rintro ch (hhead | hlast)
      · exact Text.isBlank_head_trim hhead
      · exact Text.isBlank_getLast_trim hlast
    age := hcontactAge ▸ bounds_of_valid_age hageFault
    tagCount := hcontactTags ▸ hcount
    tags := hcontactTags ▸ hall }

/-- A body that was received describes a sound contact. -/
theorem sound_of_receive (id : String)
    (h : (BodyType.model newContact).receive ctx source = .ok b) :
    (Contact.ofBody id b.value).Sound := by
  obtain ⟨value, normal, clean, hbind, hnormalize, hsanitize, hvalidate, rfl⟩ := receive_eq_ok.1 h
  obtain ⟨es, rfl⟩ := object_of_bind hbind
  have hnormal := run_model_eq_ok hnormalize
  obtain ⟨s, hname⟩ := name_of_normalize hnormal
  obtain ⟨fs, rfl⟩ : ∃ fs, normal = .object fs := by
    obtain ⟨us, hfit, -⟩ := fit_of_run (by rfl) hnormal
    exact Json.object_of_fit_record hfit
  obtain ⟨⟨us, hrecord⟩, hkept⟩ := name_of_sanitize (run_model_eq_ok hsanitize)
  exact sound_ofBody id hrecord ⟨s, hkept.trans hname⟩ hvalidate

end RestKit.Demo
