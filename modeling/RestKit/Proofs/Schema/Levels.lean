import RestKit.Proofs.Schema.Effect
import RestKit.Proofs.Schema.Fault
import RestKit.Proofs.Schema.Layers
/-!
# Levels of rules

Each `dive` of a validate tag opens a level of rules, for what stands one place deeper. The check of
a value goes down one level of the rules and one layer of the kind at a time. So a value that fails
its level, while the values around it pass theirs, gets a message as long as the kind has a layer
for each level above it (`names_of_failsAt`); levels behind the last layer are never run
(`checkValue_upTo`). Tags with such levels are accepted all the same.
-/
namespace RestKit.Schema
open Json (Place)

variable {fam : Family} {schema : TypeSchema} {kind e : Kind} {s d : RuleSet} {f : FieldSchema}
  {rules : Option RuleSet} {path target type tag : String} {place : Place} {p : List Place}
  {n : Nat} {v x : Json} {es : List (String × Json)} {xs : List Json}

namespace RuleSet

/-- The number of levels behind the first one. -/
def dives : RuleSet → Nat
  | ⟨_, none⟩ => 0
  | ⟨_, some d⟩ => d.dives + 1

/-- The first level and so many behind it. -/
def upTo : Nat → RuleSet → RuleSet
  | 0, s => { s with dive := none }
  | n + 1, s => { s with dive := s.dive.map (upTo n) }

/-- A value fails the rules of the first level: it is empty and may not be, or it does not pass one
of them. Null and, under `omitempty`, the empty value pass all other rules. -/
inductive Fails (s : RuleSet) (v : Json) : Prop
  | empty (hrequired : s.has .required = true) (hempty : isEmptyValue v = true)
  | rule {r : Rule} (hnull : v.isNull = false)
    (hkept : (s.has .omitempty && isEmptyValue v) = false) (hr : r ∈ s.rules)
    (hpasses : r.passes v = false)

/-- What stands at the end of a row of places fails the rules of its level, and what stands around
it passes the rules of the levels before. -/
inductive FailsAt : RuleSet → Json → List Place → Prop
  | here {s : RuleSet} {v : Json} (h : s.Fails v) : FailsAt s v []
  | inside {s d : RuleSet} {v x : Json} {place : Place} {p : List Place} (hpasses : ¬ s.Fails v)
    (hdive : s.dive = some d) (hx : v.child? place = some x) (h : FailsAt d x p) :
    FailsAt s v (place :: p)

theorem check_isSome : (s.check kind v).isSome = true ↔ s.Fails v := by
  unfold check
  by_cases hempty : (s.has .required && isEmptyValue v) = true
  · obtain ⟨hrequired, hvalue⟩ := Bool.and_eq_true_iff.1 hempty
    rw [if_pos hempty]
    exact iff_of_true rfl (.empty hrequired hvalue)
  · rw [if_neg hempty]
    by_cases hskip : (v.isNull || (s.has .omitempty && isEmptyValue v)) = true
    · rw [if_pos hskip]
      refine iff_of_false Bool.false_ne_true fun h => ?_
      cases h with
      | empty hrequired hvalue => exact hempty (Bool.and_eq_true_iff.2 ⟨hrequired, hvalue⟩)
      | rule hnull hkept _ _ => simp [hnull, hkept] at hskip
    · rw [if_neg hskip]
      simp only [Bool.or_eq_true, not_or, Bool.not_eq_true] at hskip
      rw [Option.isSome_map, List.find?_isSome]
      constructor
      · rintro ⟨r, hr, hpasses⟩
        exact .rule hskip.1 hskip.2 hr (by simpa using hpasses)
      · intro h
        cases h with
        | empty hrequired hvalue => exact absurd (Bool.and_eq_true_iff.2 ⟨hrequired, hvalue⟩) hempty
        | rule _ _ hr hpasses => exact ⟨_, hr, by simp [hpasses]⟩

theorem check_eq_none : s.check kind v = none ↔ ¬ s.Fails v := by
  rw [← Option.not_isSome_iff_eq_none, check_isSome]

/-! ## Levels of a tag -/

theorem dives_eq : s.dives = (s.dive.map fun d => d.dives + 1).getD 0 := by
  obtain ⟨rules, dive⟩ := s
  cases dive <;> rfl

theorem dives_of_parseTokens {tokens : List String} (h : parseTokens tokens = .ok s) :
    s.dives = tokens.count "dive" := by
  induction tokens generalizing s with
  | nil =>
    cases h
    rfl
  | cons token rest ih =>
    rw [parseTokens] at h
    by_cases hdive : token = "dive"
    · rw [if_pos (by simpa using hdive)] at h
      simp only [bind_eq_ok, pure_eq_ok] at h
      obtain ⟨d, hd, rfl⟩ := h
      rw [dives, ih hd, hdive, List.count_cons_self]
    · rw [if_neg (by simpa using hdive)] at h
      simp only [bind_eq_ok, pure_eq_ok] at h
      obtain ⟨r, -, t, ht, rfl⟩ := h
      rw [List.count_cons_of_ne hdive, ← ih ht, dives_eq, dives_eq]

theorem rules_upTo (n : Nat) (s : RuleSet) : (s.upTo n).rules = s.rules := by
  cases n <;> rfl

theorem check_upTo : (s.upTo n).check kind v = s.check kind v := by
  unfold check has
  rw [rules_upTo]

/-- Nothing is cut off exactly if there are no more levels. -/
theorem upTo_eq_self : s.upTo n = s ↔ s.dives ≤ n := by
  induction n generalizing s with
  | zero =>
    obtain ⟨rules, dive⟩ := s
    cases dive <;> simp [upTo, dives]
  | succ n ih =>
    obtain ⟨rules, dive⟩ := s
    cases dive with
    | none => simp [upTo, dives]
    | some d => simp [upTo, dives, ih]

end RuleSet

/-! ## The check of a value and of what stands in it -/

/-- What stands in a value, each with its path. -/
def placed (path : String) : Json → List (String × Json)
  | .array xs => xs.mapIdx fun i x => (itemPath path i, x)
  | .object es => es.map fun e => (joinPath path e.1, e.2)
  | _ => []

theorem mem_placed (h : v.child? place = some x) : (placePath path place, x) ∈ placed path v := by
  cases v with
  | array xs =>
    cases place with
    | key k => cases h
    | item i =>
      obtain ⟨hi, rfl⟩ := List.getElem?_eq_some_iff.1 h
      exact List.mem_mapIdx.2 ⟨i, hi, rfl⟩
  | object es =>
    cases place with
    | item i => cases h
    | key k => exact List.mem_map.2 ⟨(k, x), Json.mem_of_lookup h, rfl⟩
  | _ => cases place <;> cases h

theorem mem_elements_of_mem_placed {e : String × Json} (h : e ∈ placed path v) :
    e.2 ∈ v.elements := by
  cases v with
  | array xs =>
    obtain ⟨i, hi, rfl⟩ := List.mem_mapIdx.1 h
    exact List.getElem_mem hi
  | object es =>
    obtain ⟨e, he, rfl⟩ := List.mem_map.1 h
    exact List.mem_map.2 ⟨e, he, rfl⟩
  | _ => cases h

/-- The messages of some values, each with its path. -/
def messagesOf (fam : Family) (kind : Kind) (rules : RuleSet) (xs : List (String × Json)) :
    Except SchemaError FieldErrors := do
  return (← xs.mapM fun e => checkValue fam kind (some rules) e.1 e.2).flatten

theorem messagesOf_cons {l : List (String × Json)} :
    messagesOf fam e d ((path, x) :: l) = do
      return (← checkValue fam e (some d) path x) ++ (← messagesOf fam e d l) := by
  rw [messagesOf, List.mapM_cons, messagesOf]
  cases checkValue fam e (some d) path x with
  | error cause => rfl
  | ok messages => cases l.mapM fun p => checkValue fam e (some d) p.1 p.2 <;> rfl

theorem checkItems_eq {i : Nat} :
    checkItems fam e d path i xs =
      messagesOf fam e d (xs.mapIdx fun j x => (itemPath path (i + j), x)) := by
  induction xs generalizing i with
  | nil => rfl
  | cons x xs ih =>
    have hshift : (fun j x => (itemPath path (i + 1 + j), x)) =
        fun (j : Nat) (x : Json) => (itemPath path (i + (j + 1)), x) := by
      funext j x
      rw [Nat.add_right_comm, Nat.add_assoc]
    rw [checkItems, ih, hshift, List.mapIdx_cons, messagesOf_cons]
    rfl

theorem checkEntries_eq :
    checkEntries fam e d path es =
      messagesOf fam e d (es.map fun e => (joinPath path e.1, e.2)) := by
  induction es with
  | nil => rfl
  | cons x es ih => rw [checkEntries, ih, List.map_cons, messagesOf_cons]

/-- The messages of what stands in a value, by the rules behind `dive`. -/
def elementMessages (fam : Family) (kind : Kind) (rules : Option RuleSet) (path : String)
    (v : Json) : Except SchemaError FieldErrors :=
  match rules.bind (·.dive), kind.element? with
  | some d, some e => messagesOf fam e d (placed path v)
  | _, _ => .ok []

/-- The messages of a struct's fields. -/
def nestedMessages (fam : Family) (kind : Kind) (path : String) :
    Json → Except SchemaError FieldErrors
  | .object es => structMessages fam kind path es
  | _ => .ok []

/-- A value that fails its rules is not looked into. -/
theorem checkValue_of_check {message : String}
    (h : rules.bind (fun s => s.check kind v) = some message) :
    checkValue fam kind rules path v = .ok [(path, message)] := by
  obtain ⟨s, rfl, hs⟩ := Option.bind_eq_some_iff.1 h
  cases v <;> simp [checkValue, hs]

/-- A value that passes its rules is checked inside. -/
theorem checkValue_of_passes (h : rules.bind (fun s => s.check kind v) = none) :
    checkValue fam kind rules path v = do
      return (← elementMessages fam kind rules path v) ++ (← nestedMessages fam kind path v) := by
  cases v with
  | object es =>
    have hmembers : memberMessages fam kind rules path es =
        elementMessages fam kind rules path (.object es) := by
      unfold memberMessages elementMessages
      cases rules.bind (·.dive) with
      | none => rfl
      | some d =>
        cases kind.element? with
        | none => rfl
        | some e => exact checkEntries_eq
    rw [checkValue_object h, hmembers, nestedMessages]
  | array xs =>
    have hnested : nestedMessages fam kind path (.array xs) = .ok [] := rfl
    rw [hnested, append_ok_nil, elementMessages, placed]
    cases rules with
    | none => simp only [checkValue, Option.bind_none]
    | some s =>
      rw [Option.bind_some] at h
      simp only [checkValue, h, Option.bind_some, checkItems_eq, Nat.zero_add]
      cases s.dive <;> cases kind.element? <;> rfl
  | _ =>
    simp only [nestedMessages, append_ok_nil, elementMessages, checkValue, h]
    split <;> rfl

/-- What the check of an object finds at a field. -/
def fieldMessages (fam : Family) (path : String) (v : Json) (f : FieldSchema) :
    Except SchemaError FieldErrors :=
  match v.get? f.name with
  | some x => checkValue fam f.kind f.validate (joinPath path f.name) x
  | none => .ok (checkMissing path f)

theorem checkObject_eq (h : fam.schema type = .ok schema) :
    checkObject fam schema path v = do
      return (← schema.fields.mapM (fieldMessages fam path v)).flatten := by
  have hfound : ∀ f ∈ schema.fields, schema.field? f.name = some f :=
    fun f hf => field?_of_mem (nodup_names h) hf
  cases v with
  | object es =>
    rw [checkObject, gather]
    congr 1
    refine mapM_congr fun f hf => ?_
    have hget : Json.get? (.object es) f.name = Json.lookup es f.name := rfl
    rw [lookup_checkFields (hfound f hf), fieldMessages, hget]
    cases Json.lookup es f.name <;> rfl
  | _ => rfl

/-! ## What stops a check -/

/-- A check gives messages, unless a type that it comes to has no schema. -/
structure Completes (fam : Family) (outcome : Except SchemaError FieldErrors) : Prop where
  of_error : ∀ cause, outcome = .error cause → ∃ type, fam.schema type = .error cause

theorem Completes.ok {messages : FieldErrors} : Completes fam (.ok messages) := ⟨nofun⟩

theorem Completes.append {a b : Except SchemaError FieldErrors} (ha : Completes fam a)
    (hb : Completes fam b) : Completes fam (do return (← a) ++ (← b)) := by
  refine ⟨fun cause h => ?_⟩
  simp only [bind_eq_error, pure_ne_error, and_false, exists_false, or_false] at h
  rcases h with h | ⟨_, -, h⟩
  · exact ha.of_error cause h
  · exact hb.of_error cause h

theorem Completes.flatten {α : Type} {g : α → Except SchemaError FieldErrors} {fs : List α}
    (h : ∀ f ∈ fs, Completes fam (g f)) : Completes fam (do return (← fs.mapM g).flatten) := by
  refine ⟨fun cause herror => ?_⟩
  simp only [bind_eq_error, pure_ne_error, and_false, exists_false, or_false] at herror
  obtain ⟨f, hf, herror⟩ := mapM_eq_error herror
  exact (h f hf).of_error cause herror

theorem completes_elementMessages
    (h : ∀ x ∈ v.elements, ∀ kind rules path, Completes fam (checkValue fam kind rules path x)) :
    Completes fam (elementMessages fam kind rules path v) := by
  unfold elementMessages
  split
  · exact .flatten fun x hx => h x.2 (mem_elements_of_mem_placed hx) _ _ _
  · exact .ok

theorem completes_fieldMessages
    (h : ∀ x ∈ v.elements, ∀ kind rules path, Completes fam (checkValue fam kind rules path x)) :
    Completes fam (fieldMessages fam path v f) := by
  unfold fieldMessages
  cases hx : v.get? f.name with
  | none => exact .ok
  | some x =>
    cases v with
    | object es => exact h x (List.mem_map_of_mem (Json.mem_of_lookup hx)) _ _ _
    | _ => cases hx

theorem completes_nestedMessages
    (h : ∀ x ∈ v.elements, ∀ kind rules path, Completes fam (checkValue fam kind rules path x)) :
    Completes fam (nestedMessages fam kind path v) := by
  cases v with
  | object es =>
    rw [nestedMessages]
    unfold structMessages
    split
    · rename_i type _
      cases hschema : fam.schema type with
      | error cause =>
        refine ⟨fun cause' herror => ?_⟩
        cases herror
        exact ⟨type, hschema⟩
      | ok nested =>
        have hobject : checkObject fam nested path (.object es) = do
            return (← nested.fields.mapM (fieldMessages fam path (.object es))).flatten :=
          checkObject_eq hschema
        rw [checkObject] at hobject
        rw [ok_bind, hobject]
        split
        · exact .flatten fun f _ => completes_fieldMessages h
        · exact .ok
    · exact .ok
  | _ => exact .ok

/-- Only a refused schema stops the check of a value. -/
theorem completes_checkValue (v : Json) (kind : Kind) (rules : Option RuleSet) (path : String) :
    Completes fam (checkValue fam kind rules path v) := by
  induction v using Json.elements_induction generalizing kind rules path with
  | step v ih =>
    cases hcheck : rules.bind fun s => s.check kind v with
    | some message =>
      rw [checkValue_of_check hcheck]
      exact .ok
    | none =>
      rw [checkValue_of_passes hcheck]
      exact .append (completes_elementMessages ih) (completes_nestedMessages ih)

/-! ## What a check names -/

/-- The check of a value has a message for a path, or a type that it comes to has no schema. -/
inductive Names (fam : Family) (target : String) : Except SchemaError FieldErrors → Prop
  | message {messages : FieldErrors} {text : String} (h : (target, text) ∈ messages) :
    Names fam target (.ok messages)
  | refused {type : String} {cause : SchemaError} (h : fam.schema type = .error cause) :
    Names fam target (.error cause)

theorem Completes.names_error {outcome : Except SchemaError FieldErrors} {cause : SchemaError}
    (h : Completes fam outcome) (herror : outcome = .error cause) :
    Names fam target (.error cause) := by
  obtain ⟨type, htype⟩ := h.of_error cause herror
  exact .refused htype

theorem Names.append {a b : Except SchemaError FieldErrors} (ha : Names fam target a)
    (hb : Completes fam b) : Names fam target (do return (← a) ++ (← b)) := by
  cases ha with
  | refused h => exact .refused h
  | message h =>
    cases hcase : b with
    | error cause => exact hb.names_error hcase
    | ok more => exact .message (List.mem_append_left _ h)

theorem Names.flatten {α : Type} {g : α → Except SchemaError FieldErrors} {fs : List α} {f : α}
    (hf : f ∈ fs) (h : Names fam target (g f)) (hall : ∀ f ∈ fs, Completes fam (g f)) :
    Names fam target (do return (← fs.mapM g).flatten) := by
  cases hrun : fs.mapM g with
  | error cause =>
    obtain ⟨f', hf', herror⟩ := mapM_eq_error hrun
    exact (hall f' hf').names_error herror
  | ok lists =>
    obtain ⟨messages, hmem, heq⟩ := mem_of_forall₂_left (mapM_eq_ok.1 hrun) hf
    rw [heq] at h
    cases h with
    | message h => exact .message (List.mem_flatten.2 ⟨messages, hmem, h⟩)

/-- A value that fails its own level is named itself. -/
theorem names_of_fails (h : s.Fails v) : Names fam path (checkValue fam kind (some s) path v) := by
  have hsome : ((some s).bind fun s => s.check kind v).isSome = true := RuleSet.check_isSome.2 h
  obtain ⟨message, hmessage⟩ := Option.isSome_iff_exists.1 hsome
  rw [checkValue_of_check hmessage]
  exact .message (List.mem_singleton_self _)

/-- The check of a value that passes its level goes on to what stands in it. -/
theorem names_of_child (hpasses : ¬ s.Fails v) (hdive : s.dive = some d)
    (hkind : kind.element? = some e) (hx : v.child? place = some x)
    (h : Names fam target (checkValue fam e (some d) (placePath path place) x)) :
    Names fam target (checkValue fam kind (some s) path v) := by
  have hcheck : (some s).bind (fun s => s.check kind v) = none := RuleSet.check_eq_none.2 hpasses
  have helements : elementMessages fam kind (some s) path v =
      messagesOf fam e d (placed path v) := by
    simp [elementMessages, hdive, hkind]
  rw [checkValue_of_passes hcheck, helements]
  refine .append ?_ (completes_nestedMessages fun x _ => completes_checkValue x)
  exact Names.flatten (mem_placed hx) h fun x _ => completes_checkValue x.2 _ _ _

/-- **Levels that are run.** A value that fails its level, while what stands around it passes the
levels before, is named if the kind has a layer for each of the places to it. -/
theorem names_of_failsAt (h : s.FailsAt v p) (hdepth : p.length ≤ kind.layers) :
    Names fam (p.foldl placePath path) (checkValue fam kind (some s) path v) := by
  induction h generalizing kind path with
  | here h => exact names_of_fails h
  | @inside s d v x place p hpasses hdive hx _ ih =>
    rw [List.length_cons] at hdepth
    cases helement : kind.element? with
    | none =>
      have hzero := Kind.element?_eq_none.1 helement
      omega
    | some e =>
      have hlayers := Kind.layers_of_element? helement
      exact names_of_child hpasses hdive helement hx (ih (by omega))

/-! ## Levels that are never run -/

/-- With a kind that has elements, the rules behind `dive` are cut one level less deep. -/
theorem dive_upTo (h : kind.element? = some e) :
    (s.upTo kind.layers).dive = s.dive.map (RuleSet.upTo e.layers) := by
  rw [Kind.layers_of_element? h, RuleSet.upTo]

theorem elementMessages_upTo
    (h : ∀ x ∈ v.elements, ∀ kind (s : RuleSet) path,
      checkValue fam kind (some (s.upTo kind.layers)) path x =
        checkValue fam kind (some s) path x) :
    elementMessages fam kind (some (s.upTo kind.layers)) path v =
      elementMessages fam kind (some s) path v := by
  unfold elementMessages
  cases helement : kind.element? with
  | none => split <;> split <;> first | rfl | contradiction
  | some e =>
    simp only [Option.bind_some, dive_upTo helement]
    cases s.dive with
    | none => rfl
    | some d =>
      simp only [Option.map_some, messagesOf]
      congr 1
      exact mapM_congr fun x hx => h x.2 (mem_elements_of_mem_placed hx) e d x.1

/-- The rules of levels behind the last layer of the kind make no difference. -/
theorem checkValue_upTo (v : Json) (kind : Kind) (s : RuleSet) (path : String) :
    checkValue fam kind (some (s.upTo kind.layers)) path v =
      checkValue fam kind (some s) path v := by
  induction v using Json.elements_induction generalizing kind s path with
  | step v ih =>
    have hsame : (some (s.upTo kind.layers)).bind (fun s => s.check kind v) =
        (some s).bind fun s => s.check kind v := RuleSet.check_upTo
    cases hcheck : (some s).bind fun s => s.check kind v with
    | some message =>
      rw [checkValue_of_check hcheck, checkValue_of_check (hsame.trans hcheck)]
    | none =>
      rw [checkValue_of_passes hcheck, checkValue_of_passes (hsame.trans hcheck),
        elementMessages_upTo ih]

/-! ## The tag of a field -/

/-- The rules of an accepted field are those that its tag says. -/
theorem rules_of_compileField {r : Registry} {rule : FieldRule}
    (h : TypeSchema.compileField r type rule = .ok f) (htag : rule.validate = some tag) :
    f.kind = rule.kind ∧ ∃ s, RuleSet.parse tag = .ok s ∧ f.validate = some s := by
  simp only [TypeSchema.compileField, bind_eq_ok, pure_eq_ok] at h
  obtain ⟨_, -, _, -, validate, hvalidate, rfl⟩ := h
  refine ⟨rfl, ?_⟩
  simp only [TypeSchema.compileRules, htag] at hvalidate
  cases hparse : RuleSet.parse tag with
  | error cause =>
    rw [hparse] at hvalidate
    cases hvalidate
  | ok s =>
    rw [hparse] at hvalidate
    dsimp only at hvalidate
    split at hvalidate
    · cases hvalidate
    · cases hvalidate
      exact ⟨s, rfl, rfl⟩

/-- What stands in a field and fails its level is named by the check of the object. -/
theorem names_checkObject (hschema : fam.schema type = .ok schema) (hf : f ∈ schema.fields)
    (hs : f.validate = some s) (h : s.FailsAt (fieldValue v f.name) p)
    (hdepth : p.length ≤ f.kind.layers) :
    Names fam (p.foldl placePath (joinPath path f.name)) (checkObject fam schema path v) := by
  rw [checkObject_eq hschema]
  refine Names.flatten hf ?_ fun g _ =>
    completes_fieldMessages fun x _ kind rules path => completes_checkValue x kind rules path
  unfold fieldValue at h
  unfold fieldMessages
  cases hx : v.get? f.name with
  | some x =>
    rw [hx, Option.getD_some] at h
    rw [hs]
    exact names_of_failsAt h hdepth
  | none =>
    rw [hx, Option.getD_none] at h
    cases h with
    | inside _ _ hchild _ => cases ‹Place› <;> cases hchild
    | here hfails =>
      obtain ⟨message, hmessage⟩ := Option.isSome_iff_exists.1 (RuleSet.check_isSome.2 hfails)
      have hmissing : checkMissing path f = [(joinPath path f.name, message)] := by
        rw [checkMissing, hs, Option.bind_some, hmessage]
      rw [hmissing]
      exact .message (List.mem_singleton_self _)

/-- **Which levels of an accepted tag are run.** A level is run if the kind has as many layers: what
fails it, where all around it passes the levels before, is named. The levels behind these make no
difference to any check; there are none exactly if the tag has no more `dive`s than the kind has
layers. -/
theorem levels_run {rule : FieldRule} (hschema : fam.schema type = .ok schema)
    (hrule : rule ∈ fam.declared type) (htag : rule.validate = some tag) :
    ∃ s, RuleSet.parse tag = .ok s ∧
      (∀ path v p, s.FailsAt (fieldValue v rule.name) p → p.length ≤ rule.kind.layers →
        Names fam (p.foldl placePath (joinPath path rule.name))
          (checkObject fam schema path v)) ∧
      (∀ path v, checkValue fam rule.kind (some (s.upTo rule.kind.layers)) path v =
        checkValue fam rule.kind (some s) path v) ∧
      (s.upTo rule.kind.layers = s ↔ (tagTokens tag).count "dive" ≤ rule.kind.layers) := by
  obtain ⟨f, hf, hfield⟩ := field?_of_rule hschema hrule
  obtain ⟨hkind, s, hparse, hs⟩ := rules_of_compileField hfield htag
  have hname : f.name = rule.name := name_of_compileField hfield
  refine ⟨s, hparse, ?_, fun path v => checkValue_upTo v rule.kind s path, ?_⟩
  · intro path v p h hdepth
    rw [← hname] at h ⊢
    exact names_checkObject hschema (List.mem_of_find?_eq_some hf) hs h (hkind ▸ hdepth)
  · rw [RuleSet.upTo_eq_self, RuleSet.dives_of_parseTokens hparse]

/-- Guests with addresses by place, with names and with notes of any form. -/
def guests : Family where
  registry := .builtin
  types := [("Guest", [
    { name := "addresses", kind := .map (.list .string),
      validate := some "omitempty,dive,dive,email" },
    { name := "names", kind := .list .string, validate := some "dive,dive,email" },
    { name := "notes", kind := .list .json, validate := some "dive,dive,email" }])]

def guestAddresses : FieldRule where
  name := "addresses"
  kind := .map (.list .string)
  validate := some "omitempty,dive,dive,email"

def guestNames : FieldRule where
  name := "names"
  kind := .list .string
  validate := some "dive,dive,email"

def guestNotes : FieldRule where
  name := "notes"
  kind := .list .json
  validate := some "dive,dive,email"

/-- The rules that are behind two `dive`s in these tags. -/
def emails : RuleSet := { rules := [⟨.email, none⟩] }

theorem emails_fails : emails.Fails (.string "x") :=
  .rule rfl rfl (List.mem_singleton_self _) (by decide)

/-- An address that is none, in the list of a place. -/
theorem levels_run_address :
    let v : Json := .object [("addresses", .object [("home", .array [.string "x"])])]
    let p : List Place := [.key "home", .item 0]
    ∃ schema, guests.schema "Guest" = .ok schema ∧ guestAddresses ∈ guests.declared "Guest" ∧
      ∃ s, RuleSet.parse "omitempty,dive,dive,email" = .ok s ∧
        s.FailsAt (fieldValue v "addresses") p ∧
        Names guests (p.foldl placePath (joinPath "" "addresses"))
          (checkObject guests schema "" v) := by
  intro v p
  obtain ⟨schema, hschema⟩ : ∃ schema, guests.schema "Guest" = .ok schema := ⟨_, rfl⟩
  have hrule : guestAddresses ∈ guests.declared "Guest" := by decide
  obtain ⟨s, hparse, hrun, -⟩ := levels_run hschema hrule rfl
  have hs : s = ⟨[⟨.omitempty, none⟩], some ⟨[], some emails⟩⟩ := by
    cases hparse
    rfl
  have hfails : s.FailsAt (fieldValue v "addresses") p := by
    rw [hs]
    refine .inside ?_ rfl rfl (.inside ?_ rfl rfl (.here emails_fails))
    · exact RuleSet.check_eq_none.1 (show RuleSet.check _ .json _ = none from rfl)
    · exact RuleSet.check_eq_none.1 (show RuleSet.check _ .json _ = none from rfl)
  exact ⟨schema, hschema, hrule, s, hparse, hfails, hrun "" v p hfails (by decide)⟩

/-- A tag that dives twice is accepted on kinds with one layer, and its last rule is never run. -/
theorem second_dive_ignored :
    let v : Json :=
      .object [("names", .array [.string "x"]), ("notes", .array [.array [.string "x"]])]
    ∃ schema s, guests.schema "Guest" = .ok schema ∧ RuleSet.parse "dive,dive,email" = .ok s ∧
      (∀ rule ∈ [guestNames, guestNotes], rule ∈ guests.declared "Guest" ∧
        rule.validate = some "dive,dive,email" ∧
        rule.kind.layers < (tagTokens "dive,dive,email").count "dive") ∧
      s.FailsAt (fieldValue v "notes") [.item 0, .item 0] ∧
      checkObject guests schema "" v = .ok [] := by
  intro v
  refine ⟨_, ⟨[], some ⟨[], some emails⟩⟩, rfl, rfl, by decide, ?_, rfl⟩
  refine .inside ?_ rfl rfl (.inside ?_ rfl rfl (.here emails_fails))
  · exact RuleSet.check_eq_none.1 (show RuleSet.check _ .json _ = none from rfl)
  · exact RuleSet.check_eq_none.1 (show RuleSet.check _ .json _ = none from rfl)

end RestKit.Schema
