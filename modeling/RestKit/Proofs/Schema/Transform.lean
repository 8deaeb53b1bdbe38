import RestKit.Body.Model
import RestKit.Proofs.Except
import RestKit.Proofs.Json.Same
/-!
# What a stage makes of an object

A stage gives an object again, and each of its entries is the outcome of the entry of that key
(`get_of_transformObject`). A string that comes out of a chain without `dive` is the chain's result
on a string, or one that the chain refuses (`string_of_transformField`).
-/
namespace RestKit.Schema

variable {fam : Family} {stage : Stage} {schema : TypeSchema} {kind : Kind} {chain : Chain}
  {path : String} {es : List (String × Json)} {v w x y : Json} {messages : FieldErrors}

/-- The outcome of an object's entry. -/
def entryOutcome (fam : Family) (stage : Stage) (schema : TypeSchema) (path k : String)
    (x : Json) : Transformed :=
  match (schema.field? k).bind fun f => (f.chain stage).map fun c => (f.kind, c) with
  | some (kind, chain) => transformField fam stage kind chain (joinPath path k) x
  | none => untouched x

theorem transformFields_eq (es : List (String × Json)) :
    transformFields fam stage schema path es =
      Json.mapValues (entryOutcome fam stage schema path) es := by
  induction es with
  | nil => rfl
  | cons e es ih =>
    obtain ⟨k, x⟩ := e
    have hmap : Json.mapValues (entryOutcome fam stage schema path) ((k, x) :: es) =
        (k, entryOutcome fam stage schema path k x) ::
          Json.mapValues (entryOutcome fam stage schema path) es := rfl
    rw [transformFields, ih, hmap, entryOutcome]
    cases (schema.field? k).bind fun f => (f.chain stage).map fun c => (f.kind, c) with
    | none => rfl
    | some found => rfl

/-- An object is put together of outcomes that all give a value. -/
theorem object_of_assemble {outcomes : List (String × Transformed)}
    (h : assemble schema outcomes = .ok (w, messages)) :
    ∃ fs, w = .object fs ∧
      List.Forall₂ (fun e f => e.1 = f.1 ∧ ∃ ms, e.2 = .ok (f.2, ms)) outcomes fs := by
  simp only [assemble, bind_eq_ok, pure_eq_ok, Prod.mk.injEq] at h
  obtain ⟨_, -, entries, hentries, rfl, -⟩ := h
  refine ⟨entries, rfl, (mapM_eq_ok.1 hentries).imp ?_⟩
  rintro ⟨k, r⟩ f hf
  obtain ⟨⟨y, ms⟩, hr, rfl⟩ := map_eq_ok.1 hf
  exact ⟨rfl, ms, hr⟩

/-- Where there are no messages, the outcome of a declared field has none. -/
theorem messages_of_assemble {outcomes : List (String × Transformed)} {f : FieldSchema}
    (h : assemble schema outcomes = .ok (w, [])) (hf : f ∈ schema.fields)
    (hfound : Json.lookup outcomes f.name = some (.ok (y, messages))) : messages = [] := by
  simp only [assemble, bind_eq_ok, pure_eq_ok, Prod.mk.injEq] at h
  obtain ⟨gathered, hgathered, _, -, -, hnil⟩ := h
  obtain ⟨ms, hms, hf⟩ := mem_of_forall₂_left (mapM_eq_ok.1 hgathered) hf
  rw [hfound] at hf
  cases hf
  exact List.flatten_eq_nil_iff.1 hnil _ hms

/-- A transformed object has the keys of the object, and the outcomes of its entries. -/
theorem object_of_transformObject
    (h : transformObject fam stage schema path (.object es) = .ok (w, messages)) :
    ∃ fs, w = .object fs ∧ List.Forall₂ (fun e f => e.1 = f.1 ∧
      ∃ ms, entryOutcome fam stage schema path e.1 e.2 = .ok (f.2, ms)) es fs := by
  obtain ⟨fs, rfl, hfs⟩ := object_of_assemble h
  rw [transformFields_eq, Json.mapValues, List.forall₂_map_left_iff] at hfs
  exact ⟨fs, rfl, hfs⟩

/-- Each entry of a transformed object is the outcome of the entry of its key. -/
theorem get_of_transformObject
    (h : transformObject fam stage schema path (.object es) = .ok (w, messages)) :
    ∃ fs, w = .object fs ∧ ∀ k y, Json.lookup fs k = some y → ∃ x ms,
      Json.lookup es k = some x ∧ entryOutcome fam stage schema path k x = .ok (y, ms) := by
  obtain ⟨fs, rfl, hfs⟩ := object_of_transformObject h
  refine ⟨fs, rfl, fun k y hy => ?_⟩
  have hback : List.Forall₂ (fun f e => f.1 = e.1 ∧
      ∃ ms, entryOutcome fam stage schema path f.1 e.2 = .ok (f.2, ms)) fs es :=
    hfs.flip.imp fun f e ⟨hk, hout⟩ => ⟨hk.symm, hk ▸ hout⟩
  obtain ⟨x, hx, ms, hout⟩ := Json.exists_lookup_of_rel
    (R := fun k y x => ∃ ms, entryOutcome fam stage schema path k x = .ok (y, ms)) hback hy
  exact ⟨x, ms, hx, hout⟩

theorem string_of_transformText {s t : String}
    (h : transformText chain path s = .ok (.string t, messages)) :
    chain.apply s = .ok t ∨ (∃ message, chain.apply s = .error message) ∧ t = s := by
  unfold transformText at h
  split at h
  · rename_i u hu
    cases h
    exact .inl hu
  · rename_i message hrefused
    cases h
    exact .inr ⟨⟨message, hrefused⟩, rfl⟩

/-- A string that comes out of a chain went into it. -/
theorem string_of_transformField {t : String} (hdive : chain.dive = false)
    (h : transformField fam stage kind chain path x = .ok (.string t, messages)) :
    ∃ s, x = .string s ∧
      (chain.apply s = .ok t ∨ (∃ message, chain.apply s = .error message) ∧ t = s) := by
  cases x with
  | string s =>
    rw [transformField, hdive, if_neg Bool.false_ne_true] at h
    exact ⟨s, rfl, string_of_transformText h⟩
  | _ => simp [transformField, hdive, untouched] at h

end RestKit.Schema

namespace RestKit.Body
open Schema

variable {m : Model} {stage : Stage} {schema : TypeSchema} {v w j : Json}

/-- A stage with operators gives a value of the model's shape, read from what the operators made. -/
theorem transform_eq_ok (hschema : m.family.schema m.type = .ok schema)
    (hoperators : schema.hasOperators stage = true) (hwritten : m.write v = some j)
    (h : m.transform stage v = .ok w) :
    ∃ u, transformObject m.family stage schema "" j = .ok (u, []) ∧ m.shape.fit u = .ok w := by
  have hj : m.written v = .ok j := by rw [Model.written, hwritten]
  simp only [Model.transform, Model.schema, bind_eq_ok, mapError_eq_ok] at h
  obtain ⟨schema', hschema', h⟩ := h
  cases hschema.symm.trans hschema'
  simp only [hoperators, Bool.not_true, Bool.false_eq_true, if_false, bind_eq_ok, hj,
    Except.ok.injEq, exists_eq_left', mapError_eq_ok] at h
  obtain ⟨⟨u, messages⟩, htransform, h⟩ := h
  dsimp only at h
  cases messages with
  | nil => exact ⟨u, htransform, mapError_eq_ok.1 h⟩
  | cons => simp [throw_eq_ok] at h

end RestKit.Body
