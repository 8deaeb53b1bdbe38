import RestKit.Proofs.Endpoint.Handler
/-!
# The status of a refusal

A request that does not come to its handler is never answered with a success: the status is 400 or
more at whichever step it fails (`failed_of_failsAt`), provided that the hooks of the declared body,
the authorizer and the limiter refuse with such errors.
-/
namespace RestKit

variable {σ : Type} {v : Visit σ} {w : World σ} {p q : Passage σ} {step : Step}
  {passed : List Step} {o : Outcome ApiError Unit} {e : ApiError}

namespace ApiError

/-- An error that says that the request has failed. -/
def Failed (e : ApiError) : Prop := 400 ≤ e.status

instance (e : ApiError) : Decidable e.Failed := inferInstanceAs (Decidable (400 ≤ e.status))

/-! ## The errors of each part -/

@[simp] theorem failed_withDetails (d : Json) : (e.withDetails d).Failed ↔ e.Failed := Iff.rfl

@[simp] theorem failed_badRequest (message : String) : (badRequest message).Failed :=
  Nat.le_refl 400

@[simp] theorem failed_invalidRequest (message : String) (fields : FieldErrors) :
    (invalidRequest message fields).Failed := failed_badRequest message

@[simp] theorem failed_paramErrors (entries : List Json) : (paramErrors entries).Failed :=
  Nat.le_refl 400

@[simp] theorem failed_unsupportedContentType (received : String) (accepted : List String) :
    (unsupportedContentType received accepted).Failed := Nat.le_refl 400

@[simp] theorem failed_fileUploadNotConfigured : fileUploadNotConfigured.Failed := Nat.le_refl 400

@[simp] theorem failed_unauthorized (message : String) : (unauthorized message).Failed :=
  Nat.le_succ 400

@[simp] theorem failed_forbidden (message : String) : (forbidden message).Failed :=
  Nat.le_add_right 400 3

@[simp] theorem failed_conflict (message : String) : (conflict message).Failed :=
  Nat.le_add_right 400 9

@[simp] theorem failed_payloadTooLarge (message : String) : (payloadTooLarge message).Failed :=
  Nat.le_add_right 400 13

@[simp] theorem failed_tooManyRequests (message : String) : (tooManyRequests message).Failed :=
  Nat.le_add_right 400 29

@[simp] theorem failed_internal (message : String) : (internal message).Failed :=
  Nat.le_add_right 400 100

@[simp] theorem failed_requestTimeout (message : String) : (requestTimeout message).Failed :=
  Nat.le_add_right 400 103

end ApiError

@[simp] theorem Upload.Error.failed_toApi (e : Upload.Error) : e.toApi.Failed := by
  cases e <;> simp [toApi, field?]

@[simp] theorem Query.QueryError.failed_toApi (e : Query.QueryError) : e.toApi.Failed := by
  cases e <;> exact Nat.le_refl 400

@[simp] theorem Schema.SchemaError.failed_toApi (e : Schema.SchemaError) : e.toApi.Failed :=
  ApiError.failed_internal _

/-- If a computation refuses, it does so with an error that says so. -/
def Refuses {α : Type} (x : Except ApiError α) : Prop := ∀ e, x = .error e → e.Failed

namespace Refuses

variable {α β ε : Type} {x : Except ApiError α} {f : α → Except ApiError β}

theorem ok (a : α) : Refuses (.ok a : Except ApiError α) := nofun

theorem bind (hx : Refuses x) (hf : ∀ a, x = .ok a → Refuses (f a)) : Refuses (x >>= f) := by
  intro e h
  rcases bind_eq_error.1 h with h | ⟨a, ha, h⟩
  · exact hx e h
  · exact hf a ha e h

theorem mapError {x : Except ε α} {g : ε → ApiError} (hg : ∀ e, (g e).Failed) :
    Refuses (x.mapError g) := by
  intro e h
  cases x with
  | ok a => cases h
  | error cause =>
    cases h
    exact hg cause

theorem ite {c : Prop} [Decidable c] {y : Except ApiError α} (hx : Refuses x) (hy : Refuses y) :
    Refuses (if c then x else y) := by
  split
  · exact hx
  · exact hy

theorem error {e : ApiError} (he : e.Failed) : Refuses (.error e : Except ApiError α) := by
  rintro _ ⟨⟩
  exact he

end Refuses

theorem refuses_gate (endpoint : Endpoint σ) (headers : Http.Headers) :
    Refuses (endpoint.gate headers) := by
  unfold Endpoint.gate
  refine .ite (.ok _) ?_
  exact .ite (.ok _) (.ite (.ok _) (.error (by simp)))

namespace Body

variable {m : Model} {ctx : Context} {source : Source} {stage : Schema.Stage}

/-- The hooks of a model fail with errors of status 400 or more. -/
structure Model.HooksFail (m : Model) : Prop where
  hook : ∀ stage ctx v, Refuses (m.hook stage ctx v)
  validate : ∀ ctx v, Refuses (m.validate ctx v)

theorem refuses_fitBody (shape : Json.Shape) (v : Json) : Refuses (fitBody shape v) :=
  .mapError fun _ => by simp [bodyError]

theorem refuses_schema (m : Model) : Refuses m.schema := .mapError fun _ => by simp

theorem refuses_written (m : Model) (v : Json) : Refuses (m.written v) := by
  unfold Model.written
  split
  · exact .ok _
  · exact .error (by simp)

theorem refuses_bind (m : Model) (source : Source) : Refuses ((BodyType.model m).bind source) := by
  cases source with
  | json bytes =>
    refine .ite (.error (by simp)) (.mapError fun _ => by simp [bodyError])
  | form form =>
    refine .bind (refuses_schema m) fun schema _ => .bind ?_ fun v _ => refuses_fitBody _ v
    exact .mapError fun es => by simp

theorem refuses_transform (m : Model) (stage : Schema.Stage) (v : Json) :
    Refuses (m.transform stage v) := by
  refine .bind (refuses_schema m) fun schema _ => .ite (.ok v) ?_
  refine .bind (refuses_written m v) fun j _ => .bind (.mapError fun _ => by simp) fun x _ => ?_
  exact .ite (refuses_fitBody _ _) (.error (by simp))

theorem refuses_run (h : m.HooksFail) (stage : Schema.Stage) (ctx : Context) (v : Json) :
    Refuses (m.run stage ctx v) := by
  refine .bind (h.hook stage ctx v) fun hooked _ => ?_
  exact .ite (.ok hooked.value) (refuses_transform m stage hooked.value)

theorem refuses_check (h : m.HooksFail) (ctx : Context) (v : Json) : Refuses (m.check ctx v) := by
  refine .bind (h.validate ctx v) fun done _ => .ite (.ok ()) ?_
  refine .bind (refuses_schema m) fun schema _ => .ite (.ok ()) ?_
  refine .bind (refuses_written m v) fun j _ => .bind (.mapError fun _ => by simp) fun es _ => ?_
  exact .ite (.error (by simp)) (.ok ())

/-- A stage of a model's body fails as the model does. -/
theorem run_model_eq_error {v w : Json} {e : ApiError}
    (h : (BodyType.model m).run stage ctx v = ⟨w, some e⟩) : m.run stage ctx v = .error e := by
  have herror : (Staged.of v (m.run stage ctx v)).error = some e := by
    rw [BodyType.run] at h
    rw [h]
  cases hrun : m.run stage ctx v with
  | ok x => simp [hrun, Staged.of] at herror
  | error e' => simpa [hrun, Staged.of] using herror

end Body

/-! ## Refused requests -/

/-- What an endpoint asks of others refuses with errors of status 400 or more. -/
structure Visit.OthersFail (v : Visit σ) : Prop where
  body : ∀ type, v.endpoint.body = some type → ∃ m, type = .model m ∧ m.HooksFail
  authorizer : ∀ authorizer, v.app.authorizer = some authorizer →
    ∀ ctx e, authorizer ctx = .refused e → e.Failed
  limiter : ∀ limiter, v.endpoint.limiter = some limiter →
    ∀ ctx e, limiter ctx = .refused e → e.Failed

theorem refused_of_map {α β : Type} {x : Outcome ApiError α} {f : α → β}
    (h : x.map f = .refused e) : x = .refused e := by
  cases x with
  | refused e' =>
    cases h
    rfl
  | _ => cases h

/-- Each rule of failure refuses with an error of status 400 or more. -/
theorem Fails.failed (hothers : v.OthersFail) (h : Fails v p step (.refused e) q) : e.Failed := by
  generalize ho : Outcome.refused e = o at h
  cases h with
  | untimely => cases ho
  | gate hgate =>
    cases ho
    exact refuses_gate _ _ _ hgate
  | tooLarge | noBoundary | notReceived | params | filterText | filterBuild | roles | tooMany =>
    cases ho
    simp [RateLimit.tooMany]
  | malformed htype _ hbind =>
    cases ho
    obtain ⟨m, rfl, -⟩ := hothers.body _ htype
    exact Body.refuses_bind m _ _ hbind
  | normalize htype _ _ hnormalize =>
    cases ho
    obtain ⟨m, rfl, hhooks⟩ := hothers.body _ htype
    exact Body.refuses_run hhooks _ _ _ _ (Body.run_model_eq_error hnormalize)
  | sanitize htype _ _ _ hsanitize =>
    cases ho
    obtain ⟨m, rfl, hhooks⟩ := hothers.body _ htype
    exact Body.refuses_run hhooks _ _ _ _ (Body.run_model_eq_error hsanitize)
  | validate htype _ _ _ _ hvalidate =>
    cases ho
    obtain ⟨m, rfl, hhooks⟩ := hothers.body _ htype
    exact Body.refuses_check hhooks _ _ _ hvalidate
  | unauthorized _ hasked => exact hothers.authorizer _ hasked _ _ (refused_of_map ho.symm)
  | limiter hlimiter => exact hothers.limiter _ hlimiter _ _ (refused_of_map ho.symm)
  | store =>
    rename_i answer _ _ _ _ _
    cases answer with
    | refused cause =>
      cases ho
      simp [RateLimit.StoreError.toApi]
    | _ => cases ho

/-- A request that fails a step is not answered with a success. -/
theorem failed_of_failsAt {response : Response} (hothers : v.OthersFail)
    (h : FailsAt v Step.order (.start v w) passed step o q)
    (hresponse : responseAt v o = some response) : 400 ≤ response.status := by
  obtain ⟨after, r, -, -, hfails⟩ := h
  cases o with
  | done u => cases hresponse
  | refused e =>
    cases hresponse
    exact hfails.failed hothers
  | crashed =>
    cases hresponse
    have hcrashed : crashed.Failed := by simp [crashed]
    exact hcrashed
  | pending =>
    rw [responseAt] at hresponse
    split at hresponse
    · cases hresponse
      have htimedOut : timedOut.Failed := by simp [timedOut]
      exact htimedOut
    · cases hresponse

end RestKit
