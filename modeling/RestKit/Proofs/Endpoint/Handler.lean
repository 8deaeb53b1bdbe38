import RestKit.Proofs.Endpoint.Run
/-!
# What handlers rely on

A request that comes to its handler brings a body that its type has bound and processed
(`receive_of_along`), and a principal that the authorizer has accepted for the request's own headers
and time, with a role that the endpoint asks for (`accepted_of_along`). Only the handler changes
the application's state (`dispatch_of_along`, `dispatch_of_failsAt`).
-/
namespace RestKit

variable {σ : Type} {v : Visit σ} {w : World σ} {p q r : Passage σ} {step : Step}
  {steps passed : List Step} {o : Outcome ApiError Unit}

/-! ## The body -/

namespace Body

variable {type : BodyType} {m : Model} {stage : Schema.Stage} {ctx : Context} {source : Source}
  {b : ParsedBody} {j j' : Json}

/-- A body is received if it can be bound and passes its stages, one after the other. -/
theorem receive_eq_ok : type.receive ctx source = .ok b ↔ ∃ value normal clean,
    type.bind source = .ok value ∧ type.run .normalize ctx value = ⟨normal, none⟩ ∧
      type.run .sanitize ctx normal = ⟨clean, none⟩ ∧ type.check ctx clean = .ok () ∧
      b = ⟨type.name, clean⟩ := by
  rw [Follows.receive_eq]
  constructor
  · intro h
    split at h
    · cases h
    · rename_i value hbind
      split at h
      · cases h
      · rename_i normal hnormalize
        split at h
        · cases h
        · rename_i clean hsanitize
          obtain ⟨u, hvalidate, rfl⟩ := map_eq_ok.1 h
          exact ⟨value, normal, clean, hbind, hnormalize, hsanitize, hvalidate, rfl⟩
  · rintro ⟨value, normal, clean, hbind, hnormalize, hsanitize, hvalidate, rfl⟩
    simp only [hbind, hnormalize, hsanitize, hvalidate, Except.map]

/-- A stage of a model's body that ends well gives what the model does. -/
theorem run_model_eq_ok (h : (BodyType.model m).run stage ctx j = ⟨j', none⟩) :
    m.run stage ctx j = .ok j' := by
  rw [BodyType.run] at h
  cases hrun : m.run stage ctx j with
  | ok x =>
    rw [hrun] at h
    cases h
    rfl
  | error e =>
    rw [hrun] at h
    cases h

end Body

/-- Only binding gives a body. -/
theorem Passes.body_eq (h : Passes v p step q) (hstep : step ≠ .binding) :
    q.context.body = p.context.body := by
  cases h <;> first | rfl | exact absurd rfl hstep

theorem Along.body_eq (h : Along v steps p q) (hsteps : .binding ∉ steps) :
    q.context.body = p.context.body :=
  h.kept (f := fun p => p.context.body) (fun _ _ => rfl) fun hstep hpasses =>
    hpasses.body_eq fun heq => hsteps (heq ▸ hstep)

/-- The body at the handler was bound and processed as the endpoint declares it. -/
theorem receive_of_along {b : ParsedBody} (h : Along v Step.order (.start v w) p)
    (hbody : p.context.body = some b) :
    ∃ type ctx source, v.endpoint.body = some type ∧
      Body.BodyType.receive type ctx source = .ok b := by
  have hstep : Step.binding ∈ Step.order := by decide
  obtain ⟨r, s, hbefore, hbinding, hafter⟩ := h.split hstep
  have hnone : (r.enter .binding).context.body = none := hbefore.body_eq (by decide)
  rw [hafter.body_eq (by decide)] at hbody
  cases hbinding with
  | unbound => exact absurd (hnone.symm.trans hbody) nofun
  | @bound type source _ _ _ htype _ hbind hnormalize hsanitize hvalidate =>
    cases hbody
    exact ⟨type, (r.enter .binding).context, source, htype, Body.receive_eq_ok.2
      ⟨_, _, _, hbind, hnormalize, hsanitize, hvalidate, rfl⟩⟩

/-! ## The principal -/

theorem Passes.now_eq (h : Passes v p step q) : q.context.now = p.context.now := by
  cases h <;> rfl

theorem Along.now_eq (h : Along v steps p q) : q.context.now = p.context.now :=
  h.kept (f := fun p => p.context.now) (fun _ _ => rfl) fun _ hpasses => hpasses.now_eq

/-- Who comes to the handler of an endpoint that is not public was accepted by the authorizer, for
the headers and the time of the request, and has one of the endpoint's roles. -/
theorem accepted_of_along {authorizer : Auth.Authorizer} (h : Along v Step.order (.start v w) p)
    (hpublic : v.endpoint.info.isPublic = false) (hasked : v.app.authorizer = some authorizer) :
    ∃ ctx accepted, ctx.headers = v.request.headers ∧ ctx.now = v.request.time ∧
      authorizer ctx = .done accepted ∧ ∀ principal, accepted.principal = some principal →
        v.endpoint.info.roles = [] ∨ principal.role ∈ v.endpoint.info.roles := by
  have hstep : Step.authorization ∈ Step.order := by decide
  obtain ⟨r, s, hbefore, hauthorization, hafter⟩ := h.split hstep
  cases hauthorization with
  | unasked hopen => simp [hpublic, hasked] at hopen
  | @authorized authorizer' accepted _ hasked' haccepts =>
    cases hasked.symm.trans hasked'
    refine ⟨_, accepted, hbefore.headers_eq, hbefore.now_eq, haccepts, ?_⟩
    cases hafter with
    | cons hroles _ =>
      cases hroles with
      | roles hrole => exact hrole.resolve_left (by simp [hpublic])

/-! ## The answer and the state -/

/-- Without a deadline a call ends as it does. -/
theorem Outcome.within_none {ε α : Type} (late : ε) (x : Outcome ε α) : x.within none late = x := by
  cases x <;> rfl

/-- No step before the handler changes the application's state. -/
theorem Passes.state_eq (h : Passes v p step q) : q.world.state = p.world.state := by
  cases h <;> rfl

theorem Fails.state_eq (h : Fails v p step o q) : q.world.state = p.world.state := by
  cases h <;> rfl

theorem Along.state_eq (h : Along v steps p q) : q.world.state = p.world.state :=
  h.kept (f := fun p => p.world.state) (fun _ _ => rfl) fun _ hpasses => hpasses.state_eq

/-- A request that passes all steps is answered by the handler, which gives the new state. -/
theorem dispatch_of_along (henabled : v.endpoint.disabled = false)
    (h : Along v Step.order (.start v w) p) :
    (dispatch v w).1 = responseOf (handlerOutcome v p) ∧
      (dispatch v w).2.state = (v.endpoint.handler p.context p.world.storage w.state).state := by
  have hstate : p.world.state = w.state := h.state_eq
  obtain ⟨storage, hsettle⟩ := settle_eq v.endpoint (handlerOutcome v p) (callHandler v p).2
  rw [dispatch_of_run henabled (run_of_along h), hsettle, ← hstate]
  exact ⟨rfl, rfl⟩

/-- A request that fails a step is answered by the step, and the state stays. -/
theorem dispatch_of_failsAt (henabled : v.endpoint.disabled = false)
    (h : FailsAt v Step.order (.start v w) passed step o q) :
    (dispatch v w).1 = responseAt v o ∧ (dispatch v w).2.state = w.state := by
  obtain ⟨o', storage, hrun, hresponse⟩ := run_of_failsAt h
  obtain ⟨after, r, -, halong, hfails⟩ := h
  rw [dispatch_of_run henabled hrun]
  exact ⟨hresponse, hfails.state_eq.trans halong.state_eq⟩

end RestKit
