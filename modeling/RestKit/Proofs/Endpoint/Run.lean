import RestKit.Proofs.Endpoint.Way
/-!
# One request

A step is taken exactly when the endpoint is enabled and all steps before it are passed
(`mem_stepsOf_iff`). A request that passes all steps gets the handler's answer, and any other one
that of the first step that it fails; what it does not come to has no part in it
(`dispatch_of_agree`).
-/
namespace RestKit

variable {σ : Type} {v v' : Visit σ} {w : World σ} {p q : Passage σ} {step : Step}
  {passed : List Step} {o : Outcome ApiError Unit}

/-! ## Ends -/

/-- The steps that a request takes over a row of them; at a disabled endpoint it takes none. -/
def stepsOver (row : List (Step × Stage σ)) (v : Visit σ) (w : World σ) : List Step :=
  if v.endpoint.disabled then [] else (runOver row v (.start v w)).2.steps

/-- The steps that a request takes. -/
def stepsOf (v : Visit σ) (w : World σ) : List Step := stepsOver stages v w

/-- What the handler answers, given up at the deadline. -/
def handlerOutcome (v : Visit σ) (p : Passage σ) : Outcome ApiError Response :=
  (v.endpoint.handler p.context p.world.storage p.world.state).outcome.within
    v.endpoint.info.timeout timedOut

/-- The response to a request that a step has ended. -/
def responseAt (v : Visit σ) : Outcome ApiError Unit → Option Response
  | .refused e => some e.respond
  | .crashed => some crashed.respond
  | .pending => if v.endpoint.info.timeout.isSome then some timedOut.respond else none
  | .done () => none

/-- Cleaning up changes the disk alone. -/
theorem settle_eq (e : Endpoint σ) (o : Outcome ApiError Response) (p : Passage σ) :
    ∃ storage, settle e o p = p.withStorage storage := by
  have hdone : ∃ storage, (if e.keepsFiles then p else p.dropFiles) = p.withStorage storage := by
    split
    · exact ⟨p.world.storage, rfl⟩
    · exact ⟨p.guard.drop p.world.storage, rfl⟩
  cases o with
  | done r => exact hdone
  | refused e => exact hdone
  | crashed => exact ⟨p.world.storage, rfl⟩
  | pending => exact ⟨p.world.storage, rfl⟩

/-- A request that passes all steps is answered by the handler. -/
theorem run_of_along (h : Along v Step.order (.start v w) p) :
    run v (.start v w) =
      (handlerOutcome v p, settle v.endpoint (handlerOutcome v p) (callHandler v p).2) := by
  have hreach : reachOver stages v (.start v w) = (.done (), p) := by
    rw [reachOver, runStages_of_along (fun _ h => h) h]
  rw [run, runOver, hreach]
  rfl

theorem runStages_of_failsAt_order (h : FailsAt v Step.order p passed step o q) :
    runStages v p stages = (o.within v.endpoint.info.timeout timedOut, q) ∧
      o.within v.endpoint.info.timeout timedOut ≠ .done () := by
  obtain ⟨hrun, hne⟩ := runStages_of_failsAt (fun x (hx : x ∈ stages) => hx) h
  exact ⟨hrun, within_ne_done hne⟩

theorem run_of_refused {e : ApiError} (h : runStages v p stages = (.refused e, q)) :
    run v p = (.refused e, q.dropFiles) := by
  unfold run runOver reachOver
  rw [h]

theorem run_of_crashed (h : runStages v p stages = (.crashed, q)) :
    run v p = (.crashed, q.dropFiles) := by
  unfold run runOver reachOver
  rw [h]

theorem run_of_pending (h : runStages v p stages = (.pending, q)) : run v p = (.pending, q) := by
  unfold run runOver reachOver
  rw [h]

/-- A request that fails a step is answered by the step's outcome, and only its files are removed
then. -/
theorem run_of_failsAt (h : FailsAt v Step.order (.start v w) passed step o q) :
    ∃ o' storage, run v (.start v w) = (o', q.withStorage storage) ∧
      responseOf o' = responseAt v o := by
  have hdrop : q.dropFiles = q.withStorage (q.guard.drop q.world.storage) := rfl
  obtain ⟨hrun, hne⟩ := runStages_of_failsAt_order h
  cases o with
  | done u => exact absurd rfl hne
  | refused e => exact ⟨.refused e, _, hdrop ▸ run_of_refused hrun, rfl⟩
  | crashed => exact ⟨.crashed, _, hdrop ▸ run_of_crashed hrun, rfl⟩
  | pending =>
    cases hdeadline : v.endpoint.info.timeout.isSome with
    | true =>
      rw [Outcome.within, if_pos hdeadline] at hrun
      refine ⟨.refused timedOut, _, hdrop ▸ run_of_refused hrun, ?_⟩
      rw [responseAt, if_pos hdeadline, responseOf]
    | false =>
      rw [Outcome.within, hdeadline, if_neg Bool.false_ne_true] at hrun
      refine ⟨.pending, q.world.storage, run_of_pending hrun, ?_⟩
      rw [responseAt, hdeadline, if_neg Bool.false_ne_true, responseOf]

/-- Runs whose stages end alike end alike. -/
theorem run_of_same_end {p' : Passage σ} {f : Passage σ → Passage σ}
    (hf : ∀ q : Passage σ, (f q).dropFiles = f q.dropFiles) (hne : o ≠ .done ())
    (h : runStages v p stages = (o, q)) (h' : runStages v' p' stages = (o, f q)) :
    run v' p' = ((run v p).1, f (run v p).2) := by
  cases o with
  | done u => exact absurd rfl hne
  | refused e => rw [run_of_refused h, run_of_refused h', hf]
  | crashed => rw [run_of_crashed h, run_of_crashed h', hf]
  | pending => rw [run_of_pending h, run_of_pending h']

theorem dispatch_of_disabled (hdisabled : v.endpoint.disabled = true) :
    dispatch v w = (some routeNotFound.respond, w) := by
  rw [dispatch, dispatchOver, hdisabled, if_pos rfl]

theorem dispatch_of_enabled (henabled : v.endpoint.disabled = false) :
    dispatch v w = (responseOf (run v (.start v w)).1, (run v (.start v w)).2.world) := by
  rw [dispatch, dispatchOver, henabled, if_neg Bool.false_ne_true]
  rfl

theorem dispatch_of_run {o : Outcome ApiError Response} (henabled : v.endpoint.disabled = false)
    (h : run v (.start v w) = (o, p)) : dispatch v w = (responseOf o, p.world) := by
  rw [dispatch_of_enabled henabled, h]

/-- A request passes all steps, or fails at one of them. -/
theorem along_or_failsAt (v : Visit σ) (w : World σ) :
    (∃ p, Along v Step.order (.start v w) p) ∨
      ∃ passed step o q, FailsAt v Step.order (.start v w) passed step o q := by
  rcases runStages_cases (v := v) (p := .start v w) (fun x (hx : x ∈ stages) => hx) with
    ⟨p, h, -⟩ | ⟨passed, step, o, q, h, -⟩
  · exact .inl ⟨p, h⟩
  · exact .inr ⟨passed, step, o, q, h⟩

theorem stepsOf_of_enabled (henabled : v.endpoint.disabled = false) :
    stepsOf v w = (run v (.start v w)).2.steps := by
  rw [stepsOf, stepsOver, henabled, if_neg Bool.false_ne_true]
  rfl

theorem stepsOf_of_along (henabled : v.endpoint.disabled = false)
    (h : Along v Step.order (.start v w) p) : stepsOf v w = Step.order ++ [.handler] := by
  obtain ⟨storage, hsettle⟩ :=
    settle_eq v.endpoint (handlerOutcome v p) (callHandler v p).2
  rw [stepsOf_of_enabled henabled, run_of_along h, hsettle]
  exact congrArg (· ++ [Step.handler]) h.steps_eq

theorem stepsOf_of_failsAt (henabled : v.endpoint.disabled = false)
    (h : FailsAt v Step.order (.start v w) passed step o q) : stepsOf v w = passed ++ [step] := by
  obtain ⟨o', storage, hrun, -⟩ := run_of_failsAt h
  have hsteps : (q.withStorage storage).steps = q.steps := rfl
  rw [stepsOf_of_enabled henabled, hrun, hsteps, h.steps_eq]
  rfl

/-- A request whose deadline cannot be read crashes when it is opened. -/
theorem dispatch_of_not_timely (henabled : v.endpoint.disabled = false) (h : ¬ v.Timely) :
    stepsOf v w = [.opening] ∧ dispatch v w = (some crashed.respond, w) := by
  have hfailsAt : FailsAt v Step.order (.start v w) [] .opening .crashed
      ((Passage.start v w).enter .opening) :=
    ⟨Step.before .handler |>.tail, _, by decide, .nil, .opening_of_not_timely h _⟩
  have hrun := run_of_crashed (runStages_of_failsAt_order hfailsAt).1
  rw [stepsOf_of_failsAt henabled hfailsAt, dispatch_of_run henabled hrun]
  exact ⟨rfl, rfl⟩

/-- Up to some point stand just the elements that have no more before them. -/
theorem mem_concat_iff {α : Type} [DecidableEq α] {a x : α} {xs : List α}
    (ys : List α) : a ∈ xs ++ [x] ↔ (xs ++ x :: ys).takeWhile (· ≠ a) <+: xs := by
  induction xs with
  | nil =>
    by_cases h : x = a
    · simp [h]
    · simp [h, Ne.symm h]
  | cons y xs ih =>
    by_cases h : y = a
    · simp [h]
    · rw [List.cons_append, List.mem_cons, ih, List.cons_append, List.takeWhile_cons,
        if_pos (by simpa using h), List.cons_prefix_cons]
      simp [Ne.symm h]

/-- A step is taken exactly when the endpoint is enabled and all steps before it are passed. -/
theorem mem_stepsOf_iff :
    step ∈ stepsOf v w ↔
      v.endpoint.disabled = false ∧ ∃ p, Along v step.before (.start v w) p := by
  cases hdisabled : v.endpoint.disabled with
  | true => simp [stepsOf, stepsOver, hdisabled]
  | false =>
    simp only [true_and]
    rcases along_or_failsAt v w with ⟨p, h⟩ | ⟨passed, step', o, q, h⟩
    · rw [stepsOf_of_along hdisabled h]
      exact iff_of_true (by cases step <;> decide) (h.before step)
    · rw [stepsOf_of_failsAt hdisabled h]
      obtain ⟨after, r, horder, halong, hfails⟩ := h
      -- A step is among those taken just when all steps before it are among those passed.
      rw [mem_concat_iff after, ← horder]
      constructor
      · rintro ⟨zs, hpassed⟩
        rw [← hpassed, Along.append_iff] at halong
        obtain ⟨q, hbefore, -⟩ := halong
        exact ⟨q, hbefore⟩
      · rintro ⟨q', hbefore⟩
        -- Otherwise the step that failed would be among those that were passed.
        by_contra hprefix
        have hconcat : passed ++ [step'] <+: Step.order := ⟨after, by rw [horder]; simp⟩
        have hfailed : passed ++ [step'] <+: step.before := by
          rcases List.prefix_or_prefix_of_prefix (List.takeWhile_prefix _) hconcat with h | h
          · rcases List.prefix_concat_iff.1 h with h | h
            · exact ⟨[], by rw [List.append_nil]; exact h.symm⟩
            · exact absurd h hprefix
          · exact h
        obtain ⟨zs, hzs⟩ := hfailed
        exact hbefore.not_failsAt ⟨zs, r, by rw [← hzs]; simp, halong, hfails⟩

/-- A request that reaches the handler takes all steps. -/
theorem mem_stepsOf_of_handler (h : .handler ∈ stepsOf v w) : step ∈ stepsOf v w := by
  obtain ⟨henabled, p, halong⟩ := mem_stepsOf_iff.1 h
  rw [Step.before_handler] at halong
  exact mem_stepsOf_iff.2 ⟨henabled, halong.before step⟩

/-! ## What is not asked does not matter -/

/-- Some steps are the same on two visits of one request. -/
structure Visit.Agree (v v' : Visit σ) (steps : List Step) : Prop where
  start : ∀ w, Passage.start v' w = .start v w
  disabled : v'.endpoint.disabled = v.endpoint.disabled
  timeout : v'.endpoint.info.timeout = v.endpoint.info.timeout
  stage : ∀ step ∈ steps, ∀ stage, (step, stage) ∈ stages → ∀ p, stage v' p = stage v p

theorem Along.agree {steps taken : List Step} (h : Along v steps p q)
    (hagree : v.Agree v' taken) (hsteps : ∀ step ∈ steps, step ∈ taken) : Along v' steps p q := by
  induction h with
  | nil => exact .nil
  | cons head _ ih =>
    obtain ⟨hhead, htail⟩ := List.forall_mem_cons.1 hsteps
    obtain ⟨stage, hs⟩ := exists_stage (σ := σ) head.mem_order
    refine .cons ((passes_iff hs).2 ?_) (ih htail)
    rw [hagree.stage _ hhead _ hs]
    exact (passes_iff hs).1 head

/-- A request that does not reach the handler is answered by the steps that it takes. -/
theorem dispatch_of_agree (h : .handler ∉ stepsOf v w)
    (hagree : v.Agree v' (stepsOf v w)) : dispatch v' w = dispatch v w := by
  cases hdisabled : v.endpoint.disabled with
  | true =>
    rw [dispatch_of_disabled hdisabled, dispatch_of_disabled (hagree.disabled.trans hdisabled)]
  | false =>
    rw [dispatch_of_enabled hdisabled, dispatch_of_enabled (hagree.disabled.trans hdisabled),
      hagree.start]
    rcases along_or_failsAt v w with ⟨p, halong⟩ | ⟨passed, step, o, q, hfailsAt⟩
    · rw [stepsOf_of_along hdisabled halong] at h
      exact absurd (by decide) h
    · rw [stepsOf_of_failsAt hdisabled hfailsAt] at hagree
      obtain ⟨hrun, hne⟩ := runStages_of_failsAt_order hfailsAt
      obtain ⟨after, r, horder, halong, hfails⟩ := hfailsAt
      obtain ⟨stage, hs⟩ := exists_stage (σ := σ) hfails.mem_order
      have halong' := halong.agree hagree fun step hstep => List.mem_append_left _ hstep
      have hfails' : Fails v' (r.enter step) step o q := by
        rw [fails_iff hs, hagree.stage step (by simp) stage hs]
        exact (fails_iff hs).1 hfails
      have hrun' := (runStages_of_failsAt_order ⟨after, r, horder, halong', hfails'⟩).1
      rw [hagree.timeout] at hrun'
      rw [run_of_same_end (f := id) (fun _ => rfl) hne hrun hrun']
      rfl

/-- The visit under another authorizer. -/
def Visit.withAuthorizer (v : Visit σ) (a : Option Auth.Authorizer) : Visit σ :=
  { v with app := { v.app with authorizer := a } }

/-- The visit with another handler. -/
def Visit.withHandler (v : Visit σ) (handler : Handler σ) : Visit σ :=
  { v with endpoint := { v.endpoint with handler } }

/-- A request that is refused before its authorizer is asked does not depend on the authorizer. -/
theorem dispatch_withAuthorizer (h : .authorization ∉ stepsOf v w)
    (a : Option Auth.Authorizer) : dispatch (v.withAuthorizer a) w = dispatch v w := by
  refine dispatch_of_agree (fun hmem => h (mem_stepsOf_of_handler hmem))
    ⟨fun _ => rfl, rfl, rfl, fun step hstep stage hs p => ?_⟩
  have hother : step ≠ .authorization := fun heq => h (heq ▸ hstep)
  exact of_mem_stages
    (P := fun step stage => step ≠ .authorization → stage (v.withAuthorizer a) p = stage v p)
    (fun _ => rfl) (fun _ => rfl) (fun _ => rfl) (fun _ => rfl) (fun _ => rfl) (fun _ => rfl)
    (fun hne => absurd rfl hne) (fun _ => rfl) (fun _ => rfl) hs hother

/-- A request that does not reach the handler does not depend on the handler. -/
theorem dispatch_withHandler (h : .handler ∉ stepsOf v w) (handler : Handler σ) :
    dispatch (v.withHandler handler) w = dispatch v w := by
  refine dispatch_of_agree h ⟨fun _ => rfl, rfl, rfl, fun step _ stage hs p => ?_⟩
  exact of_mem_stages (P := fun _ stage => stage (v.withHandler handler) p = stage v p)
    rfl rfl rfl rfl rfl rfl rfl rfl rfl hs

end RestKit
