import RestKit.Proofs.Endpoint.Rules
import Mathlib.Data.List.TakeWhile
/-!
# The way to the handler

`Along` takes a request through steps by their rules, and `FailsAt` is the first step that it does
not pass. A run over the stages does one or the other (`runStages_cases`), and which one the rules
decide (`runStages_of_along`, `runStages_of_failsAt`).
-/
namespace RestKit

variable {σ : Type} {v : Visit σ} {p p' q r : Passage σ} {step : Step} {steps passed : List Step}
  {o : Outcome ApiError Unit} {row : List (Step × Stage σ)}

/-! ## Steps in order -/

namespace Step

/-- The steps before the handler. -/
def order : List Step := [.opening, .gate, .body, .binding, .params, .filter, .authorization,
  .roles, .rateLimit]

/-- The steps before a step. -/
def before (step : Step) : List Step := order.takeWhile (· ≠ step)

example : before .authorization = [.opening, .gate, .body, .binding, .params, .filter] := by decide

theorem before_handler : before .handler = order := by decide

/-- The steps behind a step. -/
def after (step : Step) : List Step := (order.dropWhile (· ≠ step)).tail

theorem order_eq (h : step ∈ order) : order = step.before ++ step :: step.after := by
  cases step with
  | handler => exact absurd h (by decide)
  | _ => decide

end Step

theorem stages_map_fst : (stages (σ := σ)).map (·.1) = Step.order := rfl

/-- The request takes a step. -/
def Passage.enter (p : Passage σ) (step : Step) : Passage σ := { p with steps := p.steps ++ [step] }

/-- A request passes some steps, one after the other. -/
inductive Along (v : Visit σ) : List Step → Passage σ → Passage σ → Prop
  | nil {p : Passage σ} : Along v [] p p
  | cons {step : Step} {steps : List Step} {p q r : Passage σ}
    (head : Passes v (p.enter step) step q) (tail : Along v steps q r) : Along v (step :: steps) p r

/-- A request passes some of the steps and fails at the next. -/
def FailsAt (v : Visit σ) (steps : List Step) (p : Passage σ) (passed : List Step) (step : Step)
    (o : Outcome ApiError Unit) (q : Passage σ) : Prop :=
  ∃ after r, steps = passed ++ step :: after ∧ Along v passed p r ∧ Fails v (r.enter step) step o q

namespace Along

theorem append_iff {xs ys : List Step} :
    Along v (xs ++ ys) p r ↔ ∃ q, Along v xs p q ∧ Along v ys q r := by
  induction xs generalizing p with
  | nil =>
    constructor
    · exact fun h => ⟨p, .nil, h⟩
    · rintro ⟨q, h, h'⟩
      cases h
      exact h'
  | cons x xs ih =>
    constructor
    · intro h
      cases h with
      | cons head tail =>
        obtain ⟨q, hxs, hys⟩ := ih.1 tail
        exact ⟨q, .cons head hxs, hys⟩
    · rintro ⟨q, hxs, hys⟩
      cases hxs with
      | cons head tail => exact .cons head (ih.2 ⟨q, tail, hys⟩)

end Along

/-- A request that passes all steps passes those before one of them. -/
theorem Along.before (h : Along v Step.order p q) (step : Step) : ∃ r, Along v step.before p r := by
  have horder : step.before ++ Step.order.dropWhile (· ≠ step) = Step.order :=
    List.takeWhile_append_dropWhile
  rw [← horder, Along.append_iff] at h
  obtain ⟨r, hbefore, -⟩ := h
  exact ⟨r, hbefore⟩

/-- A request that passes all steps passes each, between those before and those behind. -/
theorem Along.split (h : Along v Step.order p q) (hstep : step ∈ Step.order) :
    ∃ r s, Along v step.before p r ∧ Passes v (r.enter step) step s ∧
      Along v step.after s q := by
  rw [Step.order_eq hstep, Along.append_iff] at h
  obtain ⟨r, hbefore, hrest⟩ := h
  cases hrest with
  | cons head tail => exact ⟨r, _, hbefore, head, tail⟩

/-! ## No choice -/

theorem Passes.mem_order (h : Passes v p step p') : step ∈ Step.order := by cases h <;> decide

theorem Fails.mem_order (h : Fails v p step o p') : step ∈ Step.order := by cases h <;> decide

theorem exists_stage (h : step ∈ Step.order) : ∃ stage, (step, stage) ∈ stages (σ := σ) := by
  rw [← stages_map_fst (σ := σ)] at h
  obtain ⟨x, hx, rfl⟩ := List.mem_map.1 h
  exact ⟨x.2, hx⟩

theorem Passes.unique (h : Passes v p step q) (h' : Passes v p step r) : q = r := by
  obtain ⟨stage, hs⟩ := exists_stage (σ := σ) h.mem_order
  exact (Prod.mk.inj (((passes_iff hs).1 h).symm.trans ((passes_iff hs).1 h'))).2

theorem Passes.not_fails (h : Passes v p step q) : ¬ Fails v p step o r := by
  intro h'
  obtain ⟨stage, hs⟩ := exists_stage (σ := σ) h.mem_order
  obtain ⟨heq, hne⟩ := (fails_iff hs).1 h'
  exact hne (Prod.mk.inj (heq.symm.trans ((passes_iff hs).1 h))).1

theorem Along.unique (h : Along v steps p q) (h' : Along v steps p r) : q = r := by
  induction h with
  | nil => cases h'; rfl
  | cons head _ ih =>
    cases h' with
    | cons head' tail =>
      obtain rfl := head.unique head'
      exact ih tail

/-- A request that passes some steps fails at none of them. -/
theorem Along.not_failsAt (h : Along v steps p q) : ¬ FailsAt v steps p passed step o r := by
  induction h generalizing passed with
  | nil =>
    rintro ⟨after, r', hsteps, -⟩
    simp at hsteps
  | cons head _ ih =>
    rintro ⟨after, r', hsteps, halong, hfails⟩
    cases halong with
    | nil =>
      obtain ⟨rfl, -⟩ := List.cons.inj hsteps
      exact head.not_fails hfails
    | cons head' tail =>
      obtain ⟨rfl, hrest⟩ := List.cons.inj hsteps
      obtain rfl := head.unique head'
      exact ih ⟨after, r', hrest, tail, hfails⟩

/-! ## Runs -/

theorem within_ne_done {ε α : Type} {o : Outcome ε α} {x : α} {deadline : Option Nat} {e : ε}
    (h : o ≠ .done x) : o.within deadline e ≠ .done x := by
  cases o with
  | pending =>
    dsimp only [Outcome.within]
    split <;> simp
  | _ => exact h

/-- A step that is passed leaves the rest of the row to the passage behind it. -/
theorem runStages_cons_of_done {stage : Stage σ} (h : stage v (p.enter step) = (.done (), q)) :
    runStages v p ((step, stage) :: row) = runStages v q row := by
  unfold Passage.enter at h
  rw [runStages, h]

/-- A step that is not passed ends the run. -/
theorem runStages_cons_of_ne {stage : Stage σ} (h : stage v (p.enter step) = (o, q))
    (hne : o ≠ .done ()) :
    runStages v p ((step, stage) :: row) = (o.within v.endpoint.info.timeout timedOut, q) := by
  unfold Passage.enter at h
  rw [runStages, h]
  cases o with
  | done u => exact absurd rfl hne
  | _ => rfl

/-- A run passes all stages, or fails at one of them. -/
theorem runStages_cases (hrow : ∀ x ∈ row, x ∈ stages) :
    (∃ q, Along v (row.map (·.1)) p q ∧ runStages v p row = (.done (), q)) ∨
      ∃ passed step o q, FailsAt v (row.map (·.1)) p passed step o q ∧ o ≠ .done () ∧
        runStages v p row = (o.within v.endpoint.info.timeout timedOut, q) := by
  induction row generalizing p with
  | nil => exact .inl ⟨p, .nil, rfl⟩
  | cons x row ih =>
    obtain ⟨step, stage⟩ := x
    have hstep := stage_follows (hrow _ (List.mem_cons_self ..)) v (p.enter step)
    rcases hstep with ⟨q, heq, hpasses⟩ | ⟨o, q, heq, hne, hfails⟩
    · rw [runStages_cons_of_done heq]
      rcases ih (p := q) fun x hx => hrow x (List.mem_cons_of_mem _ hx) with
        ⟨r, halong, hdone⟩ | ⟨passed, step', o, r, hfailsAt, hne, hended⟩
      · exact .inl ⟨r, .cons hpasses halong, hdone⟩
      · obtain ⟨after, r', hsteps, halong, hfails⟩ := hfailsAt
        refine .inr ⟨step :: passed, step', o, r, ⟨after, r', ?_, .cons hpasses halong, hfails⟩,
          hne, hended⟩
        rw [List.map_cons, hsteps, List.cons_append]
    · exact .inr ⟨[], step, o, q, ⟨row.map (·.1), p, rfl, .nil, hfails⟩, hne,
        runStages_cons_of_ne heq hne⟩

/-- A run that passes all stages passes their steps by the rules. -/
theorem exists_along_of_runStages (hrow : ∀ x ∈ row, x ∈ stages)
    (hdone : (runStages v p row).1 = .done ()) : ∃ q, Along v (row.map (·.1)) p q := by
  rcases runStages_cases (v := v) (p := p) hrow with
    ⟨q, halong, -⟩ | ⟨passed, step, o, q, -, hne, hended⟩
  · exact ⟨q, halong⟩
  · rw [hended] at hdone
    exact absurd hdone (within_ne_done hne)

/-- Stages whose steps are passed by the rules are passed. -/
theorem runStages_of_along (hrow : ∀ x ∈ row, x ∈ stages) (h : Along v (row.map (·.1)) p q) :
    runStages v p row = (.done (), q) := by
  induction row generalizing p with
  | nil => cases h; rfl
  | cons x row ih =>
    obtain ⟨step, stage⟩ := x
    cases h with
    | cons head tail =>
      rw [runStages_cons_of_done ((passes_iff (hrow _ (List.mem_cons_self ..))).1 head)]
      exact ih (fun x hx => hrow x (List.mem_cons_of_mem _ hx)) tail

/-- Stages of which a step fails by the rules end with its outcome. -/
theorem runStages_of_failsAt (hrow : ∀ x ∈ row, x ∈ stages)
    (h : FailsAt v (row.map (·.1)) p passed step o q) :
    runStages v p row = (o.within v.endpoint.info.timeout timedOut, q) ∧ o ≠ .done () := by
  obtain ⟨after, r, hsteps, halong, hfails⟩ := h
  induction row generalizing p passed with
  | nil => simp at hsteps
  | cons x row ih =>
    obtain ⟨step', stage⟩ := x
    have hmem := hrow _ (List.mem_cons_self ..)
    cases halong with
    | nil =>
      obtain ⟨rfl, -⟩ := List.cons.inj hsteps
      obtain ⟨heq, hne⟩ := (fails_iff hmem).1 hfails
      exact ⟨runStages_cons_of_ne heq hne, hne⟩
    | cons head tail =>
      obtain ⟨rfl, hrest⟩ := List.cons.inj hsteps
      rw [runStages_cons_of_done ((passes_iff hmem).1 head)]
      exact ih (fun x hx => hrow x (List.mem_cons_of_mem _ hx)) hrest tail

/-! ## What steps leave alone -/

/-- What no step on the way changes is the same at its end. -/
theorem Along.kept {α : Type} {f : Passage σ → α} (henter : ∀ p step, f (p.enter step) = f p)
    (hkept : ∀ {step p q}, step ∈ steps → Passes v p step q → f q = f p)
    (h : Along v steps p q) : f q = f p := by
  induction h with
  | nil => rfl
  | cons head _ ih =>
    rw [ih fun hstep => hkept (List.mem_cons_of_mem _ hstep),
      hkept (List.mem_cons_self ..) head, henter]

theorem Passes.steps_eq (h : Passes v p step p') : p'.steps = p.steps := by cases h <;> rfl

theorem Fails.steps_eq (h : Fails v p step o p') : p'.steps = p.steps := by cases h <;> rfl

theorem Along.steps_eq (h : Along v steps p q) : q.steps = p.steps ++ steps := by
  induction h with
  | nil => exact (List.append_nil _).symm
  | cons head _ ih => rw [ih, head.steps_eq, Passage.enter, List.append_assoc]; rfl

theorem FailsAt.steps_eq (h : FailsAt v steps p passed step o q) :
    q.steps = p.steps ++ passed ++ [step] := by
  obtain ⟨after, r, -, halong, hfails⟩ := h
  rw [hfails.steps_eq, Passage.enter, halong.steps_eq]

/-- Only the step of the limiter counts. -/
theorem Passes.counters_eq (h : Passes v p step p') (hstep : step ≠ .rateLimit) :
    p'.world.counters = p.world.counters := by
  cases h <;> first | rfl | exact absurd rfl hstep

theorem Along.counters_eq (h : Along v steps p q) (hsteps : .rateLimit ∉ steps) :
    q.world.counters = p.world.counters := by
  induction h with
  | nil => rfl
  | cons head _ ih =>
    rw [List.mem_cons, not_or] at hsteps
    rw [ih hsteps.2, head.counters_eq (Ne.symm hsteps.1)]
    rfl

/-- The headers stay as they are sent. -/
theorem Passes.headers_eq (h : Passes v p step q) : q.context.headers = p.context.headers := by
  cases h <;> rfl

theorem Along.headers_eq (h : Along v steps p q) : q.context.headers = p.context.headers :=
  h.kept (f := fun p => p.context.headers) (fun _ _ => rfl) fun _ hpasses => hpasses.headers_eq

end RestKit
