import RestKit.Proofs.Endpoint.Cleanup
import RestKit.Proofs.Upload.Listed
/-!
# Requests that do not reach their handler

Whatever ends a request between the reading of its body and the handler, the files that were stored
for it are gone afterwards (`files_gone_before_handler`). User code runs in these steps, and may end
badly where the stages themselves never do, so any of them may be interrupted here: it crashes, or
waits until the deadline.
-/
namespace RestKit

variable {σ : Type} {v : Visit σ} {w : World σ} {p q : Passage σ} {step : Step}
  {row : List (Step × Stage σ)} {breaks : Step → Option Interruption}
  {o : Outcome ApiError Unit} {progress : Upload.Progress}

/-! ## Interrupted steps -/

/-- What may befall a step. -/
inductive Interruption where
  | crash
  | wait
deriving DecidableEq, Repr

def Interruption.outcome : Interruption → Outcome ApiError Unit
  | .crash => .crashed
  | .wait => .pending

/-- A stage that is interrupted, if it is, before it has changed the request. -/
def Stage.interrupted (stage : Stage σ) : Option Interruption → Stage σ
  | none => stage
  | some i => fun _ p => (i.outcome, p)

/-- The steps before the handler, some of them interrupted. -/
def interruptedStages (breaks : Step → Option Interruption) : List (Step × Stage σ) :=
  stages.map fun (step, stage) => (step, stage.interrupted (breaks step))

/-- Without interruptions, a request is dispatched. -/
theorem dispatchOver_uninterrupted :
    dispatchOver (interruptedStages fun _ => none) v w = dispatch v w := rfl

theorem stepsOver_uninterrupted :
    stepsOver (interruptedStages fun _ => none) v w = stepsOf v w := rfl

/-! ## What interrupted steps leave alone -/

theorem exists_of_mem_interruptedStages {stage : Stage σ}
    (h : (step, stage) ∈ interruptedStages breaks) :
    ∃ stage', (step, stage') ∈ stages ∧ stage = stage'.interrupted (breaks step) := by
  obtain ⟨⟨step', stage'⟩, hmem, heq⟩ := List.mem_map.1 h
  cases heq
  exact ⟨stage', hmem, rfl⟩

/-- What all ways to pass and to fail a step keep, its stage keeps, interrupted or not. -/
theorem interrupted_keeps {P : Passage σ → Passage σ → Prop} {stage : Stage σ}
    (hrefl : ∀ p, P p p) (hpasses : ∀ p q, Passes v p step q → P p q)
    (hfails : ∀ p o q, Fails v p step o q → P p q)
    (h : (step, stage) ∈ interruptedStages breaks) : P p (stage v p).2 := by
  obtain ⟨stage', hmem, rfl⟩ := exists_of_mem_interruptedStages h
  cases hbreaks : breaks step with
  | some i => exact hrefl p
  | none =>
    rw [Stage.interrupted]
    rcases stage_follows hmem v p with ⟨q, heq, h⟩ | ⟨o, q, heq, -, h⟩
    · rw [heq]
      exact hpasses p q h
    · rw [heq]
      exact hfails p o q h

theorem interrupted_sameFiles {stage : Stage σ}
    (h : (step, stage) ∈ interruptedStages breaks) (hstep : step ≠ .body) :
    SameFiles p (stage v p).2 :=
  interrupted_keeps (fun _ => ⟨rfl, rfl⟩) (fun _ _ h => h.sameFiles hstep)
    (fun _ _ _ h => h.sameFiles hstep) h

theorem interrupted_steps {stage : Stage σ} (h : (step, stage) ∈ interruptedStages breaks) :
    (stage v p).2.steps = p.steps :=
  interrupted_keeps (P := fun p q => q.steps = p.steps) (fun _ => rfl) (fun _ _ h => h.steps_eq)
    (fun _ _ _ h => h.steps_eq) h

theorem ne_handler_of_mem {stage : Stage σ} (h : (step, stage) ∈ interruptedStages breaks) :
    step ≠ .handler := by
  obtain ⟨stage', hmem, -⟩ := exists_of_mem_interruptedStages h
  rintro rfl
  have hname : Step.handler ∈ (stages (σ := σ)).map (·.1) := List.mem_map_of_mem hmem
  rw [stages_map_fst] at hname
  exact absurd hname (by decide)

/-- What the stages of a row keep of a request, a run over the row keeps. -/
theorem runStages_keeps {R : Passage σ → Passage σ → Prop} (hrefl : ∀ p, R p p)
    (htrans : ∀ p q r, R p q → R q r → R p r)
    (hrow : ∀ x ∈ row, ∀ p : Passage σ, R p (x.2 v (p.enter x.1)).2) :
    R p (runStages v p row).2 := by
  induction row generalizing p with
  | nil => exact hrefl p
  | cons x row ih =>
    obtain ⟨step, stage⟩ := x
    obtain ⟨hstage, hrest⟩ := List.forall_mem_cons.1 hrow
    have hhead : R p (stage v (p.enter step)).2 := hstage p
    rcases heq : stage v (p.enter step) with ⟨o, q⟩
    rw [heq] at hhead
    by_cases ho : o = .done ()
    · rw [runStages_cons_of_done (ho ▸ heq)]
      exact htrans p q _ hhead (ih hrest)
    · rw [runStages_cons_of_ne heq ho]
      exact hhead

/-- Where no body is read, a run leaves the files of the request alone. -/
theorem runStages_sameFiles
    (hrow : ∀ x ∈ row, x ∈ interruptedStages breaks ∧ x.1 ≠ .body) :
    SameFiles p (runStages v p row).2 := by
  refine runStages_keeps (fun _ => ⟨rfl, rfl⟩) (fun _ _ _ h h' => h.trans h') fun x hx p => ?_
  have hstage : SameFiles (p.enter x.1) (x.2 v (p.enter x.1)).2 :=
    interrupted_sameFiles (hrow x hx).1 (hrow x hx).2
  exact ⟨hstage.files, hstage.storage⟩

/-- The handler is no step of the row. -/
theorem handler_not_taken (hrun : runStages v (.start v w) (interruptedStages breaks) = (o, q)) :
    .handler ∉ q.steps := by
  have hkeeps : .handler ∈ (runStages v (.start v w) (interruptedStages breaks)).2.steps →
      .handler ∈ (Passage.start v w).steps := by
    refine runStages_keeps (R := fun p q => .handler ∈ q.steps → .handler ∈ p.steps)
      (fun _ h => h) (fun _ _ _ h h' => h ∘ h') fun x hx p h => ?_
    rw [interrupted_steps hx, Passage.enter, List.mem_append, List.mem_singleton] at h
    exact h.resolve_right (ne_handler_of_mem hx).symm
  rw [hrun] at hkeeps
  exact fun h => List.not_mem_nil (hkeeps h)

/-! ## Main theorem -/

/-- The files of a request are stored: an enabled endpoint with uploads has set the request's
deadline, and admitted and received its multipart body. -/
structure Visit.Stores (v : Visit σ) (w : World σ) (progress : Upload.Progress) : Prop where
  enabled : v.endpoint.disabled = false
  timely : v.Timely
  admitted : v.endpoint.gate v.request.headers = .ok (some .multipart)
  received : ∃ policy boundary, v.endpoint.upload = some policy ∧
    Http.Multipart.boundary? v.request.headers = some boundary ∧
    Upload.receiveAll policy v.app.config.api.formMemoryLimit
      (.parse boundary v.request.body) w.storage = (.ok (), progress)

/-- Reading the body lists and stores the files. -/
theorem Visit.Stores.body_passes (h : v.Stores w progress) (hkind : p.kind = some .multipart)
    (hheaders : p.context.headers = v.request.headers) (hstorage : p.world.storage = w.storage) :
    ∃ q, Passes v p .body q ∧ q.context.files = progress.files ∧
      q.world.storage = progress.storage := by
  obtain ⟨policy, boundary, hupload, hboundary, hreceived⟩ := h.received
  have hreceived' : v.received p boundary =
      (.ok (progress.files, progress.form), progress.storage) := by
    rw [Visit.received, hupload, hstorage]
    exact Upload.receive_eq_ok.2 ⟨progress, hreceived, rfl, rfl, rfl⟩
  rw [← hheaders] at hboundary
  exact ⟨_, .multipart hkind hboundary hreceived', rfl, rfl⟩

theorem interruptedStages_eq (hopening : breaks .opening = none) (hgate : breaks .gate = none)
    (hbody : breaks .body = none) :
    interruptedStages breaks = (.opening, Stage.opening (σ := σ)) :: (.gate, Stage.gate) ::
      (.body, Stage.body) :: (interruptedStages breaks).drop 3 := by
  have hcons : interruptedStages breaks =
      (.opening, Stage.opening.interrupted (breaks .opening)) ::
        (.gate, Stage.gate.interrupted (breaks .gate)) ::
          (.body, Stage.body.interrupted (breaks .body)) ::
            (interruptedStages (σ := σ) breaks).drop 3 := rfl
  rw [hopening, hgate, hbody] at hcons
  exact hcons

/-- No step behind the body reads it. -/
theorem ne_body_of_mem_drop {x : Step × Stage σ} (h : x ∈ (interruptedStages breaks).drop 3) :
    x.1 ≠ .body := by
  have hname : x.1 ∈ ((interruptedStages breaks).drop 3).map (·.1) := List.mem_map_of_mem h
  have hnames : ((interruptedStages (σ := σ) breaks).drop 3).map (·.1) = Step.order.drop 3 := rfl
  intro hbody
  rw [hnames, hbody] at hname
  exact absurd hname (by decide)

/-- A request whose files are stored gets to the steps behind its body with them. -/
theorem Visit.Stores.runStages_eq (h : v.Stores w progress) (hopening : breaks .opening = none)
    (hgate : breaks .gate = none) (hbody : breaks .body = none) :
    ∃ q, runStages v (.start v w) (interruptedStages breaks) =
        runStages v q ((interruptedStages breaks).drop 3) ∧
      q.context.files = progress.files ∧ q.world.storage = progress.storage := by
  obtain ⟨p, hopened⟩ := h.timely.passes_opening ((Passage.start v w).enter .opening)
  have hheaders : p.context.headers = v.request.headers := hopened.headers_eq
  have hstart : SameFiles _ p := hopened.sameFiles (by decide)
  have hgated : Passes v (p.enter .gate) .gate { p.enter .gate with kind := some .multipart } :=
    .gate (hheaders ▸ h.admitted)
  obtain ⟨q, hread, hfiles, hstorage⟩ := h.body_passes
    (p := Passage.enter { p.enter .gate with kind := some .multipart } .body) rfl hheaders
    hstart.storage
  refine ⟨q, ?_, hfiles, hstorage⟩
  rw [interruptedStages_eq hopening hgate hbody,
    runStages_cons_of_done (hopened.stage_eq (by simp [stages])),
    runStages_cons_of_done (hgated.stage_eq (by simp [stages])),
    runStages_cons_of_done (hread.stage_eq (by simp [stages]))]
  rfl

/-- The steps behind the body leave the request the files that were stored. -/
theorem Visit.Stores.sameFiles (h : v.Stores w progress) (hopening : breaks .opening = none)
    (hgate : breaks .gate = none) (hbody : breaks .body = none)
    (hrun : runStages v (.start v w) (interruptedStages breaks) = (o, q)) :
    q.context.files = progress.files ∧ q.world.storage = progress.storage := by
  obtain ⟨r, heq, hfiles, hstorage⟩ := h.runStages_eq hopening hgate hbody
  have hsame : SameFiles r (runStages v r ((interruptedStages breaks).drop 3)).2 :=
    runStages_sameFiles fun _ hx => ⟨List.mem_of_mem_drop hx, ne_body_of_mem_drop hx⟩
  rw [← heq, hrun] at hsame
  exact ⟨hsame.files.trans hfiles, hsame.storage.trans hstorage⟩

/-- A request that a step has ended is left without its files. -/
theorem runOver_of_ended (hrun : runStages v p row = (o, q)) (hfails : o ≠ .done ())
    (hover : o ≠ .pending) : ∃ o', runOver row v p = (o', q.dropFiles) := by
  unfold runOver reachOver
  rw [hrun]
  cases o with
  | done u => exact absurd rfl hfails
  | refused e => exact ⟨.refused e, rfl⟩
  | crashed => exact ⟨.crashed, rfl⟩
  | pending => exact absurd rfl hover

/-- Once a step behind the body has ended a request, by a refusal, a crash or the deadline, the
files that were stored for it are gone, and its handler has not run. -/
theorem files_gone_before_handler (hstores : v.Stores w progress)
    (hopening : breaks .opening = none) (hgate : breaks .gate = none) (hbody : breaks .body = none)
    (hrun : runStages v (.start v w) (interruptedStages breaks) = (o, q))
    (hfails : o ≠ .done ()) (hover : o ≠ .pending) :
    .handler ∉ stepsOver (interruptedStages breaks) v w ∧
      q.guard.paths.Perm progress.created ∧
      (∀ path ∈ progress.created,
        (dispatchOver (interruptedStages breaks) v w).2.storage.content? path = none) ∧
      ∀ path, path ∉ progress.created →
        (dispatchOver (interruptedStages breaks) v w).2.storage.content? path =
          w.storage.content? path := by
  obtain ⟨policy, boundary, -, -, hreceived⟩ := hstores.received
  obtain ⟨⟨stored, hlisted⟩, -⟩ := Upload.receiveAll_listed hreceived
  obtain ⟨hfiles, hstorage⟩ := hstores.sameFiles hopening hgate hbody hrun
  obtain ⟨o', hended⟩ := runOver_of_ended hrun hfails hover
  have hcontent (path : String) :
      (dispatchOver (interruptedStages breaks) v w).2.storage.content? path =
        if path ∈ progress.created then none else w.storage.content? path := by
    rw [dispatchOver, hstores.enabled, if_neg Bool.false_ne_true, hended]
    dsimp only [Passage.dropFiles, Passage.guard]
    rw [hfiles, hstorage]
    exact hlisted.content_drop path
  refine ⟨?_, ?_, fun path hpath => ?_, fun path hpath => ?_⟩
  · rw [stepsOver, hstores.enabled, if_neg Bool.false_ne_true, hended]
    show Step.handler ∉ q.steps
    exact handler_not_taken hrun
  · rw [Passage.guard, hfiles]
    exact hlisted.guard_perm
  · rw [hcontent, if_pos hpath]
  · rw [hcontent, if_neg hpath]

/-- The upload of one file to an endpoint that keeps its files. -/
def keepingVisit : Visit Unit :=
  let v := uploadVisit (.done (.bare 204))
  { v with endpoint := { v.endpoint with upload := some { keepFiles := true } } }

/-- What is received of the file. -/
def keptUpload : Upload.Step :=
  Upload.receiveAll { keepFiles := true } Config.development.api.formMemoryLimit
    (.parse "B" keepingVisit.request.body) {}

/-- A crash in the step of the parameters. -/
def paramsCrash : Step → Option Interruption
  | .params => some .crash
  | _ => none

theorem files_gone_before_handler_params :
    ∃ progress o q, keepingVisit.Stores emptyWorld progress ∧
      runStages keepingVisit (.start keepingVisit emptyWorld) (interruptedStages paramsCrash) =
        (o, q) ∧ o ≠ .done () ∧ o ≠ .pending ∧
      progress.created = ["uploads/00000000-0000-0000-0000-000000000000.png"] ∧
      ∀ path ∈ progress.created, (dispatchOver (interruptedStages paramsCrash) keepingVisit
        emptyWorld).2.storage.content? path = none := by
  have hok : keptUpload.1.isOk = true := by decide +kernel
  have hcreated : keptUpload.2.created =
      ["uploads/00000000-0000-0000-0000-000000000000.png"] := by decide +kernel
  have hcrashed : (runStages keepingVisit (.start keepingVisit emptyWorld)
      (interruptedStages paramsCrash)).1 = .crashed := by decide +kernel
  rcases hreceived : keptUpload with ⟨result, progress⟩
  rcases hrun : runStages keepingVisit (.start keepingVisit emptyWorld)
    (interruptedStages paramsCrash) with ⟨o, q⟩
  rw [hreceived] at hok hcreated
  rw [hrun] at hcrashed
  cases hcrashed
  cases result with
  | error e => cases hok
  | ok u =>
    have hstores : keepingVisit.Stores emptyWorld progress :=
      ⟨rfl, nofun, by decide +kernel, _, "B", rfl, by decide +kernel, hreceived⟩
    have hgone := files_gone_before_handler hstores rfl rfl rfl hrun nofun nofun
    exact ⟨progress, .crashed, q, hstores, rfl, nofun, nofun, hcreated, hgone.2.2.1⟩

end RestKit
