import RestKit.Proofs.Endpoint.Run
import RestKit.Proofs.Upload.Received
/-!
# Temporary files

A request that reaches the handler of an endpoint with temporary uploads has its files on the disk
and nothing else (`Stocked`). They are gone afterwards in whichever way the handler ends, unless it
crashes (`disk_restored_iff`).
-/
namespace RestKit

variable {σ : Type} {v : Visit σ} {w : World σ} {s : Upload.Storage} {p q : Passage σ}
  {step : Step} {steps : List Step} {policy : Upload.Policy}

/-- The disk holds what it did in `s`, and the files of the request besides. -/
structure Stocked (s : Upload.Storage) (p : Passage σ) : Prop where
  left : ∀ path, path ∈ p.guard.paths ↔
    s.content? path = none ∧ p.world.storage.content? path ≠ none
  kept : ∀ path, s.content? path ≠ none → p.world.storage.content? path = s.content? path

theorem start_stocked (v : Visit σ) (w : World σ) : Stocked w.storage (.start v w) where
  left path := by
    constructor
    · intro h
      cases h
    · rintro ⟨hnone, hsome⟩
      exact absurd hnone hsome
  kept _ _ := rfl

/-- The files of a request, and those on the disk, are the same. -/
structure SameFiles (p q : Passage σ) : Prop where
  files : q.context.files = p.context.files
  storage : q.world.storage = p.world.storage

theorem SameFiles.trans {r : Passage σ} (h : SameFiles p q) (h' : SameFiles q r) : SameFiles p r :=
  ⟨h'.files.trans h.files, h'.storage.trans h.storage⟩

/-- Only reading a body stores files. -/
theorem Passes.sameFiles (h : Passes v p step q) (hstep : step ≠ .body) : SameFiles p q := by
  cases h <;> first | exact ⟨rfl, rfl⟩ | exact absurd rfl hstep

theorem Fails.sameFiles {o : Outcome ApiError Unit} (h : Fails v p step o q)
    (hstep : step ≠ .body) : SameFiles p q := by
  cases h <;> first | exact ⟨rfl, rfl⟩ | exact absurd rfl hstep

theorem Along.sameFiles (h : Along v steps p q) (hsteps : .body ∉ steps) : SameFiles p q := by
  induction h with
  | nil => exact ⟨rfl, rfl⟩
  | cons head _ ih =>
    rw [List.mem_cons, not_or] at hsteps
    have hhead := head.sameFiles (Ne.symm hsteps.1)
    exact SameFiles.trans ⟨hhead.files, hhead.storage⟩ (ih hsteps.2)

theorem Stocked.ofSame (hp : Stocked s p) (h : SameFiles p q) : Stocked s q where
  left path := by rw [Passage.guard, h.files, h.storage]; exact hp.left path
  kept path := by rw [h.storage]; exact hp.kept path

/-- The names of the files of a request are new. -/
def Visit.Fresh (v : Visit σ) (w : World σ) (policy : Upload.Policy) : Prop :=
  ∀ boundary, Http.Multipart.boundary? v.request.headers = some boundary →
    w.storage.Fresh policy.destination (Http.Multipart.parse boundary v.request.body).parts.length

/-- A request that comes to its handler has passed the gate and the reading of its body, and the
steps before and behind it leave its files alone. -/
theorem exists_read_of_along (hreach : Along v Step.order (.start v w) p) :
    ∃ kind q r, v.endpoint.gate v.request.headers = .ok kind ∧ q.kind = kind ∧
      q.context.headers = v.request.headers ∧ SameFiles (.start v w) q ∧ Passes v q .body r ∧
      SameFiles r p := by
  obtain ⟨q, r, hbefore, hgate, hafter⟩ := hreach.split (show Step.gate ∈ Step.order by decide)
  have hstart := hbefore.sameFiles (by decide)
  have hheaders : q.context.headers = v.request.headers := hbefore.headers_eq
  cases hgate with
  | @gate kind hgate =>
    cases hafter with
    | cons hread hrest =>
      exact ⟨kind, Passage.enter { q.enter .gate with kind } .body, _, hheaders ▸ hgate, rfl,
        hheaders, ⟨hstart.files, hstart.storage⟩, hread, hrest.sameFiles (by decide)⟩

/-- A request that reaches the handler has stored its files. -/
theorem stocked_of_along (hupload : v.endpoint.upload = some policy) (fresh : v.Fresh w policy)
    (h : Along v Step.order (.start v w) p) : Stocked w.storage p := by
  obtain ⟨kind, q, r, -, -, hheaders, hstart, hread, hsame⟩ := exists_read_of_along h
  refine Stocked.ofSame ?_ hsame
  have hq : Stocked w.storage q := (start_stocked v w).ofSame hstart
  have hstorage : q.world.storage = w.storage := hstart.storage
  cases hread with
  | unread | json | form => exact ⟨hq.left, hq.kept⟩
  | multipart _ hboundary hreceived =>
    rw [Visit.received, hupload, hstorage] at hreceived
    rw [hheaders] at hboundary
    have hreceived' := Upload.received_of_receive (fresh _ hboundary) hreceived
    exact ⟨hreceived'.left, hreceived'.kept⟩

/-- Removing the files of a request leaves the disk as it was. -/
theorem Stocked.content_dropFiles (hp : Stocked s p) (path : String) :
    p.dropFiles.world.storage.content? path = s.content? path := by
  have hdrop : p.dropFiles.world.storage = p.world.storage.removeAll p.guard.paths := rfl
  rw [hdrop, Upload.Storage.content_removeAll]
  split
  · rename_i hmem
    exact ((hp.left path).1 hmem).1.symm
  · rename_i hmem
    by_cases hbefore : s.content? path = none
    · rw [hbefore]
      by_contra hafter
      exact hmem ((hp.left path).2 ⟨hbefore, hafter⟩)
    · exact hp.kept path hbefore

/-- The disk holds what it did before just when the request has no files. -/
theorem Stocked.content_eq_iff (hp : Stocked s p) :
    (∀ path, p.world.storage.content? path = s.content? path) ↔ p.guard.paths = [] := by
  constructor
  · intro hsame
    refine List.eq_nil_iff_forall_not_mem.2 fun path hmem => ?_
    obtain ⟨hbefore, hafter⟩ := (hp.left path).1 hmem
    exact hafter ((hsame path).trans hbefore)
  · intro hnone path
    by_cases hbefore : s.content? path = none
    · rw [hbefore]
      by_contra hafter
      have hmem := (hp.left path).2 ⟨hbefore, hafter⟩
      rw [hnone] at hmem
      cases hmem
    · exact hp.kept path hbefore

/-- Once a request that has reached its handler is over, its temporary files are gone, unless it
has some and the handler has crashed. -/
theorem disk_restored_iff (hupload : v.endpoint.upload = some policy)
    (htemporary : policy.keepFiles = false) (henabled : v.endpoint.disabled = false)
    (fresh : v.Fresh w policy) (hreach : Along v Step.order (.start v w) p)
    (hover : handlerOutcome v p ≠ .pending) :
    (∀ path, (dispatch v w).2.storage.content? path = w.storage.content? path) ↔
      p.guard.paths = [] ∨ handlerOutcome v p ≠ .crashed := by
  have hstocked := stocked_of_along hupload fresh hreach
  have hcalled : Stocked w.storage (callHandler v p).2 := ⟨hstocked.left, hstocked.kept⟩
  have hkeeps : v.endpoint.keepsFiles = false := by
    rw [Endpoint.keepsFiles, hupload]
    exact htemporary
  rw [dispatch_of_run henabled (run_of_along hreach)]
  dsimp only
  unfold settle
  cases hout : handlerOutcome v p with
  | pending => exact absurd hout hover
  | crashed =>
    simp only [ne_eq, not_true, or_false]
    exact hcalled.content_eq_iff
  | done r =>
    dsimp only
    rw [hkeeps, if_neg Bool.false_ne_true]
    exact iff_of_true hcalled.content_dropFiles (.inr nofun)
  | refused e =>
    dsimp only
    rw [hkeeps, if_neg Bool.false_ne_true]
    exact iff_of_true hcalled.content_dropFiles (.inr nofun)

/-- The upload of one file to an endpoint whose handler ends in some way. -/
def uploadVisit (outcome : Outcome ApiError Response) : Visit Unit where
  app := { process := .development }
  endpoint := {
    info := { name := "pan", method := "POST", path := "/pan", isPublic := true }
    params := [], body := none, contentTypes := [], upload := some {}, limiter := none
    handler := fun _ _ s => { outcome, state := s }
    disabled := false }
  request := {
    method := "POST", uri := ⟨"/pan", none⟩
    headers := [("content-type", Utf8.encode "multipart/form-data; boundary=B")]
    body := Utf8.encode ("--B\r\nContent-Disposition: form-data; name=\"f\"; filename=\"a.png\""
      ++ "\r\n\r\n1\r\n--B--\r\n") }
  path := []

/-- A world without files. -/
def emptyWorld : World Unit := { state := () }

theorem disk_restored_iff_answered :
    ∃ p, Along (uploadVisit (.done (.bare 204))) Step.order
        (.start (uploadVisit (.done (.bare 204))) emptyWorld) p ∧
      ∀ path, (dispatch (uploadVisit (.done (.bare 204))) emptyWorld).2.storage.content? path =
        emptyWorld.storage.content? path := by
  have hreach : .handler ∈ stepsOf (uploadVisit (.done (.bare 204))) emptyWorld := by
    decide +kernel
  obtain ⟨-, p, hp⟩ := mem_stepsOf_iff.1 hreach
  rw [Step.before_handler] at hp
  have hboundary : Http.Multipart.boundary?
      (uploadVisit (.done (.bare 204))).request.headers = some "B" := by decide +kernel
  have fresh : (uploadVisit (.done (.bare 204))).Fresh emptyWorld {} := by
    intro boundary h
    obtain rfl := Option.some.inj (hboundary.symm.trans h)
    exact ⟨by decide +kernel, fun _ _ _ => rfl⟩
  exact ⟨p, hp, (disk_restored_iff rfl rfl rfl fresh hp nofun).2 (.inr nofun)⟩

/-- The file of a request stays behind when its handler crashes. -/
theorem crash_leaves_file :
    .handler ∈ stepsOf (uploadVisit .crashed) emptyWorld ∧
      (dispatch (uploadVisit .crashed) emptyWorld).1 = some crashed.respond ∧
      (dispatch (uploadVisit .crashed) emptyWorld).2.storage.content?
        "temp/00000000-0000-0000-0000-000000000000.png" = some [49] ∧
      emptyWorld.storage.content? "temp/00000000-0000-0000-0000-000000000000.png" = none := by
  decide +kernel

end RestKit
