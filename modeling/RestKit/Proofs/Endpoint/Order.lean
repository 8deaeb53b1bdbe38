import RestKit.Proofs.Endpoint.Counters
import RestKit.Proofs.RateLimit.Window
/-!
# Requests are taken step by step

Over any sequence of requests, a step is taken exactly when the endpoint is enabled and all steps
before it are passed; a request that does not reach its handler gets the error of the first step
that it fails; and the counters are those of the hits of the requests that pass all steps before
the limiter (`requests_answered_in_order`). Each of these hits is counted once, as long as the store
can count them. Times that lie behind the last reading of the clock are the exception: a request
with such a deadline crashes before its first step, and one with such a window at the limiter
(`endless_times_crash`).
-/
namespace RestKit

variable {σ : Type} {v : Visit σ} {w : World σ} {vs : List (Visit σ)}
  {hit : RateLimit.Hit} {hits hits' : List RateLimit.Hit}

/-! ## One request -/

/-- How a request is answered. -/
structure Answered (v : Visit σ) (w : World σ) : Prop where
  /-- Each step, the handler's among them, is taken exactly when the endpoint is enabled and all
  steps before it are passed. -/
  taken : ∀ step, step ∈ stepsOf v w ↔
    v.endpoint.disabled = false ∧ ∃ p, Along v step.before (.start v w) p
  /-- A request is opened if the clock has a reading for its deadline. -/
  opened : v.Timely → ∃ p, Along v [.opening] (.start v w) p
  /-- Otherwise it crashes, and nothing comes of it. -/
  unopened : v.endpoint.disabled = false → ¬ v.Timely →
    stepsOf v w = [.opening] ∧ dispatch v w = (some crashed.respond, w)
  /-- The handler's answer is the response. -/
  handled : v.endpoint.disabled = false → ∀ p, Along v Step.order (.start v w) p →
    (dispatch v w).1 = responseOf (handlerOutcome v p)
  /-- A request that does not reach the handler fails at a first step, whose error is the
  response. -/
  refused : v.endpoint.disabled = false → .handler ∉ stepsOf v w →
    ∃ passed step o q, FailsAt v Step.order (.start v w) passed step o q ∧
      (dispatch v w).1 = responseAt v o
  hidden : v.endpoint.disabled = true → (dispatch v w).1 = some routeNotFound.respond
  /-- Only a request that takes the handler's step may depend on the handler. -/
  unhandled : .handler ∉ stepsOf v w →
    ∀ handler, dispatch (v.withHandler handler) w = dispatch v w
  /-- Only a request that is counted may depend on the counters, or change them. -/
  uncounted : (∀ hit, ¬ Counts v w hit) → ∀ counters, dispatch v (w.withCounters counters) =
    ((dispatch v w).1, (dispatch v w).2.withCounters counters)
  /-- A request that is counted is counted once, if the store can count it. -/
  counted : ∀ hit, Counts v w hit → w.counters.CanCount hit →
    w.counters.CountsOnce hit (dispatch v w).2.counters
  /-- If the store cannot, the request ends at the limiter, and no live counter has changed. -/
  lost : ∀ hit, Counts v w hit → ¬ w.counters.CanCount hit → .handler ∉ stepsOf v w ∧
    ∃ answer, w.counters.Loses hit answer (dispatch v w).2.counters ∧ (dispatch v w).1 =
      responseAt v ((answer.mapError RateLimit.StoreError.toApi).map fun _ => ())
  /-- Only a request that comes to its authorization may depend on the authorizer. -/
  unasked : .authorization ∉ stepsOf v w → ∀ a, dispatch (v.withAuthorizer a) w = dispatch v w

theorem answered (v : Visit σ) (w : World σ) : Answered v w where
  taken _ := mem_stepsOf_iff
  opened htimely := by
    obtain ⟨p, hopened⟩ := htimely.passes_opening ((Passage.start v w).enter .opening)
    exact ⟨p, .cons hopened .nil⟩
  unopened := dispatch_of_not_timely
  handled henabled p h := by rw [dispatch_of_run henabled (run_of_along h)]
  refused henabled hnot := by
    rcases along_or_failsAt v w with ⟨p, h⟩ | ⟨passed, step, o, q, h⟩
    · rw [stepsOf_of_along henabled h] at hnot
      exact absurd (by decide) hnot
    · obtain ⟨o', storage, hrun, hresponse⟩ := run_of_failsAt h
      refine ⟨passed, step, o, q, h, ?_⟩
      rw [dispatch_of_run henabled hrun]
      exact hresponse
  hidden hdisabled := by rw [dispatch_of_disabled hdisabled]
  unhandled := dispatch_withHandler
  uncounted := dispatch_withCounters
  counted hit hcounts hcan := by
    rw [counters_of_counts hcounts]
    exact RateLimit.Store.countsOnce_count hcan
  lost hit hcounts hcannot := by
    have hloses := RateLimit.Store.loses_hit hcannot
    obtain ⟨hhandler, hresponse⟩ := dispatch_of_not_counted hcounts hloses.ne_done
    rw [counters_of_counts hcounts]
    exact ⟨hhandler, _, hloses, hresponse⟩
  unasked := dispatch_withAuthorizer

/-! ## Runs of requests -/

/-- Requests, each with the world that it finds. -/
def found (w : World σ) : List (Visit σ) → List (Visit σ × World σ)
  | [] => []
  | v :: vs => (v, w) :: found (dispatch v w).2 vs

/-- The world behind a sequence of requests. -/
def worldAfter (w : World σ) : List (Visit σ) → World σ
  | [] => w
  | v :: vs => worldAfter (dispatch v w).2 vs

/-- The hits of the requests that are counted, in order. -/
inductive Tally : World σ → List (Visit σ) → List RateLimit.Hit → Prop
  | nil {w : World σ} : Tally w [] []
  | counted {w : World σ} {v : Visit σ} {vs : List (Visit σ)} {hit : RateLimit.Hit}
    {hits : List RateLimit.Hit} (head : Counts v w hit) (tail : Tally (dispatch v w).2 vs hits) :
    Tally w (v :: vs) (hit :: hits)
  | uncounted {w : World σ} {v : Visit σ} {vs : List (Visit σ)} {hits : List RateLimit.Hit}
    (head : ∀ hit, ¬ Counts v w hit) (tail : Tally (dispatch v w).2 vs hits) :
    Tally w (v :: vs) hits

namespace Tally

theorem unique (h : Tally w vs hits) (h' : Tally w vs hits') : hits = hits' := by
  induction h generalizing hits' with
  | nil => cases h'; rfl
  | counted head _ ih =>
    cases h' with
    | counted head' tail' => rw [head.unique head', ih tail']
    | uncounted head' => exact absurd head (head' _)
  | uncounted head _ ih =>
    cases h' with
    | counted head' => exact absurd head' (head _)
    | uncounted _ tail' => exact ih tail'

/-- A run hits the store just with the hits of its tally. -/
theorem counters_eq (h : Tally w vs hits) :
    (worldAfter w vs).counters = hits.foldl RateLimit.Store.count w.counters := by
  induction h with
  | nil => rfl
  | counted head _ ih => rw [worldAfter, ih, counters_of_counts head, List.foldl_cons]
  | uncounted head _ ih => rw [worldAfter, ih, counters_of_not_counts head]

/-- The store can count the hits of a run when they come to it just if it can at the start. -/
theorem canCount_iff (h : Tally w vs hits) :
    (∀ x ∈ found w vs, ∀ hit, Counts x.1 x.2 hit → x.2.counters.CanCount hit) ↔
      ∀ hit ∈ hits, w.counters.CanCount hit := by
  induction h with
  | nil => simp [found]
  | @counted w v vs hit hits head _ ih =>
    have hfirst : (∀ hit', Counts v w hit' → w.counters.CanCount hit') ↔
        w.counters.CanCount hit :=
      ⟨fun h => h hit head, fun h hit' hcounts => head.unique hcounts ▸ h⟩
    rw [found, List.forall_mem_cons, ih, List.forall_mem_cons, counters_of_counts head, hfirst]
    refine and_congr_right fun hcan => forall_congr' fun g => imp_congr_right fun _ => ?_
    exact RateLimit.Store.canCount_count hcan
  | uncounted head _ ih =>
    rw [found, List.forall_mem_cons, ih, counters_of_not_counts head]
    exact and_iff_right fun hit hcounts => absurd hcounts (head hit)

end Tally

theorem exists_tally (w : World σ) (vs : List (Visit σ)) : ∃ hits, Tally w vs hits := by
  induction vs generalizing w with
  | nil => exact ⟨[], .nil⟩
  | cons v vs ih =>
    obtain ⟨hits, htail⟩ := ih (dispatch v w).2
    by_cases h : ∃ hit, Counts v w hit
    · obtain ⟨hit, hhit⟩ := h
      exact ⟨hit :: hits, .counted hhit htail⟩
    · exact ⟨hits, .uncounted (not_exists.1 h) htail⟩

/-- Every request of a sequence is answered step by step. The store is hit once by each request that
passes all steps before the limiter, and by no other; it counts all these hits if it can count them
at the start. -/
theorem requests_answered_in_order (w : World σ) (vs : List (Visit σ)) :
    (∀ x ∈ found w vs, Answered x.1 x.2) ∧ ∃ hits, Tally w vs hits ∧
      (worldAfter w vs).counters = hits.foldl RateLimit.Store.count w.counters ∧
      ((∀ x ∈ found w vs, ∀ hit, Counts x.1 x.2 hit → x.2.counters.CanCount hit) ↔
        ∀ hit ∈ hits, w.counters.CanCount hit) := by
  obtain ⟨hits, htally⟩ := exists_tally w vs
  exact ⟨fun x _ => answered x.1 x.2, hits, htally, htally.counters_eq, htally.canCount_iff⟩

/-! ## Three requests -/

/-- A request to an endpoint that admits one in each window. -/
def limitedVisit (timeout : Option Nat) (window : Nat) : Visit Unit where
  app := { process := .development }
  endpoint := {
    info := { name := "pan", method := "GET", path := "/pan", isPublic := true, timeout }
    params := [], body := none, contentTypes := [], upload := none
    limiter := some fun _ => .done (some { max := 1, window })
    handler := fun _ _ s => { outcome := .done (.bare 204), state := s }
    disabled := false }
  request := { method := "GET", uri := ⟨"/pan", none⟩ }
  path := []

/-- A request that the authorizer refuses. -/
def strangerVisit : Visit Unit :=
  let v := limitedVisit none 60
  { v with
    app := { v.app with authorizer := some fun _ => .refused (.unauthorized "Who are you?") }
    endpoint := { v.endpoint with info := { v.endpoint.info with isPublic := false } } }

/-- One request is admitted, one refused by the limiter, and one does not come to it. -/
def threeVisits : List (Visit Unit) := [limitedVisit none 60, limitedVisit none 60, strangerVisit]

/-- The hit of each of the first two. -/
def panHit : RateLimit.Hit := ⟨0, "pan_", 60⟩

/-- Where the limit is fixed, the requests that come to the limiter are counted. -/
theorem counts_iff {limit : RateLimit.Limit} (hlimit : ∀ p, limitAt v p = some limit) :
    Counts v w hit ↔ .rateLimit ∈ stepsOf v w ∧ hit = v.hit limit := by
  rw [mem_stepsOf_iff]
  constructor
  · rintro ⟨henabled, p, limit', hbefore, hlimit', rfl⟩
    cases (hlimit p).symm.trans hlimit'
    exact ⟨⟨henabled, p, hbefore⟩, rfl⟩
  · rintro ⟨⟨henabled, p, hbefore⟩, rfl⟩
    exact ⟨henabled, p, limit, hbefore, hlimit p, rfl⟩

/-- A store elsewhere that counts everything that it receives. -/
def countingStore : RateLimit.RemoteStore := .ofMachine (fun n _ => (.done (n + 1), n + 1)) 0

/-- The world of an application without state that counts in a store. -/
def worldOf (counters : RateLimit.Store) : World Unit := { counters, state := () }

/-- The statuses that requests are answered with, one after the other. -/
def statuses (w : World σ) (vs : List (Visit σ)) : List (Option Nat) :=
  (found w vs).map fun x => (dispatch x.1 x.2).1.map (·.status)

theorem tally_threeVisits {counters : RateLimit.Store}
    (hsteps : (found (worldOf counters) threeVisits).map
      (fun x => decide (Step.rateLimit ∈ stepsOf x.1 x.2)) = [true, true, false]) :
    Tally (worldOf counters) threeVisits [panHit, panHit] := by
  have hpan : ∀ p, limitAt (limitedVisit none 60) p = some { max := 1, window := 60 } :=
    fun _ => rfl
  have hstranger : ∀ p, limitAt strangerVisit p = some { max := 1, window := 60 } := fun _ => rfl
  simp only [threeVisits, found, List.map_cons, List.map_nil, List.cons.injEq, decide_eq_true_eq,
    decide_eq_false_iff_not, and_true] at hsteps
  obtain ⟨hfirst, hsecond, hthird⟩ := hsteps
  refine .counted ((counts_iff hpan).2 ⟨hfirst, rfl⟩) (.counted ((counts_iff hpan).2
    ⟨hsecond, rfl⟩) (.uncounted (fun hit hcounts => ?_) .nil))
  exact hthird ((counts_iff hstranger).1 hcounts).1

/-- In the store of the process, and in one elsewhere, the first two of the three requests are
counted, though the second is refused, and the third is not. -/
theorem requests_answered_in_order_tally :
    (statuses (worldOf (.memory {})) threeVisits = [some 204, some 429, some 401] ∧
      (∀ x ∈ found (worldOf (.memory {})) threeVisits, ∀ hit, Counts x.1 x.2 hit →
        x.2.counters.CanCount hit) ∧
      (worldAfter (worldOf (.memory {})) threeVisits).counters =
        .memory { entries := .ofPairs [("pan_", ⟨2, 60⟩)], lastSweep := some 0 }) ∧
    statuses (worldOf (.remote countingStore)) threeVisits = [some 204, some 429, some 401] ∧
      (worldAfter (worldOf (.remote countingStore)) threeVisits).counters =
        .remote { countingStore with received := [panHit, panHit] } := by
  obtain ⟨-, hits, htally, hcounters, hcan⟩ :=
    requests_answered_in_order (worldOf (.memory {})) threeVisits
  obtain ⟨-, hits', htally', hcounters', -⟩ :=
    requests_answered_in_order (worldOf (.remote countingStore)) threeVisits
  obtain rfl := htally.unique (tally_threeVisits (by decide +kernel))
  obtain rfl := htally'.unique (tally_threeVisits (by decide +kernel))
  have hpan : (RateLimit.Store.memory {}).CanCount panHit := ⟨rfl, by decide⟩
  have hmemory : (((({} : RateLimit.MemoryStore).hit panHit).2).hit panHit).2 =
      { entries := .ofPairs [("pan_", ⟨2, 60⟩)], lastSweep := some 0 } := by decide +kernel
  exact ⟨⟨by decide +kernel, hcan.2 (by simp [hpan, worldOf]),
    hcounters.trans (congrArg RateLimit.Store.memory hmemory)⟩, by decide +kernel, hcounters'⟩

/-! ## Times behind the clock's last reading -/

/-- A request with such a deadline passes all other steps, and one with such a window all steps
before the limiter. Both crash: the first is not handled, and the second is not counted. -/
theorem endless_times_crash :
    (∃ p, Along (limitedVisit (some RateLimit.endless) 60) (Step.order.drop 1)
        (.start (limitedVisit (some RateLimit.endless) 60) (worldOf (.memory {}))) p) ∧
      stepsOf (limitedVisit (some RateLimit.endless) 60) (worldOf (.memory {})) = [.opening] ∧
      dispatch (limitedVisit (some RateLimit.endless) 60) (worldOf (.memory {})) =
        (some crashed.respond, worldOf (.memory {})) ∧
      Counts (limitedVisit none RateLimit.endless) (worldOf (.memory {}))
        ⟨0, "pan_", RateLimit.endless⟩ ∧
      (dispatch (limitedVisit none RateLimit.endless) (worldOf (.memory {}))).1 =
        some crashed.respond ∧
      (dispatch (limitedVisit none RateLimit.endless) (worldOf (.memory {}))).2.counters =
        .memory { lastSweep := some 0, poisoned := true } := by
  have hdone : (runStages (limitedVisit (some RateLimit.endless) 60)
      (.start (limitedVisit (some RateLimit.endless) 60) (worldOf (.memory {})))
      (stages.drop 1)).1 = .done () := by decide +kernel
  have hlimit : ∀ p, limitAt (limitedVisit none RateLimit.endless) p =
      some { max := 1, window := RateLimit.endless } := fun _ => rfl
  have hcounts : Counts (limitedVisit none RateLimit.endless) (worldOf (.memory {}))
      ⟨0, "pan_", RateLimit.endless⟩ := (counts_iff hlimit).2 ⟨by decide +kernel, rfl⟩
  have hmemory : (({} : RateLimit.MemoryStore).hit ⟨0, "pan_", RateLimit.endless⟩).2 =
      { lastSweep := some 0, poisoned := true } := by decide +kernel
  obtain ⟨hsteps, hcrashed⟩ := dispatch_of_not_timely (w := worldOf (.memory {}))
    (show (limitedVisit (some RateLimit.endless) 60).endpoint.disabled = false from rfl) (by decide)
  refine ⟨exists_along_of_runStages (fun x hx => List.mem_of_mem_drop hx) hdone, hsteps, hcrashed,
    hcounts, by decide +kernel, ?_⟩
  rw [counters_of_counts hcounts]
  exact congrArg RateLimit.Store.memory hmemory

end RestKit
