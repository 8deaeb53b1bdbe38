import RestKit.Proofs.Endpoint.Run
import RestKit.Proofs.RateLimit.Counting
/-!
# The counters

A request is counted when it passes all steps before the limiter and the limiter returns a limit
(`Counts`). Its hit is given to the store once then (`counters_of_counts`), and it ends at the
limiter if the store does not count it (`dispatch_of_not_counted`). Any other request neither reads
the counters nor changes them (`dispatch_withCounters`).
-/
namespace RestKit

variable {σ : Type} {v : Visit σ} {w : World σ} {p q : Passage σ} {step : Step}
  {passed : List Step} {o : Outcome ApiError Unit}

/-! ## Requests that are counted -/

/-- The limit that the endpoint's limiter returns. -/
def limitAt (v : Visit σ) (p : Passage σ) : Option RateLimit.Limit :=
  v.endpoint.limiter.bind fun limiter =>
    match limiter p.context with
    | .done limit => limit
    | _ => none

theorem limitAt_eq_some {limit : RateLimit.Limit} : limitAt v p = some limit ↔
    ∃ limiter, v.endpoint.limiter = some limiter ∧ limiter p.context = .done (some limit) := by
  rw [limitAt, Option.bind_eq_some_iff]
  refine exists_congr fun limiter => and_congr_right fun _ => ?_
  cases limiter p.context <;> simp

/-- The hit of a request under a limit: at its time, under the key of the limit or of its endpoint
and client. -/
def Visit.hit (v : Visit σ) (limit : RateLimit.Limit) : RateLimit.Hit where
  now := v.request.time
  key := limit.keyFor v.endpoint.info.name (Http.remoteIp v.request.headers v.request.peer)
  window := limit.window

/-- A request is counted: it passes every step before the limiter, which returns a limit. -/
def Counts (v : Visit σ) (w : World σ) (hit : RateLimit.Hit) : Prop :=
  v.endpoint.disabled = false ∧ ∃ p limit, Along v (Step.before .rateLimit) (.start v w) p ∧
    limitAt v p = some limit ∧ hit = v.hit limit

/-- What keys and times are read from stays as the request has it. -/
structure Passage.Of (v : Visit σ) (p : Passage σ) : Prop where
  now : p.context.now = v.request.time
  endpoint : p.context.endpoint = some v.endpoint.info
  remoteIp : p.context.remoteIp = Http.remoteIp v.request.headers v.request.peer

theorem Passes.of (h : Passes v p step q) (hp : p.Of v) : q.Of v := by
  cases h <;> exact ⟨hp.now, hp.endpoint, hp.remoteIp⟩

theorem Passage.Of.enter (hp : p.Of v) : (p.enter step).Of v := ⟨hp.now, hp.endpoint, hp.remoteIp⟩

theorem Along.of {steps : List Step} (h : Along v steps p q) (hp : p.Of v) : q.Of v := by
  induction h with
  | nil => exact hp
  | cons head _ ih => exact ih (head.of hp.enter)

theorem Passage.Of.hit_eq {limit : RateLimit.Limit} (hp : p.Of v) :
    p.hit limit = p.world.counters.hit (v.hit limit) := by
  unfold Passage.hit Visit.hit Context.endpointName
  rw [hp.now, hp.endpoint, hp.remoteIp]
  rfl

/-- The counters behind the limiter's step. -/
def countersAt (v : Visit σ) (p : Passage σ) : RateLimit.Store :=
  match limitAt v p with
  | some limit => (p.hit limit).2
  | none => p.world.counters

theorem Passes.counters_rateLimit (h : Passes v p .rateLimit q) :
    q.world.counters = countersAt v p := by
  cases h with
  | unlimited hnone => simp [countersAt, limitAt, hnone]
  | noLimit hlimiter hlimit => simp [countersAt, limitAt, hlimiter, hlimit]
  | counted hlimiter hlimit hhit _ =>
    simp [countersAt, limitAt, hlimiter, hlimit, hhit, Passage.withCounters]

theorem Fails.counters_rateLimit (h : Fails v p .rateLimit o q) :
    q.world.counters = countersAt v p := by
  cases h with
  | @limiter limiter hlimiter hlimit =>
    cases hanswer : limiter p.context with
    | done limit => exact absurd hanswer (hlimit limit)
    | _ => simp [countersAt, limitAt, hlimiter, hanswer]
  | store hlimiter hlimit hhit _ =>
    simp [countersAt, limitAt, hlimiter, hlimit, hhit, Passage.withCounters]
  | tooMany hlimiter hlimit hhit _ =>
    simp [countersAt, limitAt, hlimiter, hlimit, hhit, Passage.withCounters]

theorem order_rateLimit : Step.order = Step.before .rateLimit ++ [.rateLimit] := by decide

/-- The limiter is asked last: a request fails at its step, or has not come to it. -/
theorem failsAt_rateLimit_or {after : List Step} (h : Step.order = passed ++ step :: after) :
    (passed = Step.before .rateLimit ∧ step = .rateLimit) ∨
      (.rateLimit ∉ passed ∧ step ≠ .rateLimit) := by
  rw [order_rateLimit] at h
  rcases List.eq_nil_or_concat after with rfl | ⟨init, last, rfl⟩
  · obtain ⟨rfl, hstep⟩ := List.append_inj' h rfl
    exact .inl ⟨rfl, (List.cons.inj hstep).1.symm⟩
  · rw [List.concat_eq_append, ← List.cons_append, ← List.append_assoc] at h
    have hbefore := (List.append_inj' h rfl).1
    have hnot : Step.rateLimit ∉ passed ++ step :: init := hbefore ▸ by decide
    simp only [List.mem_append, List.mem_cons, not_or] at hnot
    exact .inr ⟨hnot.1, Ne.symm hnot.2.1⟩

/-- A request that gets to the limiter leaves the counters of the limiter's step. -/
theorem counters_dispatch (henabled : v.endpoint.disabled = false)
    (hbefore : Along v (Step.before .rateLimit) (.start v w) p) :
    (dispatch v w).2.counters = countersAt v (p.enter .rateLimit) := by
  rcases along_or_failsAt v w with ⟨q, h⟩ | ⟨passed, step, o, q, h⟩
  · obtain ⟨storage, hsettle⟩ := settle_eq v.endpoint (handlerOutcome v q) (callHandler v q).2
    have hcounters : (dispatch v w).2.counters = q.world.counters := by
      rw [dispatch_of_run henabled (run_of_along h), hsettle]
      rfl
    obtain ⟨r, hbefore', hlimiter⟩ := Along.append_iff.1 (order_rateLimit ▸ h)
    obtain rfl := hbefore.unique hbefore'
    cases hlimiter with
    | cons head tail =>
      cases tail
      exact hcounters.trans head.counters_rateLimit
  · obtain ⟨o', storage, hrun, -⟩ := run_of_failsAt h
    have hdispatch : (dispatch v w).2.counters = q.world.counters := by
      rw [dispatch_of_run henabled hrun]
      rfl
    have hmem : .rateLimit ∈ stepsOf v w := mem_stepsOf_iff.2 ⟨henabled, p, hbefore⟩
    rw [stepsOf_of_failsAt henabled h, List.mem_append, List.mem_singleton] at hmem
    obtain ⟨after, r, horder, halong, hfails⟩ := h
    rcases failsAt_rateLimit_or horder with ⟨rfl, rfl⟩ | ⟨hpassed, hstep⟩
    · obtain rfl := hbefore.unique halong
      exact hdispatch.trans hfails.counters_rateLimit
    · exact (hmem.elim hpassed fun heq => hstep heq.symm).elim

theorem start_of (v : Visit σ) (w : World σ) : (Passage.start v w).Of v := ⟨rfl, rfl, rfl⟩

/-- The hit at the limiter is that of the request, on the counters that it has found. -/
theorem hit_enter {limit : RateLimit.Limit}
    (h : Along v (Step.before .rateLimit) (.start v w) p) :
    (p.enter .rateLimit).hit limit = w.counters.hit (v.hit limit) := by
  have hcounters : p.world.counters = w.counters := h.counters_eq (by decide)
  have hof : (p.enter .rateLimit).Of v := (h.of (start_of v w)).enter
  rw [hof.hit_eq, ← hcounters]
  rfl

/-- What the limiter's step leaves when all steps before it are passed. -/
theorem countersAt_enter (h : Along v (Step.before .rateLimit) (.start v w) p) :
    countersAt v (p.enter .rateLimit) =
      match limitAt v p with
      | some limit => w.counters.count (v.hit limit)
      | none => w.counters := by
  have hlimit : limitAt v (p.enter .rateLimit) = limitAt v p := rfl
  rw [countersAt, hlimit]
  split
  · rw [hit_enter h]
    rfl
  · exact h.counters_eq (by decide)

/-- The hit of a request that is counted is given to the store once. -/
theorem counters_of_counts {hit : RateLimit.Hit} (h : Counts v w hit) :
    (dispatch v w).2.counters = w.counters.count hit := by
  obtain ⟨henabled, p, limit, hbefore, hlimit, rfl⟩ := h
  rw [counters_dispatch henabled hbefore, countersAt_enter hbefore, hlimit]

theorem Counts.unique {hit hit' : RateLimit.Hit} (h : Counts v w hit) (h' : Counts v w hit') :
    hit = hit' := by
  obtain ⟨-, p, limit, hbefore, hlimit, rfl⟩ := h
  obtain ⟨-, p', limit', hbefore', hlimit', rfl⟩ := h'
  obtain rfl := hbefore.unique hbefore'
  obtain rfl := Option.some.inj (hlimit.symm.trans hlimit')
  rfl

/-- A request whose hit the store does not count ends at the limiter, with the store's answer. -/
theorem dispatch_of_not_counted {hit : RateLimit.Hit} (h : Counts v w hit)
    (hanswer : ∀ n, (w.counters.hit hit).1 ≠ .done n) :
    .handler ∉ stepsOf v w ∧ (dispatch v w).1 = responseAt v
      (((w.counters.hit hit).1.mapError RateLimit.StoreError.toApi).map fun _ => ()) := by
  obtain ⟨henabled, p, limit, hbefore, hlimit, rfl⟩ := h
  obtain ⟨limiter, hlimiter, hreturns⟩ := limitAt_eq_some.1 hlimit
  have hfails := Fails.store (p := p.enter .rateLimit) hlimiter hreturns (hit_enter hbefore) hanswer
  have hfailsAt : FailsAt v Step.order (.start v w) (Step.before .rateLimit) .rateLimit _ _ :=
    ⟨[], p, order_rateLimit, hbefore, hfails⟩
  obtain ⟨o', storage, hrun, hresponse⟩ := run_of_failsAt hfailsAt
  rw [stepsOf_of_failsAt henabled hfailsAt, dispatch_of_run henabled hrun]
  exact ⟨by decide, hresponse⟩

/-! ## Requests that are not counted -/

def World.withCounters (w : World σ) (counters : RateLimit.Store) : World σ := { w with counters }

section

variable {counters : RateLimit.Store}

/-- A step that counts nothing takes the request on in the same way over other counters. -/
theorem Passes.withCounters (h : Passes v p step q)
    (hstep : step = .rateLimit → limitAt v p = none) :
    Passes v (p.withCounters counters) step (q.withCounters counters) := by
  cases h with
  | untimed hnone => exact .untimed hnone
  | timed htimeout hreading => exact .timed htimeout hreading
  | gate hgate => exact .gate hgate
  | unread hkind => exact .unread hkind
  | json hkind hsize => exact .json hkind hsize
  | form hkind hsize => exact .form hkind hsize
  | multipart hkind hboundary hreceived => exact .multipart hkind hboundary hreceived
  | unbound hnone => exact .unbound hnone
  | bound htype hsource hbind hnormalize hsanitize hvalidate =>
    exact .bound htype hsource hbind hnormalize hsanitize hvalidate
  | params hparams => exact .params hparams
  | unfiltered hnone => exact .unfiltered hnone
  | filterText hvalue hread hbuild => exact .filterText hvalue hread hbuild
  | filterRead hvalue hread => exact .filterRead hvalue hread
  | unasked hopen => exact .unasked hopen
  | authorized hpublic hasked haccepts => exact .authorized hpublic hasked haccepts
  | roles hrole => exact .roles hrole
  | unlimited hnone => exact .unlimited hnone
  | noLimit hlimiter hlimit => exact .noLimit hlimiter hlimit
  | counted hlimiter hlimit _ _ =>
    have hnone := hstep rfl
    simp [limitAt, hlimiter, hlimit] at hnone

theorem Fails.withCounters (h : Fails v p step o q)
    (hstep : step = .rateLimit → limitAt v p = none) :
    Fails v (p.withCounters counters) step o (q.withCounters counters) := by
  cases h with
  | untimely htimeout hreading => exact .untimely htimeout hreading
  | gate hgate => exact .gate hgate
  | tooLarge hkind hsize => exact .tooLarge hkind hsize
  | noBoundary hkind hboundary => exact .noBoundary hkind hboundary
  | notReceived hkind hboundary hreceived => exact .notReceived hkind hboundary hreceived
  | malformed htype hsource hbind => exact .malformed htype hsource hbind
  | normalize htype hsource hbind hnormalize =>
    exact .normalize htype hsource hbind hnormalize
  | sanitize htype hsource hbind hnormalize hsanitize =>
    exact .sanitize htype hsource hbind hnormalize hsanitize
  | validate htype hsource hbind hnormalize hsanitize hvalidate =>
    exact .validate htype hsource hbind hnormalize hsanitize hvalidate
  | params hparam hread => exact .params hparam hread
  | filterText hvalue hread => exact .filterText hvalue hread
  | filterBuild hvalue hread hbuild => exact .filterBuild hvalue hread hbuild
  | unauthorized hpublic hasked haccepts => exact .unauthorized hpublic hasked haccepts
  | roles hpublic hprincipal hroles hrole => exact .roles hpublic hprincipal hroles hrole
  | limiter hlimiter hlimit => exact .limiter hlimiter hlimit
  | store hlimiter hlimit _ _ =>
    have hnone := hstep rfl
    simp [limitAt, hlimiter, hlimit] at hnone
  | tooMany hlimiter hlimit _ _ =>
    have hnone := hstep rfl
    simp [limitAt, hlimiter, hlimit] at hnone

theorem Along.withCounters {steps : List Step} (h : Along v steps p q)
    (hsteps : .rateLimit ∉ steps) :
    Along v steps (p.withCounters counters) (q.withCounters counters) := by
  induction h with
  | nil => exact .nil
  | cons head _ ih =>
    rw [List.mem_cons, not_or] at hsteps
    exact .cons (head.withCounters fun heq => absurd heq.symm hsteps.1) (ih hsteps.2)

/-- The limiter returns no limit, if the request gets to it at all. -/
def Uncounted (v : Visit σ) (w : World σ) : Prop :=
  ∀ p, Along v (Step.before .rateLimit) (.start v w) p → limitAt v p = none

theorem Uncounted.along (h : Uncounted v w) (halong : Along v Step.order (.start v w) q) :
    Along v Step.order (.start v (w.withCounters counters)) (q.withCounters counters) := by
  obtain ⟨r, hbefore, hlimiter⟩ := Along.append_iff.1 (order_rateLimit ▸ halong)
  rw [order_rateLimit]
  cases hlimiter with
  | cons head tail =>
    cases tail
    exact Along.append_iff.2 ⟨r.withCounters counters, hbefore.withCounters (by decide),
      .cons (head.withCounters fun _ => h r hbefore) .nil⟩

theorem Uncounted.failsAt (h : Uncounted v w) (counters : RateLimit.Store)
    (hfailsAt : FailsAt v Step.order (.start v w) passed step o q) :
    FailsAt v Step.order (.start v (w.withCounters counters)) passed step o
      (q.withCounters counters) := by
  obtain ⟨after, r, horder, halong, hfails⟩ := hfailsAt
  refine ⟨after, r.withCounters counters, horder, ?_⟩
  rcases failsAt_rateLimit_or horder with ⟨rfl, rfl⟩ | ⟨hpassed, hstep⟩
  · exact ⟨halong.withCounters (by decide), hfails.withCounters fun _ => h r halong⟩
  · exact ⟨halong.withCounters hpassed, hfails.withCounters fun heq => absurd heq hstep⟩

theorem settle_withCounters (e : Endpoint σ) (o : Outcome ApiError Response) (p : Passage σ) :
    settle e o (p.withCounters counters) = (settle e o p).withCounters counters := by
  have hdone : (if e.keepsFiles then p.withCounters counters
      else (p.withCounters counters).dropFiles) =
        (if e.keepsFiles then p else p.dropFiles).withCounters counters := by
    split <;> rfl
  cases o with
  | done r => exact hdone
  | refused e => exact hdone
  | crashed => rfl
  | pending => rfl

theorem Uncounted.run_withCounters (h : Uncounted v w) :
    run v (.start v (w.withCounters counters)) =
      ((run v (.start v w)).1, (run v (.start v w)).2.withCounters counters) := by
  rcases along_or_failsAt v w with ⟨q, halong⟩ | ⟨passed, step, o, q, hfailsAt⟩
  · rw [run_of_along halong, run_of_along (h.along halong)]
    exact Prod.ext rfl (settle_withCounters v.endpoint (handlerOutcome v q) (callHandler v q).2)
  · obtain ⟨hrun, hne⟩ := runStages_of_failsAt_order hfailsAt
    have hfailsAt' := h.failsAt counters hfailsAt
    have hrun' := (runStages_of_failsAt_order hfailsAt').1
    exact run_of_same_end (f := (·.withCounters counters)) (fun _ => rfl) hne hrun hrun'

/-- A request that is not counted neither reads the counters nor changes them. -/
theorem dispatch_withCounters (h : ∀ hit, ¬ Counts v w hit) (counters : RateLimit.Store) :
    dispatch v (w.withCounters counters) =
      ((dispatch v w).1, (dispatch v w).2.withCounters counters) := by
  cases hdisabled : v.endpoint.disabled with
  | true => rw [dispatch_of_disabled hdisabled, dispatch_of_disabled hdisabled]
  | false =>
    have huncounted : Uncounted v w := by
      intro p hbefore
      by_contra hne
      obtain ⟨limit, hlimit⟩ := Option.ne_none_iff_exists'.1 hne
      exact h _ ⟨hdisabled, p, limit, hbefore, hlimit, rfl⟩
    rw [dispatch_of_run hdisabled huncounted.run_withCounters, dispatch_of_run hdisabled rfl]
    rfl

end

/-- A request that is not counted leaves the counters. -/
theorem counters_of_not_counts (h : ∀ hit, ¬ Counts v w hit) :
    (dispatch v w).2.counters = w.counters :=
  congrArg (fun x => x.2.counters) (dispatch_withCounters h w.counters)

end RestKit
