import Mathlib.Logic.Relation
import RestKit.Proofs.RateLimit.Admission
/-!
# Interleaved checks

Checks that are made side by side read the clock, one after the other, and later update the store,
in any order (`System.Step`). So the store may see the readings in any order (`reachable_iff`), and
a limit holds of less than a window: from the update that opens it to the first update with a
reading at its end or behind it, at most `max` checks are admitted. The limit holds of the whole
window if the checks with a reading in it are the ones that are made in this time
(`window_kept_in_order`), and not otherwise (`late_check_admitted`).
-/
namespace RestKit.RateLimit

/-- An update of the store by a check: whether it opened a window, and what it came to. -/
structure Update where
  check : Check
  opened : Bool
  outcome : Outcome ApiError Unit

/-- The update admits a check of a key that has a reading in a stretch of time. -/
def Update.AdmitsIn (key : String) (start stop : Nat) (u : Update) : Prop :=
  u.check.key = key ∧ start ≤ u.check.now ∧ u.check.now < stop ∧ u.outcome = .done ()

instance (key : String) (start stop : Nat) : DecidablePred (Update.AdmitsIn key start stop) :=
  fun u => inferInstanceAs (Decidable
    (u.check.key = key ∧ start ≤ u.check.now ∧ u.check.now < stop ∧ u.outcome = .done ()))

/-- The end of the window that an update opens. -/
def Update.windowEnd (o : Update) : Nat := o.check.now + o.check.limit.window

/-- The update `u` admits a check of the same key with a reading in the window that `o` opens. -/
abbrev Update.AdmitsInWindow (o u : Update) : Prop :=
  u.AdmitsIn o.check.key o.check.now o.windowEnd

namespace MemoryStore

variable {s : MemoryStore} {c : Check} {checks rest : List Check} {key : String}

/-- A check is counted and finds no live counter of its key. -/
def Opens (s : MemoryStore) (c : Check) : Prop :=
  s.poisoned = false ∧ c.hit.Fits ∧ s.live c.now c.key = none

instance (s : MemoryStore) (c : Check) : Decidable (s.Opens c) :=
  inferInstanceAs (Decidable (_ ∧ _ ∧ _))

/-- The update that a check does to a store. -/
def update (s : MemoryStore) (c : Check) : Update where
  check := c
  opened := decide (s.Opens c)
  outcome := (enforce (some c.limit) c.endpoint c.remoteIp c.now (.memory s)).1

/-- The updates of a row of checks. -/
def updates (s : MemoryStore) : List Check → List Update
  | [] => []
  | c :: cs => s.update c :: (s.after c).updates cs

theorem updates_append :
    s.updates (checks ++ rest) = s.updates checks ++ (checks.foldl after s).updates rest := by
  induction checks generalizing s with
  | nil => rfl
  | cons c checks ih => exact congrArg _ ih

theorem outcome_update (s : MemoryStore) (c : Check) :
    (s.update c).outcome = c.limit.outcome (s.hit c.hit).1 := rfl

theorem outcome_update_of_counted (hs : s.poisoned = false) (hfits : c.hit.Fits) :
    (s.update c).outcome = verdict c.limit.max (s.tally c.hit).count := by
  rw [outcome_update, hit_of_fits hs hfits, Limit.outcome_done]

/-- Only checks that are counted are admitted. -/
theorem counted_of_outcome (h : (s.update c).outcome = .done ()) :
    s.poisoned = false ∧ c.hit.Fits :=
  hit_eq_done.1 (Limit.exists_count_of_outcome (.inl h))

/-- A poisoned store admits no check of a row. -/
theorem not_admitted_of_poisoned (hs : s.poisoned = true) :
    ∀ u ∈ s.updates checks, u.outcome ≠ .done () := by
  induction checks with
  | nil => exact fun u hu => absurd hu List.not_mem_nil
  | cons c checks ih =>
    have hafter : s.after c = s := by rw [after, hit_of_poisoned hs]
    intro u hu hdone
    rcases List.mem_cons.1 hu with rfl | hu
    · exact Bool.false_ne_true ((counted_of_outcome hdone).1.symm.trans hs)
    · exact ih u (hafter ▸ hu) hdone

theorem live_of_get? {t : Nat} {d : Counter} (hget : s.entries.get? key = some d)
    (hlive : t < d.expiresAt) : s.live t key = some d := by
  simp [live, hget, Option.filter_some, Counter.isLive, hlive]

/-- The counter of a key that is live at the reading of a check, after the check. -/
theorem get?_after {n e : Nat} (hs : s.poisoned = false) (hfits : c.hit.Fits)
    (hget : s.entries.get? key = some ⟨n, e⟩) (hlive : c.now < e) :
    (s.after c).entries.get? key = some ⟨if c.key = key then n + 1 else n, e⟩ := by
  have hlive' : s.live c.now key = some ⟨n, e⟩ := live_of_get? hget hlive
  rw [after, get?_hit hs hfits, Check.key_hit, Check.now_hit]
  by_cases hkey : c.key = key
  · rw [if_pos hkey, if_pos hkey]
    subst hkey
    exact congrArg (fun d => some (Counter.next d c.hit)) hlive'
  · rw [if_neg hkey, if_neg hkey, get?_sweep]
    split
    · exact hlive'
    · exact hget

end MemoryStore

/-! ## Interleavings -/

/-- A store with the checks that wait for it; `log` holds the updates that were made. -/
structure System where
  clock : Nat := 0
  waiting : List Check := []
  store : MemoryStore
  log : List Update := []

namespace System

/-- The system after a check has read the clock. -/
def read (σ : System) (c : Check) : System :=
  { σ with clock := c.now, waiting := c :: σ.waiting }

/-- The system after a check has updated the store. -/
def update (σ : System) (c : Check) : System where
  clock := σ.clock
  waiting := σ.waiting.erase c
  store := σ.store.after c
  log := σ.log ++ [σ.store.update c]

/-- A check reads the clock, which does not go back, or one that waits updates the store. -/
inductive Step : System → System → Prop
  | read {σ : System} (c : Check) (h : σ.clock ≤ c.now) : Step σ (σ.read c)
  | update {σ : System} (c : Check) (h : c ∈ σ.waiting) : Step σ (σ.update c)

/-- Any number of steps. -/
abbrev Run : System → System → Prop := Relation.ReflTransGen Step

variable {σ : System} {s : MemoryStore} {checks : List Check}

/-- The store and the log are those of the checks that have made their update, in this order. -/
theorem log_of_run (h : Run { store := s } σ) :
    ∃ checks : List Check,
      σ.log = s.updates checks ∧ σ.store = checks.foldl MemoryStore.after s := by
  induction h with
  | refl => exact ⟨[], rfl, rfl⟩
  | tail _ hstep ih =>
    obtain ⟨checks, hlog, hstore⟩ := ih
    cases hstep with
    | read c h => exact ⟨checks, hlog, hstore⟩
    | update c h =>
      refine ⟨checks ++ [c], ?_, ?_⟩
      · rw [MemoryStore.updates_append, ← hlog, ← hstore]
        rfl
      · rw [List.foldl_append, ← hstore]
        rfl

/-- Checks can be put in the order of their readings. -/
theorem exists_sorted (checks : List Check) :
    ∃ sorted : List Check, sorted.Perm checks ∧ sorted.Pairwise fun c d => c.now ≤ d.now := by
  let le (c d : Check) : Bool := decide (c.now ≤ d.now)
  have hpairwise : (checks.mergeSort le).Pairwise fun c d => le c d = true :=
    List.pairwise_mergeSort (fun a b c hab hbc => by simp only [le, decide_eq_true_eq] at *; omega)
      (fun a b => by simp only [le, Bool.or_eq_true, decide_eq_true_eq]; omega) checks
  exact ⟨checks.mergeSort le, List.mergeSort_perm .., hpairwise.imp of_decide_eq_true⟩

/-- Checks can read the clock one after the other, if their readings do not go back. -/
theorem run_reads (hclock : ∀ c ∈ checks, σ.clock ≤ c.now)
    (hsorted : checks.Pairwise fun c d => c.now ≤ d.now) :
    ∃ now, Run σ { σ with clock := now, waiting := checks.reverse ++ σ.waiting } := by
  induction checks generalizing σ with
  | nil => exact ⟨σ.clock, .refl⟩
  | cons c checks ih =>
    obtain ⟨hc, hrest⟩ := List.pairwise_cons.1 hsorted
    obtain ⟨now, hrun⟩ := ih (σ := σ.read c) hc hrest
    refine ⟨now, .head (.read c (hclock c (List.mem_cons_self ..))) ?_⟩
    simpa [read] using hrun

/-- Checks that wait can make their updates in any order. -/
theorem run_updates (h : checks.Perm σ.waiting) :
    ∃ σ', Run σ σ' ∧ σ'.log = σ.log ++ σ.store.updates checks := by
  induction checks generalizing σ with
  | nil => exact ⟨σ, .refl, (List.append_nil _).symm⟩
  | cons c checks ih =>
    obtain ⟨hmem, hrest⟩ := List.cons_perm_iff_perm_erase.1 h
    obtain ⟨σ', hrun, hlog⟩ := ih (σ := σ.update c) hrest
    refine ⟨σ', .head (.update c hmem) hrun, ?_⟩
    rw [hlog, update, List.append_assoc]
    rfl

/-- Whatever the readings are, the checks of a row can make their updates in its order. -/
theorem exists_run (s : MemoryStore) (checks : List Check) :
    ∃ σ, Run { store := s } σ ∧ σ.log = s.updates checks := by
  obtain ⟨sorted, hperm, hsorted⟩ := exists_sorted checks
  obtain ⟨now, hreads⟩ := run_reads (σ := { store := s }) (fun c _ => Nat.zero_le c.now) hsorted
  have hwaiting : checks.Perm (sorted.reverse ++ []) := by
    rw [List.append_nil]
    exact ((List.reverse_perm sorted).trans hperm).symm
  obtain ⟨σ, hupdates, hlog⟩ := run_updates
    (σ := { store := s, clock := now, waiting := sorted.reverse ++ [] }) hwaiting
  exact ⟨σ, hreads.trans hupdates, hlog⟩

/-- **Any order.** The logs of the runs are the updates of the rows of checks: the order of the
readings does not bind the order of the updates. -/
theorem reachable_iff {log : List Update} :
    (∃ σ, Run { store := s } σ ∧ σ.log = log) ↔ ∃ checks, log = s.updates checks := by
  constructor
  · rintro ⟨σ, hrun, rfl⟩
    obtain ⟨checks, hlog, -⟩ := log_of_run hrun
    exact ⟨checks, hlog⟩
  · rintro ⟨checks, rfl⟩
    exact exists_run s checks

end System

/-! ## Windows -/

variable {s : MemoryStore} {checks : List Check} {key : String} {m : Nat}

/-- A check of a key that is admitted has counted up the key's live counter. -/
theorem counted_of_admits {c : Check} {n start stop : Nat}
    (hget : s.entries.get? key = some ⟨n, stop⟩) (hmax : c.key = key → c.limit.max = m)
    (h : (s.update c).AdmitsIn key start stop) : c.key = key ∧ n + 1 ≤ m := by
  obtain ⟨hkey, -, hnow, houtcome⟩ := h
  change c.key = key at hkey
  subst hkey
  obtain ⟨hs, hfits⟩ := MemoryStore.counted_of_outcome houtcome
  have hlive : s.live c.hit.now c.hit.key = some ⟨n, stop⟩ := MemoryStore.live_of_get? hget hnow
  rw [MemoryStore.outcome_update_of_counted hs hfits, MemoryStore.tally, hlive, hmax rfl]
    at houtcome
  exact ⟨rfl, le_of_verdict houtcome⟩

/-- A window that is open admits no more checks than its limit leaves, if no check of it comes
behind a reading at its end. -/
theorem countP_admitsIn_le {n start stop : Nat} (hget : s.entries.get? key = some ⟨n, stop⟩)
    (hmax : ∀ c ∈ checks, c.key = key → c.limit.max = m)
    (hlate : (s.updates checks).Pairwise fun t u =>
      u.AdmitsIn key start stop → t.check.now < stop) :
    (s.updates checks).countP (Update.AdmitsIn key start stop) ≤ m - n := by
  induction checks generalizing s n with
  | nil => exact Nat.zero_le _
  | cons c checks ih =>
    rw [MemoryStore.updates, List.pairwise_cons] at hlate
    obtain ⟨hmaxc, hmaxs⟩ := List.forall_mem_cons.1 hmax
    rw [MemoryStore.updates, List.countP_cons]
    by_cases hcounted : (s.poisoned = false ∧ c.hit.Fits) ∧ c.now < stop
    · obtain ⟨⟨hs, hfits⟩, hnow⟩ := hcounted
      have hrest := ih (MemoryStore.get?_after hs hfits hget hnow) hmaxs hlate.2
      by_cases hadmits : (s.update c).AdmitsIn key start stop
      · obtain ⟨hkey, hcount⟩ := counted_of_admits hget hmaxc hadmits
        rw [if_pos hkey] at hrest
        rw [if_pos (by simpa using hadmits)]
        omega
      · rw [if_neg (by simpa using hadmits)]
        split at hrest <;> omega
    · -- the end of the window was read, or the store is poisoned: no check is admitted any more
      have hc : ¬ (s.update c).AdmitsIn key start stop := fun h =>
        hcounted ⟨MemoryStore.counted_of_outcome h.2.2.2, h.2.2.1⟩
      have hrest : ∀ u ∈ (s.after c).updates checks, ¬ u.AdmitsIn key start stop := by
        intro u hu h
        have hnow : c.now < stop := hlate.1 u hu h
        have hpoisoned : (s.after c).poisoned = true := by
          have hnot := mt MemoryStore.poisoned_hit.1 fun hdone => hcounted ⟨hdone, hnow⟩
          rwa [Bool.not_eq_false] at hnot
        exact MemoryStore.not_admitted_of_poisoned hpoisoned u hu h.2.2.2
      rw [if_neg (by simpa using hc), List.countP_eq_zero.2 (by simpa using hrest)]
      exact Nat.zero_le _

/-- An update in a log finds a store, and the updates behind it go on from what it makes of it. -/
theorem updates_eq_append {before after : List Update} {u : Update}
    (h : s.updates checks = before ++ u :: after) :
    ∃ s' : MemoryStore, u = s'.update u.check ∧
      after = (s'.after u.check).updates (after.map (·.check)) := by
  have hchecks (s : MemoryStore) (checks : List Check) :
      (s.updates checks).map (·.check) = checks := by
    induction checks generalizing s with
    | nil => rfl
    | cons c checks ih => exact congrArg _ (ih _)
  induction before generalizing s checks with
  | nil =>
    cases checks with
    | nil => cases h
    | cons c rest =>
      obtain ⟨rfl, rfl⟩ := List.cons.inj h
      exact ⟨s, rfl, by rw [hchecks]; rfl⟩
  | cons b before ih =>
    cases checks with
    | nil => cases h
    | cons c rest => exact ih (List.cons.inj h).2

/-- **A window kept in order.** In a run of checks that read the clock and update the store in any
order, an update opens a window of its key. If the checks that are admitted with a reading in the
window make their updates after it and before any update with a reading at the window's end or
behind it, then there are no more of them than the limit says. -/
theorem window_kept_in_order {interval : Nat} {σ : System} {before after : List Update} {o : Update}
    (hrun : System.Run { store := .empty interval } σ) (hlog : σ.log = before ++ o :: after)
    (hlimit : ∀ u ∈ σ.log, u.check.key = o.check.key → u.check.limit.max = o.check.limit.max)
    (hopened : o.opened = true)
    (hbefore : ∀ u ∈ before, ¬ o.AdmitsInWindow u)
    (hafter : after.Pairwise fun t u => o.AdmitsInWindow u → t.check.now < o.windowEnd) :
    σ.log.countP o.AdmitsInWindow ≤ o.check.limit.max := by
  obtain ⟨checks, hupdates, -⟩ := System.log_of_run hrun
  obtain ⟨s, ho, hrest⟩ := updates_eq_append (hupdates.symm.trans hlog)
  have hopens : s.Opens o.check := by
    rw [ho] at hopened
    exact of_decide_eq_true hopened
  obtain ⟨hs, hfits, hlive⟩ := hopens
  have htally : s.tally o.check.hit = ⟨1, o.windowEnd⟩ := by
    have hnone : s.live o.check.hit.now o.check.hit.key = none := hlive
    rw [MemoryStore.tally, hnone]
    rfl
  have hget : (s.after o.check).entries.get? o.check.key = some ⟨1, o.windowEnd⟩ := by
    rw [MemoryStore.after, MemoryStore.get?_hit hs hfits, ← htally]
    exact if_pos rfl
  have hmax : ∀ d ∈ after.map (·.check), d.key = o.check.key →
      d.limit.max = o.check.limit.max := by
    intro d hd hkey
    obtain ⟨u, hu, rfl⟩ := List.mem_map.1 hd
    refine hlimit u ?_ hkey
    rw [hlog]
    exact List.mem_append_right _ (List.mem_cons_of_mem _ hu)
  have hcount : after.countP o.AdmitsInWindow ≤ o.check.limit.max - 1 := by
    rw [hrest] at hafter ⊢
    exact countP_admitsIn_le hget hmax hafter
  have hfirst : o.outcome = .done () → 1 ≤ o.check.limit.max := by
    intro hdone
    rw [ho, MemoryStore.outcome_update_of_counted hs hfits, htally] at hdone
    exact le_of_verdict hdone
  rw [hlog, List.countP_append, List.countP_eq_zero.2 (by simpa using hbefore), List.countP_cons,
    Nat.zero_add]
  split
  · rename_i h
    have hone := hfirst (of_decide_eq_true h).2.2.2
    omega
  · omega

/-- Checks of one key with a limit of two in a window of ten, by their readings. -/
def twoInTen (readings : List Nat) : List Check :=
  readings.map fun now => ⟨now, ⟨2, 10, some "k"⟩, "", ""⟩

/-- Three checks of a window, two of them out of order, and one of the next window. -/
theorem window_kept_in_order_crossed :
    ∃ (σ : System) (o : Update) (after : List Update),
      System.Run { store := .empty 5 } σ ∧ σ.log = o :: after ∧ o.opened = true ∧
        σ.log.map (·.check) = twoInTen [0, 3, 1, 12] ∧
        σ.log.countP (Update.AdmitsIn "k" 0 10) ≤ 2 := by
  obtain ⟨σ, hrun, hlog⟩ := System.exists_run (.empty 5) (twoInTen [0, 3, 1, 12])
  have hlimit : ∀ u ∈ σ.log, u.check.key = "k" → u.check.limit.max = 2 := by
    rw [hlog]
    decide
  refine ⟨σ, _, _, hrun, hlog, by decide, by rw [hlog]; rfl, ?_⟩
  have hfirst := hlog.trans (List.nil_append _).symm
  exact window_kept_in_order hrun hfirst hlimit (by decide) nofun (by decide)

/-- **A late check.** Two checks are admitted at 0 and 1; another one reads 5, but makes its update
after one that has read 10 and opened the next window. It is counted there and admitted as well. -/
theorem late_check_admitted :
    ∃ (σ : System) (o : Update) (after : List Update),
      System.Run { store := .empty 60000000000 } σ ∧ σ.log = o :: after ∧ o.opened = true ∧
        σ.log.map (·.check) = twoInTen [0, 1, 10, 5] ∧
        2 < σ.log.countP (Update.AdmitsIn "k" 0 10) := by
  obtain ⟨σ, hrun, hlog⟩ := System.exists_run (.empty 60000000000) (twoInTen [0, 1, 10, 5])
  exact ⟨σ, _, _, hrun, hlog, by decide, by rw [hlog]; rfl, by rw [hlog]; decide⟩

end RestKit.RateLimit
