import Mathlib.Data.List.Induction
import Mathlib.Data.List.Perm.Subperm
import RestKit.Proofs.RateLimit.Window
/-!
# Sweeps

A store drops expired counters at most once in a sweep interval, and a hit may open a window that
has passed already. All the same a hit leaves a store that was not poisoned before it `Swept`: the
last sweep was less than an interval ago, and no counter expired before it. The step lemma is
`exists_swept_hit`, the run lemma `exists_swept`. As each counter is opened by a hit of its key, the
store is no larger than the number of hits whose windows are recent, however many keys there are
(`size_le_countP`). Behind a hit that does not fit there are no more sweeps, and the store is in
time only until an interval has passed since the last one (`counters_swept_in_time_iff`).
-/
namespace RestKit.RateLimit

/-- The window that a hit may open lasts, or ended less than an interval ago. -/
def Hit.isRecent (interval now : Nat) (h : Hit) : Bool := now < h.now + h.window + interval

namespace MemoryStore

variable {s : MemoryStore} {now t last : Nat} {hits : List Hit} {g h : Hit}

/-- The store after a run of hits. -/
def afterHits (s : MemoryStore) (hits : List Hit) : MemoryStore :=
  hits.foldl (fun s h => (s.hit h).2) s

theorem afterHits_concat (s : MemoryStore) (hits : List Hit) (h : Hit) :
    s.afterHits (hits ++ [h]) = ((s.afterHits hits).hit h).2 := by
  simp [afterHits]

/-! ## One hit -/

/-- A sweep leaves only counters that were there. -/
theorem mem_of_mem_sweep {e : String × Counter} (he : e ∈ (s.sweep now).entries) :
    e ∈ s.entries := by
  cases hdue : s.isDue now with
  | true =>
    rw [sweep_of_due hdue] at he
    exact List.mem_of_mem_filter he
  | false => rwa [sweep_of_not_due hdue] at he

/-- The counters behind a hit: the one that it counted, and those that the sweep left. -/
theorem mem_of_mem_hit {e : String × Counter} (hs : s.poisoned = false)
    (he : e ∈ (s.hit h).2.entries) : e = (h.key, s.tally h) ∨ e ∈ (s.sweep h.now).entries := by
  by_cases hfits : h.Fits
  · rw [hit_of_fits hs hfits] at he
    exact Dict.mem_of_mem_insert he
  · rw [hit_of_not_fits hs hfits] at he
    exact .inr he

/-- A counter that a hit has counted does not expire before the hit. -/
theorem le_expiresAt_tally (s : MemoryStore) (h : Hit) : h.now ≤ (s.tally h).expiresAt := by
  unfold tally
  cases hlive : s.live h.now h.key with
  | none => exact Nat.le_add_right h.now h.window
  | some c =>
    have hc : h.now < c.expiresAt := by
      simpa [Counter.isLive] using (Option.filter_eq_some_iff.1 hlive).2
    exact Nat.le_of_lt hc

/-- What a hit leaves: a sweep less than an interval ago, and no counter that expired before it. -/
structure Swept (s : MemoryStore) (last now : Nat) : Prop where
  lastSweep : s.lastSweep = some last
  last_le : last ≤ now
  now_lt : now < last + s.sweepInterval
  le_expiresAt : ∀ e ∈ s.entries, last ≤ e.2.expiresAt

/-- A sweep that is due counts from its own time, and leaves what is live then. -/
theorem swept_of_due (hpos : 0 < s.sweepInterval) (hdue : s.isDue now = true) :
    (s.sweep now).Swept now now := by
  rw [sweep_of_due hdue]
  refine ⟨rfl, Nat.le_refl now, Nat.lt_add_of_pos_right hpos, fun e he => ?_⟩
  have hlive : now < e.2.expiresAt := by simpa [Counter.isLive] using (List.mem_filter.1 he).2
  exact Nat.le_of_lt hlive

/-- Until a sweep is due, less than an interval has passed. -/
theorem Swept.of_not_due (hs : s.Swept last t) (hle : t ≤ now) (hdue : s.isDue now = false) :
    (s.sweep now).Swept last now := by
  have hlt : now - last < s.sweepInterval := by
    simpa [isDue, hs.lastSweep] using hdue
  have hlast := hs.last_le
  rw [sweep_of_not_due hdue]
  exact ⟨hs.lastSweep, by omega, by omega, hs.le_expiresAt⟩

theorem lastSweep_hit (hs : s.poisoned = false) :
    (s.hit h).2.lastSweep = (s.sweep h.now).lastSweep := by
  by_cases hfits : h.Fits
  · rw [hit_of_fits hs hfits]
  · rw [hit_of_not_fits hs hfits]

/-- A hit expires its counter no earlier than now, and so not before the last sweep. -/
theorem Swept.hit (hs : s.poisoned = false) (hswept : (s.sweep h.now).Swept last h.now) :
    (s.hit h).2.Swept last h.now := by
  constructor
  case lastSweep => rw [lastSweep_hit hs, hswept.lastSweep]
  case last_le => exact hswept.last_le
  case now_lt =>
    rw [sweepInterval_hit, ← sweepInterval_sweep s h.now]
    exact hswept.now_lt
  case le_expiresAt =>
    intro e he
    rcases mem_of_mem_hit hs he with rfl | he
    · exact Nat.le_trans hswept.last_le (le_expiresAt_tally s h)
    · exact hswept.le_expiresAt e he

/-- **What a hit leaves.** A store that was never swept, or was left swept by the hit before, is
left swept, also by a hit that crashes. -/
theorem exists_swept_hit (hpos : 0 < s.sweepInterval) (hs : s.poisoned = false)
    (hbefore : s.lastSweep = none ∨ ∃ last t, s.Swept last t ∧ t ≤ h.now) :
    ∃ last, (s.hit h).2.Swept last h.now := by
  cases hdue : s.isDue h.now with
  | true => exact ⟨h.now, (swept_of_due hpos hdue).hit hs⟩
  | false =>
    rcases hbefore with hnever | ⟨last, t, hswept, hle⟩
    · simp [isDue, hnever] at hdue
    · exact ⟨last, (hswept.of_not_due hle hdue).hit hs⟩

/-! ## A run of hits -/

theorem sweepInterval_afterHits (s : MemoryStore) (hits : List Hit) :
    (s.afterHits hits).sweepInterval = s.sweepInterval := by
  induction hits using List.reverseRecOn with
  | nil => rfl
  | append_singleton hits h ih => rw [afterHits_concat, sweepInterval_hit, ih]

/-- A run leaves a store unpoisoned just if all its hits fit. -/
theorem poisoned_afterHits (hs : s.poisoned = false) :
    (s.afterHits hits).poisoned = false ↔ ∀ g ∈ hits, g.Fits := by
  induction hits using List.reverseRecOn with
  | nil => simp [afterHits, hs]
  | append_singleton hits h ih =>
    rw [afterHits_concat, poisoned_hit, ih, List.forall_mem_append, List.forall_mem_singleton]

/-- A poisoned store stays as it is. -/
theorem afterHits_of_poisoned (hs : s.poisoned = true) (hits : List Hit) :
    s.afterHits hits = s := by
  induction hits using List.reverseRecOn with
  | nil => rfl
  | append_singleton hits h ih => rw [afterHits_concat, ih, hit_of_poisoned hs]

/-- Behind a hit that does not fit the store stays as it is. -/
theorem afterHits_of_not_fits {before between : List Hit} (hfits : ¬ g.Fits) :
    s.afterHits (before ++ g :: between) = s.afterHits (before ++ [g]) := by
  have hpoisoned : (s.afterHits (before ++ [g])).poisoned = true := by
    rw [← Bool.not_eq_false, afterHits_concat, poisoned_hit]
    exact fun h => hfits h.2
  rw [List.append_cons, ← afterHits_of_poisoned hpoisoned between, afterHits, afterHits, afterHits,
    List.foldl_append]

/-- Behind the last hit of a run the store is swept, if the hits before it fit. -/
theorem exists_swept {interval : Nat} (hpos : 0 < interval) (hclock : Clocked (hits ++ [h]))
    (hfits : ∀ g ∈ hits, g.Fits) :
    ∃ last, ((empty interval).afterHits (hits ++ [h])).Swept last h.now := by
  induction hits using List.reverseRecOn generalizing h with
  | nil => exact exists_swept_hit hpos rfl (.inl rfl)
  | append_singleton hits g ih =>
    obtain ⟨hbefore, -, hlast⟩ := List.pairwise_append.1 hclock
    obtain ⟨last, hs⟩ := ih hbefore fun f hf => hfits f (List.mem_append_left _ hf)
    have hle : g.now ≤ h.now := hlast g (by simp) h (by simp)
    have hpoisoned := (poisoned_afterHits (s := empty interval) rfl).2 hfits
    rw [afterHits_concat]
    refine exists_swept_hit ?_ hpoisoned (.inr ⟨last, g.now, hs, hle⟩)
    rw [sweepInterval_afterHits]
    exact hpos

/-! ## The size -/

/-- Each counter was opened by a hit of its key. -/
def OpenedBy (s : MemoryStore) (hits : List Hit) : Prop :=
  ∀ e ∈ s.entries, ∃ g ∈ hits, g.key = e.1 ∧ e.2.expiresAt = g.now + g.window

theorem OpenedBy.hit (hopened : s.OpenedBy hits) (h : Hit) :
    (s.hit h).2.OpenedBy (hits ++ [h]) := by
  have hbefore : ∀ e ∈ s.entries, ∃ g ∈ hits ++ [h],
      g.key = e.1 ∧ e.2.expiresAt = g.now + g.window := by
    intro e he
    obtain ⟨g, hg, hgiven⟩ := hopened e he
    exact ⟨g, List.mem_append_left _ hg, hgiven⟩
  cases hs : s.poisoned with
  | true => rwa [hit_of_poisoned hs]
  | false =>
    intro e he
    rcases mem_of_mem_hit hs he with rfl | he
    · unfold tally
      cases hlive : s.live h.now h.key with
      | none => exact ⟨h, by simp, rfl, rfl⟩
      | some c =>
        -- a live counter goes on with the expiry that it was opened with
        exact hbefore (h.key, c) (Dict.get?_eq_some.1 (Option.filter_eq_some_iff.1 hlive).1)
    · exact hbefore e (mem_of_mem_sweep he)

theorem openedBy_afterHits (interval : Nat) (hits : List Hit) :
    ((empty interval).afterHits hits).OpenedBy hits := by
  induction hits using List.reverseRecOn with
  | nil => exact fun e he => absurd he List.not_mem_nil
  | append_singleton hits h ih =>
    rw [afterHits_concat]
    exact ih.hit h

/-- No counter is older than an interval. -/
theorem Swept.lt_expiresAt (hs : s.Swept last now) {e : String × Counter} (he : e ∈ s.entries) :
    now < e.2.expiresAt + s.sweepInterval := by
  have hlt := hs.now_lt
  have hle := hs.le_expiresAt e he
  omega

/-- A swept store is no larger than the number of hits with a recent window. -/
theorem size_le_countP (hs : s.Swept last now) (hopened : s.OpenedBy hits) :
    s.entries.size ≤ hits.countP (Hit.isRecent s.sweepInterval now) := by
  have hsubset : s.entries.keys ⊆
      (hits.filter (Hit.isRecent s.sweepInterval now)).map (·.key) := by
    intro k hk
    obtain ⟨e, he, rfl⟩ := List.mem_map.1 hk
    obtain ⟨g, hg, hkey, hexpires⟩ := hopened e he
    have hrecent : now < g.now + g.window + s.sweepInterval := hexpires ▸ hs.lt_expiresAt he
    exact List.mem_map.2 ⟨g, List.mem_filter.2 ⟨hg, decide_eq_true hrecent⟩, hkey⟩
  have hlength := (List.subperm_of_subset s.entries.nodup_keys hsubset).length_le
  rwa [Dict.keys, List.length_map, List.length_map, ← List.countP_eq_length_filter] at hlength

/-! ## Main statement -/

/-- The last sweep is less than an interval ago, and a counter is live or expired since that
sweep. -/
def InTime (s : MemoryStore) (now : Nat) : Prop :=
  ∃ last, s.lastSweep = some last ∧ last ≤ now ∧ now - last < s.sweepInterval ∧
    ∀ e ∈ s.entries, e.2.isLive now = true ∨ last ≤ e.2.expiresAt ∧ e.2.expiresAt ≤ now

theorem inTime_iff : s.InTime now ↔ ∃ last, s.Swept last now := by
  refine exists_congr fun last => ⟨fun ⟨hlast, hle, hlt, hall⟩ => ?_, fun hs => ?_⟩
  · refine ⟨hlast, hle, by omega, fun e he => ?_⟩
    rcases hall e he with hlive | ⟨hexpired, -⟩
    · have hlater : now < e.2.expiresAt := by simpa [Counter.isLive] using hlive
      omega
    · exact hexpired
  · have hlt := hs.now_lt
    have hle := hs.last_le
    refine ⟨hs.lastSweep, hle, by omega, fun e he => ?_⟩
    cases hlive : e.2.isLive now with
    | true => exact .inl rfl
    | false =>
      have hexpired : e.2.expiresAt ≤ now := by simpa [Counter.isLive] using hlive
      exact .inr ⟨hs.le_expiresAt e he, hexpired⟩

/-- A store that stays as it is remains in time until an interval has passed since its last
sweep. -/
theorem Swept.inTime_iff_of_le (hs : s.Swept last t) (hle : t ≤ now) :
    s.InTime now ↔ now < last + s.sweepInterval := by
  rw [inTime_iff]
  constructor
  · rintro ⟨last', hs'⟩
    obtain rfl : last' = last := Option.some.inj (hs'.lastSweep.symm.trans hs.lastSweep)
    exact hs'.now_lt
  · exact fun hlt => ⟨last, hs.lastSweep, Nat.le_trans hs.last_le hle, hlt, hs.le_expiresAt⟩

end MemoryStore

open MemoryStore

/-- **Sweeps keep up.** A hit of a run leaves the store in time, if the hits before it fit. If one
of them does not, the hit leaves it in time exactly if less than an interval has passed since the
last sweep up to the first of those. Where the store is in time no counter stays for an interval
behind its expiry, and the counters are no more than the hits whose windows are that recent. -/
theorem counters_swept_in_time_iff {interval : Nat} {hits : List Hit} {h : Hit}
    (hpos : 0 < interval) (hclock : Clocked (hits ++ [h])) :
    let s := (empty interval).afterHits (hits ++ [h])
    ((∀ g ∈ hits, g.Fits) → s.InTime h.now) ∧
    (∀ before g between, hits = before ++ g :: between → (∀ b ∈ before, b.Fits) → ¬ g.Fits →
      ∃ last, ((empty interval).afterHits (before ++ [g])).lastSweep = some last ∧
        last ≤ g.now ∧ (s.InTime h.now ↔ h.now < last + interval)) ∧
    (s.InTime h.now → (∀ e ∈ s.entries, h.now < e.2.expiresAt + interval) ∧
      s.entries.size ≤ (hits ++ [h]).countP (Hit.isRecent interval h.now)) := by
  intro s
  have hinterval : s.sweepInterval = interval := sweepInterval_afterHits _ _
  have hopened : s.OpenedBy (hits ++ [h]) := openedBy_afterHits _ _
  refine ⟨fun hfits => inTime_iff.2 (exists_swept hpos hclock hfits), ?_, fun hin => ?_⟩
  · rintro before g between rfl hbefore hg
    obtain ⟨hall, -, hlast⟩ := List.pairwise_append.1 hclock
    have hprefix : Clocked (before ++ [g]) := by
      rw [List.append_cons] at hall
      exact (List.pairwise_append.1 hall).1
    obtain ⟨last, hswept⟩ := exists_swept hpos hprefix hbefore
    have hs : s = (empty interval).afterHits (before ++ [g]) := by
      show (empty interval).afterHits ((before ++ g :: between) ++ [h]) = _
      rw [List.append_assoc, List.cons_append, afterHits_of_not_fits hg]
    rw [← hs] at hswept ⊢
    have hle : g.now ≤ h.now := hlast g (by simp) h (by simp)
    exact ⟨last, hswept.lastSweep, hswept.last_le, hinterval ▸ hswept.inTime_iff_of_le hle⟩
  · obtain ⟨last, hswept⟩ := inTime_iff.1 hin
    rw [← hinterval]
    exact ⟨fun e he => hswept.lt_expiresAt he, size_le_countP hswept hopened⟩

/-- Keys that are hit once, some of them in windows of no length, and one that is hit again when a
sweep is due. -/
def sampleHits : List Hit :=
  [⟨0, "a", 2⟩, ⟨1, "b", 0⟩, ⟨3, "c", 9⟩, ⟨4, "d", 0⟩, ⟨4, "a", 1⟩, ⟨7, "e", 5⟩]

theorem counters_swept_in_time_iff_crowd :
    0 < 3 ∧ Clocked (sampleHits ++ [⟨8, "f", 0⟩]) ∧ (∀ g ∈ sampleHits, g.Fits) ∧
      ((empty 3).afterHits (sampleHits ++ [⟨8, "f", 0⟩])).entries.entries =
        [("c", ⟨1, 12⟩), ("e", ⟨1, 12⟩), ("f", ⟨1, 8⟩)] ∧
      ((empty 3).afterHits (sampleHits ++ [⟨8, "f", 0⟩])).InTime 8 ∧
      ∀ e ∈ ((empty 3).afterHits (sampleHits ++ [⟨8, "f", 0⟩])).entries,
        8 < e.2.expiresAt + 3 := by
  have hclock : Clocked (sampleHits ++ [⟨8, "f", 0⟩]) := by simp [sampleHits, Clocked]
  have hfits : ∀ g ∈ sampleHits, g.Fits := by decide
  obtain ⟨hin, -, hnone⟩ := counters_swept_in_time_iff (show 0 < 3 by decide) hclock
  exact ⟨by decide, hclock, hfits, by decide, hin hfits, (hnone (hin hfits)).1⟩

/-- Behind a hit in a window whose end no clock reads a counter stays for nine units after its
expiry, though a sweep was due after three. -/
theorem endless_window_stops_sweeps :
    let hits : List Hit := [⟨0, "a", 1⟩, ⟨1, "b", endless⟩, ⟨10, "c", 1⟩]
    0 < 3 ∧ Clocked hits ∧ ("a", ⟨1, 1⟩) ∈ ((empty 3).afterHits hits).entries ∧
      ¬ ((empty 3).afterHits hits).InTime 10 := by
  intro hits
  have hlast : ((empty 3).afterHits hits).lastSweep = some 0 := by decide
  refine ⟨by decide, by simp [hits, Clocked], by decide, ?_⟩
  rintro ⟨last, hsome, -, hlt, -⟩
  obtain rfl : 0 = last := Option.some.inj (hlast.symm.trans hsome)
  exact absurd hlt (by decide)

end RestKit.RateLimit
