import RestKit.Proofs.Json.Ordered
import RestKit.RateLimit.Store
/-!
# Live counters

A store answers from the counter of a key that is live at the time of the hit, if there is one. A
sweep drops only counters that no later hit finds live, so it is not seen (`live_sweep`); a hit that
is counted changes the live counter of its own key and no other (`live_hit`). There are
three things that a hit can do (`hit_cases`): the store is poisoned and refuses it
(`hit_of_poisoned`), it does not fit and poisons the store (`hit_of_not_fits`), or it is counted
(`hit_of_fits`).
-/
namespace RestKit.RateLimit

/-- The counter after a hit at which `c` is the live one. -/
def Counter.next (c : Option Counter) (h : Hit) : Counter :=
  match c with
  | some c => { c with count := c.count + 1 }
  | none => ⟨1, h.now + h.window⟩

theorem Counter.count_next_pos (c : Option Counter) (h : Hit) : 0 < (Counter.next c h).count := by
  cases c with
  | none => exact Nat.one_pos
  | some c => exact Nat.succ_pos _

/-- A counter that is live is live at all earlier times. -/
theorem Counter.isLive_mono {c : Counter} {now t : Nat} (h : now ≤ t) (hc : c.isLive t = true) :
    c.isLive now = true := by
  simp only [Counter.isLive, decide_eq_true_eq] at hc ⊢
  omega

theorem filter_isLive_filter {c : Option Counter} {now t : Nat} (h : now ≤ t) :
    (c.filter (·.isLive now)).filter (·.isLive t) = c.filter (·.isLive t) := by
  rw [Option.filter_filter]
  congr 1
  funext c
  cases hc : c.isLive t with
  | false => exact Bool.and_false _
  | true => simp [Counter.isLive_mono h hc]

namespace MemoryStore

variable {s : MemoryStore} {h : Hit} {now t : Nat} {key : String}

/-- The counter of a key that is live at a time. -/
def live (s : MemoryStore) (now : Nat) (key : String) : Option Counter :=
  (s.entries.get? key).filter (·.isLive now)

theorem live_of_le (h : now ≤ t) : (s.live now key).filter (·.isLive t) = s.live t key :=
  filter_isLive_filter h

/-! ## Sweeps -/

theorem sweep_of_due (hdue : s.isDue now = true) :
    s.sweep now =
      { s with entries := s.entries.filter fun e => e.2.isLive now, lastSweep := some now } :=
  if_pos hdue

theorem sweep_of_not_due (hdue : s.isDue now = false) : s.sweep now = s := by
  unfold sweep
  simp [hdue]

@[simp] theorem poisoned_sweep (s : MemoryStore) (now : Nat) :
    (s.sweep now).poisoned = s.poisoned := by
  unfold sweep
  split <;> rfl

@[simp] theorem sweepInterval_sweep (s : MemoryStore) (now : Nat) :
    (s.sweep now).sweepInterval = s.sweepInterval := by
  unfold sweep
  split <;> rfl

theorem get?_sweep (s : MemoryStore) (now : Nat) (key : String) :
    (s.sweep now).entries.get? key =
      if s.isDue now then s.live now key else s.entries.get? key := by
  unfold sweep
  split
  · exact Dict.get?_filter (Counter.isLive · now) key
  · rfl

/-- A sweep is not seen at its time or later. -/
theorem live_sweep (h : now ≤ t) : (s.sweep now).live t key = s.live t key := by
  rw [live, get?_sweep]
  split
  · exact live_of_le h
  · rfl

/-! ## Hits -/

theorem counted_eq (s : MemoryStore) (h : Hit) :
    s.counted h.now h.key (h.now + h.window) = Counter.next (s.live h.now h.key) h := by
  unfold counted live
  cases s.entries.get? h.key with
  | none => rfl
  | some c =>
    dsimp only
    cases hc : c.isLive h.now <;> simp [Option.filter, hc, Counter.next]

/-- A poisoned store refuses every hit. -/
theorem hit_of_poisoned (hs : s.poisoned = true) : s.hit h = (.refused .poisoned, s) := if_pos hs

/-- A hit that does not fit crashes behind the sweep, and poisons the store. -/
theorem hit_of_not_fits (hs : s.poisoned = false) (hfits : ¬ h.Fits) :
    s.hit h = (.crashed, { s.sweep h.now with poisoned := true }) := by
  have hnone : Clock.after? h.now h.window = none := if_neg hfits
  rw [hit, hs, if_neg Bool.false_ne_true]
  dsimp only
  rw [hnone]

/-- The counter of a hit that is counted. -/
abbrev tally (s : MemoryStore) (h : Hit) : Counter := Counter.next (s.live h.now h.key) h

/-- A hit that is counted is answered from the live counter of its key. -/
theorem hit_of_fits (hs : s.poisoned = false) (hfits : h.Fits) :
    s.hit h = (.done (s.tally h).count,
      { s.sweep h.now with entries := (s.sweep h.now).entries.insert h.key (s.tally h) }) := by
  have hsome : Clock.after? h.now h.window = some (h.now + h.window) := if_pos hfits
  have htally : (s.sweep h.now).tally h = s.tally h := by
    rw [tally, tally, live_sweep (Nat.le_refl h.now)]
  rw [hit, hs, if_neg Bool.false_ne_true]
  dsimp only
  rw [hsome]
  dsimp only
  rw [counted_eq, ← tally, htally]

/-- A store refuses a hit, crashes with it or counts it. -/
theorem hit_cases (s : MemoryStore) (h : Hit) :
    (s.poisoned = true ∧ s.hit h = (.refused .poisoned, s)) ∨
      (s.poisoned = false ∧ ¬ h.Fits ∧
        s.hit h = (.crashed, { s.sweep h.now with poisoned := true })) ∨
      (s.poisoned = false ∧ h.Fits ∧ s.hit h = (.done (s.tally h).count,
        { s.sweep h.now with entries := (s.sweep h.now).entries.insert h.key (s.tally h) })) := by
  cases hs : s.poisoned with
  | true => exact .inl ⟨rfl, hit_of_poisoned hs⟩
  | false =>
    by_cases hfits : h.Fits
    · exact .inr (.inr ⟨rfl, hfits, hit_of_fits hs hfits⟩)
    · exact .inr (.inl ⟨rfl, hfits, hit_of_not_fits hs hfits⟩)

/-- A store stays unpoisoned as long as its hits fit. -/
theorem poisoned_hit : (s.hit h).2.poisoned = false ↔ s.poisoned = false ∧ h.Fits := by
  rcases hit_cases s h with ⟨hs, hhit⟩ | ⟨hs, hfits, hhit⟩ | ⟨hs, hfits, hhit⟩
  · simp [hhit, hs]
  · simp [hhit, hfits]
  · simp [hhit, hs, hfits]

/-- A store counts a hit just if it is not poisoned and the hit fits. -/
theorem hit_eq_done : (∃ n, (s.hit h).1 = .done n) ↔ s.poisoned = false ∧ h.Fits := by
  rcases hit_cases s h with ⟨hs, hhit⟩ | ⟨hs, hfits, hhit⟩ | ⟨hs, hfits, hhit⟩
  · simp [hhit, hs]
  · simp [hhit, hfits]
  · simp [hhit, hs, hfits]

@[simp] theorem sweepInterval_hit (s : MemoryStore) (h : Hit) :
    (s.hit h).2.sweepInterval = s.sweepInterval := by
  rcases hit_cases s h with ⟨-, hhit⟩ | ⟨-, -, hhit⟩ | ⟨-, -, hhit⟩ <;> simp [hhit]

theorem get?_hit (hs : s.poisoned = false) (hfits : h.Fits) :
    (s.hit h).2.entries.get? key =
      if h.key = key then some (s.tally h) else (s.sweep h.now).entries.get? key := by
  rw [hit_of_fits hs hfits]
  exact Dict.get?_insert

/-- A hit that is counted changes the live counter of its own key and no other. -/
theorem live_hit (hs : s.poisoned = false) (hfits : h.Fits) (ht : h.now ≤ t) :
    (s.hit h).2.live t key =
      if h.key = key then (some (s.tally h)).filter (·.isLive t) else s.live t key := by
  rw [live, get?_hit hs hfits]
  split
  · rfl
  · exact live_sweep ht

/-- A hit that is not counted changes no live counter. -/
theorem live_hit_of_not_counted (hnot : ¬ (s.poisoned = false ∧ h.Fits)) (ht : h.now ≤ t) :
    (s.hit h).2.live t key = s.live t key := by
  rcases hit_cases s h with ⟨-, hhit⟩ | ⟨-, -, hhit⟩ | ⟨hs, hfits, -⟩
  · rw [hhit]
  · rw [hhit]
    exact live_sweep ht
  · exact absurd ⟨hs, hfits⟩ hnot

end MemoryStore
end RestKit.RateLimit
