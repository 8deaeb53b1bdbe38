import RestKit.Proofs.RateLimit.Counter
import RestKit.RateLimit.Limit
/-!
# Windows

The hits of a key fall into windows: a window opens with the first hit behind the one before it and
lasts as long as that hit says. A store counts the hits of each window from one, whatever the other
keys do and whenever it sweeps (`answersOf_empty`), as long as all hits of its run fit. The first
one that does not crashes, and the store refuses those behind it (`answers_of_not_fits`).
-/
namespace RestKit.RateLimit

/-- The windows of one key's hits. -/
def windows : List Hit → List (List Hit)
  | [] => []
  | h :: hs =>
    (h :: hs.takeWhile fun g => g.now < h.now + h.window)
      :: windows (hs.dropWhile fun g => g.now < h.now + h.window)
termination_by hits => hits.length
decreasing_by exact Nat.lt_succ_of_le (List.dropWhile_sublist _).length_le

/-- The clock does not go back from hit to hit. -/
def Clocked (hits : List Hit) : Prop := hits.Pairwise fun g h => g.now ≤ h.now

/-- A window of as many seconds as 64 bits hold, in nanoseconds; it fits nowhere. -/
def endless : Nat := (Nat.pow 2 64 - 1) * Nat.pow 10 9

/-! ## One key -/

/-- The counts of one key's hits when counters are kept for good, from the counter `c` on. -/
def tallies (c : Option Counter) : List Hit → List Nat
  | [] => []
  | h :: hs =>
    let d := Counter.next (c.filter (·.isLive h.now)) h
    d.count :: tallies (some d) hs

/-- Hits before the expiry go on counting, and the first one behind it starts anew. -/
theorem tallies_live (n e : Nat) (hits : List Hit) :
    tallies (some ⟨n, e⟩) hits =
      List.range' (n + 1) (hits.takeWhile fun g => g.now < e).length
        ++ tallies none (hits.dropWhile fun g => g.now < e) := by
  induction hits generalizing n with
  | nil => rfl
  | cons h hs ih =>
    by_cases hlive : h.now < e
    · have hfilter : (some (Counter.mk n e)).filter (·.isLive h.now) = some ⟨n, e⟩ := by
        simp [Option.filter_some, Counter.isLive, hlive]
      simp only [tallies, hfilter, Counter.next, ih, List.takeWhile_cons, List.dropWhile_cons,
        hlive, decide_true, if_true, List.length_cons, List.range'_succ, List.cons_append]
    · have hfilter : (some (Counter.mk n e)).filter (·.isLive h.now) = none := by
        simp [Option.filter_some, Counter.isLive, hlive]
      simp [tallies, hfilter, hlive]

/-- The hits of each window are counted from one. -/
theorem tallies_eq_windows (hits : List Hit) :
    tallies none hits = (windows hits).flatMap fun w => List.range' 1 w.length := by
  induction hits using windows.induct with
  | case1 => rw [windows]; rfl
  | case2 h hs ih =>
    rw [windows, List.flatMap_cons, ← ih, List.length_cons, List.range'_succ]
    simp only [tallies, Option.filter_none, Counter.next, tallies_live, List.cons_append]

/-! ## The store -/

namespace MemoryStore

variable {s : MemoryStore} {hits before after : List Hit} {h : Hit} {key : String}

/-- A run of hits, each with its answer. -/
def answers (s : MemoryStore) : List Hit → List (Hit × Outcome StoreError Nat)
  | [] => []
  | h :: hs => (h, (s.hit h).1) :: (s.hit h).2.answers hs

/-- The answers to a key's hits in a run. -/
def answersOf (s : MemoryStore) (hits : List Hit) (key : String) : List (Outcome StoreError Nat) :=
  ((s.answers hits).filter (·.1.key = key)).map (·.2)

/-- A store that has not been hit. -/
def empty (sweepInterval : Nat) : MemoryStore := { sweepInterval }

/-! ### Runs in which a hit does not fit -/

/-- A poisoned store refuses every hit of a run. -/
theorem answers_of_poisoned (hs : s.poisoned = true) :
    s.answers hits = hits.map fun h => (h, .refused .poisoned) := by
  induction hits with
  | nil => rfl
  | cons h hits ih => rw [answers, hit_of_poisoned hs, ih, List.map_cons]

/-- The first hit that does not fit crashes, and those behind it are refused, whatever their keys
and windows. -/
theorem answers_of_not_fits (hs : s.poisoned = false) (hbefore : ∀ g ∈ before, g.Fits)
    (hfits : ¬ h.Fits) : s.answers (before ++ h :: after) =
      s.answers before ++ (h, .crashed) :: after.map fun g => (g, .refused .poisoned) := by
  induction before generalizing s with
  | nil =>
    rw [List.nil_append, answers, answers, hit_of_not_fits hs hfits, answers_of_poisoned rfl]
    rfl
  | cons g before ih =>
    obtain ⟨hg, hbefore⟩ := List.forall_mem_cons.1 hbefore
    rw [List.cons_append, answers, ih (poisoned_hit.2 ⟨hs, hg⟩) hbefore]
    rfl

/-- A run has a count for every hit exactly if all of them fit. -/
theorem answers_done_iff (hs : s.poisoned = false) :
    (∀ x ∈ s.answers hits, ∃ n, x.2 = .done n) ↔ ∀ h ∈ hits, h.Fits := by
  induction hits generalizing s with
  | nil => simp [answers]
  | cons h hits ih =>
    rw [answers, List.forall_mem_cons, List.forall_mem_cons, hit_eq_done, hs]
    simp only [true_and]
    exact and_congr_right fun hfits => ih (poisoned_hit.2 ⟨hs, hfits⟩)

/-! ### Runs in which all hits fit -/

/-- A store and a counter that is kept for good have the same live counter of a key from some time
on. -/
def Follows (s : MemoryStore) (key : String) (c : Option Counter) (now : Nat) : Prop :=
  ∀ t, now ≤ t → s.live t key = c.filter (·.isLive t)

/-- The counts of a key's hits are those of a counter that is kept for good. -/
theorem answersOf_eq_tallies {c : Option Counter} {now : Nat} (hs : s.poisoned = false)
    (hfits : ∀ h ∈ hits, h.Fits) (hfollows : s.Follows key c now) (hclock : Clocked hits)
    (hnow : ∀ h ∈ hits, now ≤ h.now) :
    s.answersOf hits key = (tallies c (hits.filter (·.key = key))).map .done := by
  induction hits generalizing s c now with
  | nil => rfl
  | cons h hits ih =>
    obtain ⟨hfit, hfits⟩ := List.forall_mem_cons.1 hfits
    have hle : now ≤ h.now := hnow h (List.mem_cons_self ..)
    have hlater : ∀ g ∈ hits, h.now ≤ g.now := (List.pairwise_cons.1 hclock).1
    have hrun (c' : Option Counter) (hc' : (s.hit h).2.Follows key c' h.now) :=
      ih (poisoned_hit.2 ⟨hs, hfit⟩) hfits hc' (List.pairwise_cons.1 hclock).2 hlater
    unfold answersOf at hrun ⊢
    simp only [answers]
    by_cases hkey : h.key = key
    · subst hkey
      have hlive : s.live h.now h.key = c.filter (·.isLive h.now) := hfollows h.now hle
      have hanswer : (s.hit h).1 = .done (Counter.next (c.filter (·.isLive h.now)) h).count := by
        rw [hit_of_fits hs hfit, tally, hlive]
      rw [List.filter_cons_of_pos (by simp), List.filter_cons_of_pos (by simp), List.map_cons,
        tallies, List.map_cons, hanswer]
      refine congrArg _ (hrun _ fun t ht => ?_)
      rw [live_hit hs hfit ht, if_pos rfl, tally, hlive]
    · rw [List.filter_cons_of_neg (by simpa using hkey),
        List.filter_cons_of_neg (by simpa using hkey)]
      refine hrun c fun t ht => ?_
      rw [live_hit hs hfit ht, if_neg hkey]
      exact hfollows t (Nat.le_trans hle ht)

theorem answersOf_empty (hclock : Clocked hits) (hfits : ∀ h ∈ hits, h.Fits) (interval : Nat)
    (key : String) : (empty interval).answersOf hits key =
      (windows (hits.filter (·.key = key))).flatMap fun w =>
        (List.range' 1 w.length).map .done := by
  rw [← List.map_flatMap, ← tallies_eq_windows]
  exact answersOf_eq_tallies rfl hfits (fun _ _ => rfl) hclock fun _ _ => Nat.zero_le _

end MemoryStore
end RestKit.RateLimit
