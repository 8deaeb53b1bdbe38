import RestKit.Proofs.RateLimit.Counter
/-!
# Counting

What becomes of the store that limits are counted in, whichever it is, when it is hit. One that can
count the hit adds one to the counter of its key and changes no other (`countsOnce_count`); the
store of the process that cannot is poisoned from then on and keeps its counters (`loses_hit`). A
store elsewhere may be any machine (`hit_foldl_count_ofMachine`).
-/
namespace RestKit.RateLimit.Store

variable {s : Store} {h g : Hit} {hits : List Hit}

/-- The store behind a hit. -/
def count (s : Store) (h : Hit) : Store := (s.hit h).2

/-- The store of the process counts a hit that fits, as long as it is not poisoned. What a store
elsewhere makes of a hit is its own affair. -/
def CanCount : Store → Hit → Prop
  | .memory m, h => m.poisoned = false ∧ h.Fits
  | .remote _, _ => True

/-- A hit is counted, and once: its key's live counter has gone up by one, or a window has opened
with one, and no live counter of another key has changed. A store elsewhere has received it. -/
inductive CountsOnce (h : Hit) : Store → Store → Prop
  | memory {m m' : MemoryStore} {c : Counter} (own : m'.entries.get? h.key = some c)
    (count : c.count = (m.live h.now h.key).elim 0 Counter.count + 1)
    (expiresAt : c.expiresAt = (m.live h.now h.key).elim (h.now + h.window) Counter.expiresAt)
    (others : ∀ t key, h.now ≤ t → key ≠ h.key → m'.live t key = m.live t key) :
    CountsOnce h (.memory m) (.memory m')
  | remote {r r' : RemoteStore} (received : r'.received = r.received ++ [h])
    (answer : r'.answer = r.answer) : CountsOnce h (.remote r) (.remote r')

/-- A hit is not counted, and what the store answers. -/
inductive Loses (h : Hit) : Store → Outcome StoreError Nat → Store → Prop
  /-- The hit poisons the store. -/
  | crashed {m m' : MemoryStore} (before : m.poisoned = false) (behind : m'.poisoned = true)
    (live : ∀ t key, h.now ≤ t → m'.live t key = m.live t key) :
    Loses h (.memory m) .crashed (.memory m')
  /-- The store has been poisoned before. -/
  | refused {m : MemoryStore} (poisoned : m.poisoned = true) :
    Loses h (.memory m) (.refused .poisoned) (.memory m)

theorem countsOnce_count (hcan : s.CanCount h) : CountsOnce h s (s.count h) := by
  cases s with
  | remote r => exact .remote rfl rfl
  | memory m =>
    obtain ⟨hm, hfits⟩ := hcan
    have hown : (m.hit h).2.entries.get? h.key = some (m.tally h) := by
      rw [MemoryStore.get?_hit hm hfits, if_pos rfl]
    refine .memory hown ?count ?expiresAt fun t key ht hkey => ?_
    case count => cases hlive : m.live h.now h.key <;> simp [MemoryStore.tally, hlive, Counter.next]
    case expiresAt =>
      cases hlive : m.live h.now h.key <;> simp [MemoryStore.tally, hlive, Counter.next]
    rw [MemoryStore.live_hit hm hfits ht, if_neg hkey.symm]

theorem loses_hit (hcannot : ¬ s.CanCount h) : Loses h s (s.hit h).1 (s.count h) := by
  cases s with
  | remote r => exact absurd trivial hcannot
  | memory m =>
    have hlive : ∀ t key, h.now ≤ t → (m.hit h).2.live t key = m.live t key :=
      fun t key => MemoryStore.live_hit_of_not_counted hcannot
    rw [count, hit]
    rcases MemoryStore.hit_cases m h with ⟨hm, hhit⟩ | ⟨hm, -, hhit⟩ | ⟨hm, hfits, -⟩
    · rw [hhit]
      exact .refused hm
    · rw [hhit] at hlive ⊢
      exact .crashed hm rfl hlive
    · exact absurd ⟨hm, hfits⟩ hcannot

theorem Loses.ne_done {answer : Outcome StoreError Nat} {s' : Store} (hloses : Loses h s answer s')
    (n : Nat) : answer ≠ .done n := by
  cases hloses <;> exact nofun

/-- A store that has counted a hit can count the same hits as before. -/
theorem canCount_count (hcan : s.CanCount h) : (s.count h).CanCount g ↔ s.CanCount g := by
  cases s with
  | remote r => exact Iff.rfl
  | memory m =>
    obtain ⟨hm, hfits⟩ := hcan
    show (m.hit h).2.poisoned = false ∧ g.Fits ↔ m.poisoned = false ∧ g.Fits
    rw [MemoryStore.poisoned_hit]
    simp [hm, hfits]

/-! ## Stores elsewhere -/

theorem foldl_count_remote (r : RemoteStore) (hits : List Hit) :
    hits.foldl count (.remote r) = .remote { r with received := r.received ++ hits } := by
  induction hits generalizing r with
  | nil => rw [List.append_nil]; rfl
  | cons h hits ih =>
    rw [List.foldl_cons]
    refine (ih (r.hit h).2).trans ?_
    rw [RemoteStore.hit, List.append_assoc]
    rfl

/-- A store that runs a machine answers each hit as the machine does behind the hits before it. -/
theorem hit_foldl_count_ofMachine {τ : Type} (step : τ → Hit → Outcome StoreError Nat × τ)
    (start : τ) (hits : List Hit) (h : Hit) :
    ((hits.foldl count (.remote (.ofMachine step start))).hit h).1 =
      (step (hits.foldl (fun t g => (step t g).2) start) h).1 := by
  rw [foldl_count_remote]
  rfl

end RestKit.RateLimit.Store
