import RestKit.Proofs.RateLimit.Window
/-!
# Admissions

A run of a limiter's checks over one store. A count that passes the limit is refused, so that in
each window the first `max` hits are admitted; a check that is refused has no effect on the others
(`decisions_erase`), in particular it does not make its window longer. All this holds as long as
every hit fits, and only so long: the first one that does not ends the counting for all keys. Main
statement: `hits_counted_by_window_iff`.
-/
namespace RestKit.RateLimit

/-- A check of a limiter: when it is made, the limit that it is made under, and what the key is
made of where the limit gives none. -/
structure Check where
  now : Nat
  limit : Limit
  endpoint : String
  remoteIp : String
deriving DecidableEq

namespace Check

def key (c : Check) : String := c.limit.keyFor c.endpoint c.remoteIp

def hit (c : Check) : Hit := ⟨c.now, c.key, c.limit.window⟩

@[simp] theorem key_hit (c : Check) : c.hit.key = c.key := rfl

@[simp] theorem now_hit (c : Check) : c.hit.now = c.now := rfl

end Check

/-- A run of checks, each with its outcome. -/
def decisions (store : Store) : List Check → List (Check × Outcome ApiError Unit)
  | [] => []
  | c :: cs =>
    let (o, store) := enforce (some c.limit) c.endpoint c.remoteIp c.now store
    (c, o) :: decisions store cs

/-- The outcomes of a key's checks in a run. -/
def outcomesOf (store : Store) (checks : List Check) (key : String) :
    List (Outcome ApiError Unit) :=
  ((decisions store checks).filter (·.1.key = key)).map (·.2)

/-- The outcome of a count under a limit. -/
def verdict (max count : Nat) : Outcome ApiError Unit :=
  if count > max then .refused tooMany else .done ()

theorem verdict_of_lt {max count : Nat} (h : max < count) : verdict max count = .refused tooMany :=
  if_pos h

theorem verdict_of_le {max count : Nat} (h : count ≤ max) : verdict max count = .done () :=
  if_neg (Nat.not_lt.2 h)

theorem lt_of_verdict {max count : Nat} (h : verdict max count = .refused tooMany) :
    max < count := by
  by_contra hle
  rw [verdict_of_le (Nat.not_lt.1 hle)] at h
  cases h

theorem le_of_verdict {max count : Nat} (h : verdict max count = .done ()) : count ≤ max := by
  refine Nat.not_lt.1 fun hover => ?_
  rw [verdict_of_lt hover] at h
  cases h

namespace Limit

variable {l l' : Limit} {answer : Outcome StoreError Nat}

theorem outcome_done (l : Limit) (n : Nat) : l.outcome (.done n) = verdict l.max n := rfl

theorem outcome_congr (h : l.max = l'.max) (answer : Outcome StoreError Nat) :
    l.outcome answer = l'.outcome answer := by
  cases answer with
  | done n => rw [outcome_done, outcome_done, h]
  | _ => rfl

/-- Only a store that has counted leaves it to the limit to admit or refuse. -/
theorem exists_count_of_outcome
    (h : l.outcome answer = .done () ∨ l.outcome answer = .refused tooMany) :
    ∃ n, answer = .done n := by
  cases answer with
  | done n => exact ⟨n, rfl⟩
  | refused e => rcases h with h | h <;> cases h
  | crashed => rcases h with h | h <;> cases h
  | pending => rcases h with h | h <;> cases h

end Limit

/-- The store after a check. -/
def MemoryStore.after (s : MemoryStore) (c : Check) : MemoryStore := (s.hit c.hit).2

variable {s s' : MemoryStore} {c : Check} {checks : List Check} {key : String} {m now : Nat}
  {max : String → Nat}

theorem decisions_cons : decisions (.memory s) (c :: checks) =
    (c, c.limit.outcome (s.hit c.hit).1) :: decisions (.memory (s.after c)) checks := rfl

/-- The decision on a check follows from the store's answer to its hit. -/
theorem exists_decision {x : Hit × Outcome StoreError Nat}
    (hx : x ∈ s.answers (checks.map Check.hit)) :
    ∃ c ∈ checks, x.1 = c.hit ∧ (c, c.limit.outcome x.2) ∈ decisions (.memory s) checks := by
  induction checks generalizing s with
  | nil => cases hx
  | cons c checks ih =>
    rw [decisions_cons]
    rcases List.mem_cons.1 hx with rfl | hx
    · exact ⟨c, List.mem_cons_self .., rfl, List.mem_cons_self ..⟩
    · obtain ⟨d, hd, heq, hmem⟩ := ih hx
      exact ⟨d, List.mem_cons_of_mem _ hd, heq, List.mem_cons_of_mem _ hmem⟩

/-! ## The first hits of a window -/

theorem outcomesOf_eq (hmax : ∀ c ∈ checks, c.key = key → c.limit.max = m) :
    outcomesOf (.memory s) checks key =
      (s.answersOf (checks.map Check.hit) key).map (Limit.outcome ⟨m, 0, none⟩) := by
  unfold outcomesOf MemoryStore.answersOf
  induction checks generalizing s with
  | nil => rfl
  | cons c checks ih =>
    have hrest := ih (s := s.after c) fun d hd => hmax d (List.mem_cons_of_mem _ hd)
    rw [decisions_cons, List.map_cons, MemoryStore.answers]
    by_cases hkey : c.key = key
    · rw [List.filter_cons_of_pos (by simp [hkey]), List.filter_cons_of_pos (by simp [hkey]),
        List.map_cons, List.map_cons, List.map_cons]
      exact congrArg₂ _ (Limit.outcome_congr (hmax c (List.mem_cons_self ..) hkey) _) hrest
    · rw [List.filter_cons_of_neg (by simp [hkey]), List.filter_cons_of_neg (by simp [hkey])]
      exact hrest

/-- Of the hits that are counted from one on, the first ones are admitted. -/
theorem map_verdict_range (m n : Nat) :
    (List.range' 1 n).map (verdict m) =
      List.replicate (min m n) (.done ()) ++ List.replicate (n - m) (.refused tooMany) := by
  induction n with
  | zero => simp
  | succ n ih =>
    rw [List.range'_1_concat, List.map_append, ih, List.map_singleton]
    by_cases h : n < m
    · have hmin : min m n = n := by omega
      have hmin' : min m (n + 1) = n + 1 := by omega
      have hsub : n - m = 0 := by omega
      have hsub' : n + 1 - m = 0 := by omega
      have hverdict : verdict m (1 + n) = .done () := verdict_of_le (by omega)
      rw [hmin, hmin', hsub, hsub', hverdict, List.replicate_zero, List.append_nil,
        List.append_nil, List.replicate_succ']
    · have hmin : min m n = m := by omega
      have hmin' : min m (n + 1) = m := by omega
      have hsub : n + 1 - m = n - m + 1 := by omega
      have hverdict : verdict m (1 + n) = .refused tooMany := verdict_of_lt (by omega)
      rw [hmin, hmin', hsub, hverdict, List.append_assoc, List.replicate_succ']

/-! ## Checks that are refused -/

/-- Counters that a limit does not tell apart: they expire together, and both have reached it. -/
def Alike (m : Nat) (c d : Option Counter) : Prop :=
  c = d ∨ m = 0 ∨ ∃ i j e, c = some ⟨i, e⟩ ∧ d = some ⟨j, e⟩ ∧ m ≤ i ∧ m ≤ j

namespace Alike

variable {c d : Option Counter}

theorem filter (h : Alike m c d) (t : Nat) :
    Alike m (c.filter (·.isLive t)) (d.filter (·.isLive t)) := by
  rcases h with rfl | hm | ⟨i, j, e, rfl, rfl, hi, hj⟩
  · exact .inl rfl
  · exact .inr (.inl hm)
  · simp only [Option.filter_some, Counter.isLive]
    split
    · exact .inr (.inr ⟨i, j, e, rfl, rfl, hi, hj⟩)
    · exact .inl rfl

theorem next (h : Alike m c d) (hit : Hit) :
    Alike m (some (Counter.next c hit)) (some (Counter.next d hit)) := by
  rcases h with rfl | hm | ⟨i, j, e, rfl, rfl, hi, hj⟩
  · exact .inl rfl
  · exact .inr (.inl hm)
  · exact .inr (.inr ⟨i + 1, j + 1, e, rfl, rfl, by omega, by omega⟩)

theorem verdict_eq (h : Alike m c d) (hit : Hit) :
    verdict m (Counter.next c hit).count = verdict m (Counter.next d hit).count := by
  rcases h with rfl | rfl | ⟨i, j, e, rfl, rfl, hi, hj⟩
  · rfl
  · rw [verdict_of_lt (Counter.count_next_pos c hit), verdict_of_lt (Counter.count_next_pos d hit)]
  · exact (verdict_of_lt (Nat.lt_succ_of_le hi)).trans (verdict_of_lt (Nat.lt_succ_of_le hj)).symm

end Alike

namespace MemoryStore

/-- Stores that the limits do not tell apart from some time on. -/
structure Alike (max : String → Nat) (now : Nat) (s s' : MemoryStore) : Prop where
  poisoned : s.poisoned = s'.poisoned
  live : ∀ key, RateLimit.Alike (max key) (s.live now key) (s'.live now key)

namespace Alike

theorem of_le {t : Nat} (h : Alike max now s s') (hle : now ≤ t) : Alike max t s s' where
  poisoned := h.poisoned
  live key := by
    rw [← live_of_le hle, ← live_of_le hle]
    exact (h.live key).filter t

theorem after (h : Alike max c.now s s') : Alike max c.now (s.after c) (s'.after c) where
  poisoned := by
    rw [Bool.eq_iff_iff, ← not_iff_not, Bool.not_eq_true, Bool.not_eq_true, MemoryStore.after,
      MemoryStore.after, poisoned_hit, poisoned_hit, h.poisoned]
  live key := by
    have hle : c.hit.now ≤ c.now := Nat.le_refl _
    rw [MemoryStore.after, MemoryStore.after]
    by_cases hcounted : s.poisoned = false ∧ c.hit.Fits
    · obtain ⟨hs, hfits⟩ := hcounted
      rw [live_hit hs hfits hle, live_hit (h.poisoned ▸ hs) hfits hle]
      split
      · rename_i hkey
        subst hkey
        exact ((h.live c.key).next _).filter _
      · exact h.live key
    · have hcounted' : ¬ (s'.poisoned = false ∧ c.hit.Fits) := h.poisoned ▸ hcounted
      rw [live_hit_of_not_counted hcounted hle, live_hit_of_not_counted hcounted' hle]
      exact h.live key

theorem outcome_eq (h : Alike max c.now s s') (hmax : c.limit.max = max c.key) :
    c.limit.outcome (s.hit c.hit).1 = c.limit.outcome (s'.hit c.hit).1 := by
  cases hs : s.poisoned with
  | true => rw [hit_of_poisoned hs, hit_of_poisoned (h.poisoned ▸ hs)]
  | false =>
    have hs' : s'.poisoned = false := h.poisoned ▸ hs
    by_cases hfits : c.hit.Fits
    · rw [hit_of_fits hs hfits, hit_of_fits hs' hfits, Limit.outcome_done, Limit.outcome_done, hmax]
      exact (h.live c.key).verdict_eq c.hit
    · rw [hit_of_not_fits hs hfits, hit_of_not_fits hs' hfits]

end Alike

/-- A check that is refused leaves a store that the limits do not tell from the one before. -/
theorem alike_of_refused (hmax : c.limit.max = max c.key)
    (hrefused : c.limit.outcome (s.hit c.hit).1 = .refused tooMany) :
    Alike max c.now (s.after c) s := by
  have hle : c.hit.now ≤ c.now := Nat.le_refl _
  obtain ⟨hs, hfits⟩ := hit_eq_done.1 (Limit.exists_count_of_outcome (.inr hrefused))
  constructor
  case poisoned => rw [after, poisoned_hit.2 ⟨hs, hfits⟩, hs]
  case live =>
    intro key
    rw [after, live_hit hs hfits hle]
    split
    · rename_i hkey
      subst hkey
      rw [hit_of_fits hs hfits, Limit.outcome_done, hmax] at hrefused
      have hover : max c.key < (s.tally c.hit).count := lt_of_verdict hrefused
      unfold tally at hover ⊢
      cases hlive : s.live c.hit.now c.hit.key with
      | none =>
        -- the first hit of a window is refused only if every one is
        rw [hlive] at hover
        exact .inr (.inl (Nat.lt_one_iff.1 hover))
      | some d =>
        have hd : d.isLive c.now = true := (Option.filter_eq_some_iff.1 hlive).2
        rw [hlive] at hover
        refine .inr (.inr ⟨d.count + 1, d.count, d.expiresAt, ?_, hlive, ?_, ?_⟩)
        · simpa [Counter.next, Option.filter_some, Counter.isLive] using hd
        · exact Nat.le_of_lt hover
        · exact Nat.le_of_lt_succ hover
    · exact .inl rfl

end MemoryStore

/-- Stores that the limits do not tell apart give the same outcomes. -/
theorem decisions_of_alike (h : MemoryStore.Alike max now s s')
    (hclock : Clocked (checks.map Check.hit)) (hnow : ∀ c ∈ checks, now ≤ c.now)
    (hmax : ∀ c ∈ checks, c.limit.max = max c.key) :
    decisions (.memory s) checks = decisions (.memory s') checks := by
  induction checks generalizing s s' now with
  | nil => rfl
  | cons c checks ih =>
    rw [List.map_cons, Clocked, List.pairwise_cons] at hclock
    have hc : MemoryStore.Alike max c.now s s' := h.of_le (hnow c (List.mem_cons_self ..))
    rw [decisions_cons, decisions_cons, hc.outcome_eq (hmax c (List.mem_cons_self ..))]
    refine congrArg _ (ih hc.after hclock.2 (fun d hd => ?_) fun d hd =>
      hmax d (List.mem_cons_of_mem _ hd))
    exact hclock.1 d.hit (List.mem_map_of_mem hd)

/-- A check that is refused has no effect on the others. -/
theorem decisions_erase {before after : List Check}
    (hclock : Clocked ((before ++ c :: after).map Check.hit))
    (hmax : ∀ d ∈ before ++ c :: after, d.limit.max = max d.key)
    (hrefused : (decisions (.memory s) (before ++ c :: after))[before.length]? =
      some (c, .refused tooMany)) :
    (decisions (.memory s) (before ++ c :: after)).eraseIdx before.length =
      decisions (.memory s) (before ++ after) := by
  induction before generalizing s with
  | nil =>
    rw [List.nil_append] at hclock hmax hrefused ⊢
    rw [List.map_cons, Clocked, List.pairwise_cons] at hclock
    rw [decisions_cons] at hrefused ⊢
    simp only [List.length_nil, List.getElem?_cons_zero, Option.some.injEq, Prod.mk.injEq,
      true_and] at hrefused
    have halike := MemoryStore.alike_of_refused (hmax c (List.mem_cons_self ..)) hrefused
    exact decisions_of_alike halike hclock.2
      (fun d hd => hclock.1 d.hit (List.mem_map_of_mem hd))
      fun d hd => hmax d (List.mem_cons_of_mem _ hd)
  | cons b before ih =>
    rw [List.cons_append] at hclock hmax hrefused ⊢
    rw [List.map_cons, Clocked, List.pairwise_cons] at hclock
    rw [decisions_cons] at hrefused ⊢
    rw [List.length_cons, List.getElem?_cons_succ] at hrefused
    rw [List.length_cons, List.eraseIdx_cons_succ, List.cons_append, decisions_cons]
    exact congrArg _ (ih hclock.2 (fun d hd => hmax d (List.mem_cons_of_mem _ hd)) hrefused)

/-! ## Main statement -/

/-- The hits of each window are counted from one. -/
theorem answers_by_window_iff {hits : List Hit} (hclock : Clocked hits) (interval : Nat) :
    (∀ key, (MemoryStore.empty interval).answersOf hits key =
      (windows (hits.filter (·.key = key))).flatMap fun w =>
        (List.range' 1 w.length).map .done) ↔ ∀ h ∈ hits, h.Fits := by
  constructor
  · intro hcounts
    refine (MemoryStore.answers_done_iff (s := .empty interval) rfl).1 fun x hx => ?_
    have hmem : x.2 ∈ (MemoryStore.empty interval).answersOf hits x.1.key :=
      List.mem_map_of_mem (List.mem_filter.2 ⟨hx, by simp⟩)
    rw [hcounts, List.mem_flatMap] at hmem
    obtain ⟨w, -, hmem⟩ := hmem
    obtain ⟨n, -, hn⟩ := List.mem_map.1 hmem
    exact ⟨n, hn.symm⟩
  · exact fun hfits => MemoryStore.answersOf_empty hclock hfits interval

/-- The first hits of each window are admitted. -/
theorem outcomes_by_window_iff (hclock : Clocked (checks.map Check.hit))
    (hmax : ∀ c ∈ checks, c.limit.max = max c.key) (interval : Nat) :
    (∀ key, outcomesOf (.memory (.empty interval)) checks key =
      (windows ((checks.map Check.hit).filter (·.key = key))).flatMap fun w =>
        List.replicate (min (max key) w.length) (.done ())
          ++ List.replicate (w.length - max key) (.refused tooMany)) ↔
      ∀ c ∈ checks, c.hit.Fits := by
  constructor
  · intro houtcomes
    suffices hfits : ∀ h ∈ checks.map Check.hit, h.Fits from List.forall_mem_map.1 hfits
    refine (MemoryStore.answers_done_iff (s := .empty interval) rfl).1 fun x hx => ?_
    obtain ⟨c, -, -, hmem⟩ := exists_decision hx
    have hmem' : c.limit.outcome x.2 ∈ outcomesOf (.memory (.empty interval)) checks c.key :=
      List.mem_map_of_mem (List.mem_filter.2 ⟨hmem, by simp⟩)
    rw [houtcomes, List.mem_flatMap] at hmem'
    obtain ⟨w, -, hmem'⟩ := hmem'
    refine Limit.exists_count_of_outcome (l := c.limit) ?_
    rcases List.mem_append.1 hmem' with h | h
    · exact .inl (List.eq_of_mem_replicate h)
    · exact .inr (List.eq_of_mem_replicate h)
  · intro hfits key
    rw [outcomesOf_eq fun c hc hkey => hkey ▸ hmax c hc,
      MemoryStore.answersOf_empty hclock (List.forall_mem_map.2 hfits), List.map_flatMap]
    simp only [List.map_map, ← map_verdict_range]
    rfl

/-- **Counts and windows.** From an empty store, with any sweep interval, the hits of a key are
counted from one in each of its windows, whatever other keys do and whenever sweeps happen, exactly
if every hit of the run fits. Under a limit for each key, and under the same condition, the first
hits of each window are admitted and no other. A check that is refused could as well not have been
made. -/
theorem hits_counted_by_window_iff (interval : Nat) :
    (∀ hits, Clocked hits →
      ((∀ key, (MemoryStore.empty interval).answersOf hits key =
        (windows (hits.filter (·.key = key))).flatMap fun w =>
          (List.range' 1 w.length).map .done) ↔ ∀ h ∈ hits, h.Fits)) ∧
    ∀ (max : String → Nat) (checks : List Check), Clocked (checks.map Check.hit) →
      (∀ c ∈ checks, c.limit.max = max c.key) →
        ((∀ key, outcomesOf (.memory (.empty interval)) checks key =
          (windows ((checks.map Check.hit).filter (·.key = key))).flatMap fun w =>
            List.replicate (min (max key) w.length) (.done ())
              ++ List.replicate (w.length - max key) (.refused tooMany)) ↔
          ∀ c ∈ checks, c.hit.Fits) ∧
        ∀ before c after, checks = before ++ c :: after →
          (decisions (.memory (.empty interval)) checks)[before.length]? =
              some (c, .refused tooMany) →
            (decisions (.memory (.empty interval)) checks).eraseIdx before.length =
              decisions (.memory (.empty interval)) (before ++ after) := by
  refine ⟨fun hits hclock => answers_by_window_iff hclock interval, fun max checks hclock hmax =>
    ⟨outcomes_by_window_iff hclock hmax interval, ?_⟩⟩
  rintro before c after rfl hrefused
  exact decisions_erase hclock hmax hrefused

/-- Checks of two keys, some of them in a window of no length, with sweeps in between. -/
def sampleChecks : List Check :=
  [⟨0, ⟨1, 10, some "k"⟩, "", ""⟩, ⟨1, ⟨2, 0, none⟩, "e", "r"⟩, ⟨4, ⟨1, 99, some "k"⟩, "", ""⟩,
    ⟨4, ⟨2, 0, none⟩, "e", "r"⟩, ⟨10, ⟨1, 5, some "k"⟩, "", ""⟩]

theorem hits_counted_by_window_iff_swept :
    Clocked (sampleChecks.map Check.hit) ∧ (∀ c ∈ sampleChecks, c.hit.Fits) ∧
      (MemoryStore.empty 3).answersOf (sampleChecks.map Check.hit) "k" =
        [.done 1, .done 2, .done 1] ∧
      outcomesOf (.memory (.empty 3)) sampleChecks "k" = [.done (), .refused tooMany, .done ()] ∧
      (decisions (.memory (.empty 3)) sampleChecks).eraseIdx 2 =
        decisions (.memory (.empty 3)) (sampleChecks.eraseIdx 2) := by
  have hclock : Clocked (sampleChecks.map Check.hit) := by simp [sampleChecks, Clocked]
  have hfits : ∀ c ∈ sampleChecks, c.hit.Fits := by decide
  have hmax : ∀ c ∈ sampleChecks, c.limit.max = if c.key = "k" then 1 else 2 := by decide
  have hwindows : windows ((sampleChecks.map Check.hit).filter (·.key = "k")) =
      [[⟨0, "k", 10⟩, ⟨4, "k", 99⟩], [⟨10, "k", 5⟩]] := by
    have hkey : (sampleChecks.map Check.hit).filter (·.key = "k") =
        [⟨0, "k", 10⟩, ⟨4, "k", 99⟩, ⟨10, "k", 5⟩] := by decide
    rw [hkey]
    simp [windows]
  obtain ⟨hcounts, hlimits⟩ := hits_counted_by_window_iff 3
  obtain ⟨houtcomes, herase⟩ :=
    hlimits (fun key => if key = "k" then 1 else 2) sampleChecks hclock hmax
  refine ⟨hclock, hfits, ?_, ?_, ?_⟩
  · rw [(hcounts _ hclock).2 (List.forall_mem_map.2 hfits), hwindows]
    rfl
  · rw [houtcomes.2 hfits, hwindows]
    rfl
  · exact herase (sampleChecks.take 2) ⟨4, ⟨1, 99, some "k"⟩, "", ""⟩ (sampleChecks.drop 3) rfl
      rfl

/-- The first hit of a key, in a window whose end no clock reads, is not counted, and neither is the
first hit of another key behind it. -/
theorem endless_window_not_counted :
    Clocked [⟨0, "a", endless⟩, ⟨1, "b", 1⟩] ∧
      (MemoryStore.empty 60000000000).answers [⟨0, "a", endless⟩, ⟨1, "b", 1⟩] =
        [(⟨0, "a", endless⟩, .crashed), (⟨1, "b", 1⟩, .refused .poisoned)] ∧
      windows [⟨0, "a", endless⟩] = [[⟨0, "a", endless⟩]] ∧
      windows [⟨1, "b", 1⟩] = [[⟨1, "b", 1⟩]] := by
  refine ⟨by simp [Clocked], by decide, ?_, ?_⟩
  · simp [windows]
  · simp [windows]

end RestKit.RateLimit
