import RestKit.Http.Remote
import RestKit.Proofs.RateLimit.Counter
import RestKit.RateLimit.Limit
/-!
# Budgets without a key of their own

A limit without a key counts under the endpoint's name and the client's address, joined by a mark
that either may hold. So two budgets are one exactly if endpoint and address agree, or if one
endpoint's name goes on behind the other's, by as much as the addresses differ
(`default_budget_shared_iff`).
-/
namespace RestKit.RateLimit

open Http (Headers remoteIp)

variable {endpoint endpoint' address address' : String}

/-! ## Keys -/

/-- The second endpoint's name goes on behind the first's with what stands before the second's
address in the first's. -/
def GoesOn (endpoint address endpoint' address' : String) : Prop :=
  ∃ between, endpoint' = endpoint ++ "_" ++ between ∧ address = between ++ "_" ++ address'

/-- Two texts that are joined with a mark are the same if their parts are, or if one is cut at an
earlier mark than the other. -/
theorem append_mark_eq_iff {as bs cs ds : List Char} {mark : Char} :
    as ++ mark :: bs = cs ++ mark :: ds ↔ (as = cs ∧ bs = ds) ∨
      (∃ between, cs = as ++ mark :: between ∧ bs = between ++ mark :: ds) ∨
        ∃ between, as = cs ++ mark :: between ∧ ds = between ++ mark :: bs := by
  constructor
  · intro h
    rcases List.append_eq_append_iff.1 h with ⟨between, rfl, hbetween⟩ | ⟨between, rfl, hbetween⟩
    · cases between with
      | nil => exact .inl ⟨by simp, by simpa using hbetween⟩
      | cons c between =>
        obtain ⟨rfl, rfl⟩ := List.cons.inj hbetween
        exact .inr (.inl ⟨between, rfl, rfl⟩)
    · cases between with
      | nil => exact .inl ⟨by simp, by simpa using hbetween.symm⟩
      | cons c between =>
        obtain ⟨rfl, rfl⟩ := List.cons.inj hbetween
        exact .inr (.inr ⟨between, rfl, rfl⟩)
  · rintro (⟨rfl, rfl⟩ | ⟨between, rfl, rfl⟩ | ⟨between, rfl, rfl⟩) <;> simp

theorem toList_joined (a b : String) : (a ++ "_" ++ b).toList = a.toList ++ '_' :: b.toList := by
  simp

theorem goesOn_iff : GoesOn endpoint address endpoint' address' ↔ ∃ between : List Char,
    endpoint'.toList = endpoint.toList ++ '_' :: between ∧
      address.toList = between ++ '_' :: address'.toList := by
  constructor
  · rintro ⟨between, rfl, rfl⟩
    exact ⟨between.toList, toList_joined .., toList_joined ..⟩
  · rintro ⟨between, hendpoint, haddress⟩
    refine ⟨String.ofList between, ?_, ?_⟩ <;> rw [← String.toList_inj, toList_joined,
      String.toList_ofList]
    · exact hendpoint
    · exact haddress

theorem defaultKey_eq_iff : defaultKey endpoint address = defaultKey endpoint' address' ↔
    (endpoint = endpoint' ∧ address = address') ∨
      GoesOn endpoint address endpoint' address' ∨ GoesOn endpoint' address' endpoint address := by
  rw [defaultKey, defaultKey, ← String.toList_inj, toList_joined, toList_joined,
    append_mark_eq_iff, String.toList_inj, String.toList_inj, goesOn_iff, goesOn_iff]

/-! ## Budgets -/

/-- A limit leaves its key to the endpoint and the client. -/
def Limit.IsDefault (l : Limit) : Prop := l.key.all String.isEmpty = true

theorem Limit.IsDefault.keyFor {l : Limit} (h : l.IsDefault) :
    l.keyFor endpoint address = defaultKey endpoint address := by
  unfold IsDefault at h
  unfold Limit.keyFor
  cases hkey : l.key with
  | none => rfl
  | some k =>
    rw [hkey] at h
    exact if_pos h

/-- The hit of a request under a default limit. -/
def Limit.hit (l : Limit) (endpoint address : String) (now : Nat) : Hit :=
  ⟨now, defaultKey endpoint address, l.window⟩

/-- A request spends of the budget of another: there are counters and limits under which the other
is checked with another outcome for its having been counted before. -/
def Spends (endpoint address endpoint' address' : String) : Prop :=
  ∃ (s : MemoryStore) (l l' : Limit) (now now' : Nat),
    l.IsDefault ∧ l'.IsDefault ∧ now ≤ now' ∧ (l.hit endpoint address now).Fits ∧
      (enforce (some l') endpoint' address' now'
        (enforce (some l) endpoint address now (.memory s)).2).1 ≠
      (enforce (some l') endpoint' address' now' (.memory s)).1

/-- A hit that fits leaves the answer to a hit of any other key as it would be. -/
theorem answer_of_ne {s : MemoryStore} {g h : Hit} (hfits : g.Fits) (hkey : g.key ≠ h.key)
    (hnow : g.now ≤ h.now) : ((s.hit g).2.hit h).1 = (s.hit h).1 := by
  cases hs : s.poisoned with
  | true => rw [MemoryStore.hit_of_poisoned (h := g) hs]
  | false =>
    have hs' : (s.hit g).2.poisoned = false := MemoryStore.poisoned_hit.2 ⟨hs, hfits⟩
    by_cases hh : h.Fits
    · rw [MemoryStore.hit_of_fits hs' hh, MemoryStore.hit_of_fits hs hh, MemoryStore.tally,
        MemoryStore.live_hit hs hfits hnow, if_neg hkey]
    · rw [MemoryStore.hit_of_not_fits hs' hh, MemoryStore.hit_of_not_fits hs hh]

theorem enforce_memory {s : MemoryStore} {l : Limit} {now : Nat} (h : l.IsDefault) :
    enforce (some l) endpoint address now (.memory s) =
      (l.outcome (s.hit (l.hit endpoint address now)).1,
        .memory (s.hit (l.hit endpoint address now)).2) := by
  rw [Limit.hit, ← h.keyFor]
  rfl

/-- The second of two hits of a key finds a budget of one used up. -/
theorem spends_of_eq (h : defaultKey endpoint address = defaultKey endpoint' address') :
    Spends endpoint address endpoint' address' := by
  let s : MemoryStore := {}
  let l : Limit := ⟨1, 1, none⟩
  have hl : l.IsDefault := rfl
  have hfits : (l.hit endpoint address 0).Fits := show 0 + 1 < Clock.bound by decide
  have hs : (s.hit (l.hit endpoint address 0)).2.poisoned = false :=
    MemoryStore.poisoned_hit.2 ⟨rfl, hfits⟩
  have hfirst : (s.hit (l.hit endpoint address 0)).1 = .done 1 := by
    rw [MemoryStore.hit_of_fits rfl hfits]
    rfl
  have hsecond : ((s.hit (l.hit endpoint address 0)).2.hit (l.hit endpoint address 0)).1 =
      .done 2 := by
    rw [MemoryStore.hit_of_fits hs hfits, MemoryStore.tally,
      MemoryStore.live_hit rfl hfits (Nat.le_refl _), if_pos rfl]
    rfl
  have hsame : l.hit endpoint' address' 0 = l.hit endpoint address 0 := by
    rw [Limit.hit, Limit.hit, h]
  refine ⟨s, l, l, 0, 0, hl, hl, Nat.le_refl 0, hfits, ?_⟩
  rw [enforce_memory hl, enforce_memory hl, enforce_memory hl, hsame, hfirst, hsecond]
  show l.outcome (.done 2) ≠ l.outcome (.done 1)
  decide

theorem spends_iff : Spends endpoint address endpoint' address' ↔
    defaultKey endpoint address = defaultKey endpoint' address' := by
  constructor
  · rintro ⟨s, l, l', now, now', hl, hl', hnow, hfits, hne⟩
    by_contra hkey
    rw [enforce_memory hl, enforce_memory hl', enforce_memory hl'] at hne
    exact hne (congrArg l'.outcome (answer_of_ne hfits hkey hnow))
  · exact spends_of_eq

/-! ## Clients -/

/-- **Whose requests share a budget.** A request to one endpoint spends of the default budget of a
request to another exactly if the two keys are the same. They are the same for one endpoint and one
address, and also where one endpoint's name goes on behind the other's and the addresses, which a
client may name in a header, make up for it. -/
theorem default_budget_shared_iff (endpoint endpoint' : String) (headers headers' : Headers)
    (peer peer' : Option String) :
    let address := remoteIp headers peer
    let address' := remoteIp headers' peer'
    (Spends endpoint address endpoint' address' ↔
      defaultKey endpoint address = defaultKey endpoint' address') ∧
    (defaultKey endpoint address = defaultKey endpoint' address' ↔
      (endpoint = endpoint' ∧ address = address') ∨
        GoesOn endpoint address endpoint' address' ∨
          GoesOn endpoint' address' endpoint address) :=
  ⟨spends_iff, defaultKey_eq_iff⟩

/-- The forwarded address `b_10.0.0.1` at the endpoint `a` spends of the budget of `10.0.0.1` at
the endpoint `a_b`. -/
theorem forwarded_address_shares_budget :
    let address := remoteIp (Headers.ofPairs [("X-Forwarded-For", "b_10.0.0.1")]) none
    let address' := remoteIp (Headers.ofPairs [("X-Forwarded-For", "10.0.0.1")]) none
    defaultKey "a" address = defaultKey "a_b" address' ∧ "a" ≠ "a_b" ∧ address ≠ address' ∧
      Spends "a" address "a_b" address' := by
  have hkey : defaultKey "a" (remoteIp (Headers.ofPairs [("X-Forwarded-For", "b_10.0.0.1")]) none) =
      defaultKey "a_b" (remoteIp (Headers.ofPairs [("X-Forwarded-For", "10.0.0.1")]) none) := by
    decide +kernel
  exact ⟨hkey, by decide, by decide +kernel, spends_of_eq hkey⟩

end RestKit.RateLimit
