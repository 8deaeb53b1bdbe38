import RestKit.Api.Error
import RestKit.Api.Outcome
import RestKit.Dict
import RestKit.Time.Clock
/-!
# Counter stores

A store counts the hits of a key within a window. The window opens with the key's first hit and the
count starts anew once it has passed. `MemoryStore` drops expired counters from time to time, at
most once in each sweep interval, and keeps its counters behind a lock: a hit whose window ends
where the clock has no reading crashes with the lock held, and after that no hit is counted any
more. A `RemoteStore` answers as it pleases.
-/
namespace RestKit.RateLimit

/-- Why a store has not counted (`RateLimitError`). -/
inductive StoreError where
  | unavailable (cause : String)
  /-- The lock was held in a crash. -/
  | poisoned
deriving DecidableEq, Repr

/-- The error of a store that has not counted; its cause is not shown. -/
def StoreError.toApi (_cause : StoreError) : ApiError :=
  .internal "An error occurred while processing your request"

/-- A hit that a store is to count: when, under which key, and how long a window lasts that it
opens. -/
structure Hit where
  now : Nat
  key : String
  window : Nat
deriving DecidableEq, Repr

/-- A window that the hit opens ends where the clock has a reading. -/
def Hit.Fits (h : Hit) : Prop := h.now + h.window < Clock.bound

instance (h : Hit) : Decidable h.Fits := inferInstanceAs (Decidable (_ < _))

/-! ## The store of the process -/

/-- The hits of a key in its open window (`Counter`). -/
structure Counter where
  count : Nat
  expiresAt : Nat
deriving DecidableEq, Repr

/-- A counter is live until the clock reads its expiry. -/
def Counter.isLive (c : Counter) (now : Nat) : Bool := now < c.expiresAt

/-- The counters of the process, with the time of the last sweep (`MemoryStore`). -/
structure MemoryStore where
  entries : Dict Counter := {}
  lastSweep : Option Nat := none
  sweepInterval : Nat := 60000000000
  /-- A hit has crashed. -/
  poisoned : Bool := false
deriving DecidableEq, Repr

namespace MemoryStore

/-- The number of counters, as far as the store still tells it (`len`). -/
def size (s : MemoryStore) : Nat := if s.poisoned then 0 else s.entries.size

/-- Whether a sweep is due. -/
def isDue (s : MemoryStore) (now : Nat) : Bool :=
  match s.lastSweep with
  | some last => s.sweepInterval ≤ now - last
  | none => true

/-- Drop the expired counters, if a sweep is due. -/
def sweep (s : MemoryStore) (now : Nat) : MemoryStore :=
  if s.isDue now then
    { s with entries := s.entries.filter fun e => e.2.isLive now, lastSweep := some now }
  else s

/-- The counter of a key after a hit; an expired or absent one opens a new window. -/
def counted (s : MemoryStore) (now : Nat) (key : String) (windowEnd : Nat) : Counter :=
  match s.entries.get? key with
  | some c => if c.isLive now then { c with count := c.count + 1 } else ⟨1, windowEnd⟩
  | none => ⟨1, windowEnd⟩

/-- Count a hit and give its count (`incr_and_expire_if_new`). The end of a window is computed for
every hit, also for one that opens none, and after the sweep. -/
def hit (s : MemoryStore) (h : Hit) : Outcome StoreError Nat × MemoryStore :=
  if s.poisoned then (.refused .poisoned, s)
  else
    let s := s.sweep h.now
    match Clock.after? h.now h.window with
    | none => (.crashed, { s with poisoned := true })
    | some windowEnd =>
      let c := s.counted h.now h.key windowEnd
      (.done c.count, { s with entries := s.entries.insert h.key c })

end MemoryStore

/-! ## Stores elsewhere -/

/-- A store elsewhere. Its state is what it has received, and it may answer a hit by all of it. -/
structure RemoteStore where
  received : List Hit := []
  answer : List Hit → Hit → Outcome StoreError Nat

namespace RemoteStore

def hit (s : RemoteStore) (h : Hit) : Outcome StoreError Nat × RemoteStore :=
  (s.answer s.received h, { s with received := s.received ++ [h] })

/-- The store that runs a machine from some state on. -/
def ofMachine {τ : Type} (step : τ → Hit → Outcome StoreError Nat × τ) (start : τ) :
    RemoteStore where
  answer received h := (step (received.foldl (fun t g => (step t g).2) start) h).1

end RemoteStore

/-- The store that limits are counted in (`RateLimitStore`). -/
inductive Store where
  | memory (s : MemoryStore)
  | remote (s : RemoteStore)

/-- Count a hit. -/
def Store.hit (s : Store) (h : Hit) : Outcome StoreError Nat × Store :=
  match s with
  | .memory m => ((m.hit h).1, .memory (m.hit h).2)
  | .remote r => ((r.hit h).1, .remote (r.hit h).2)

end RestKit.RateLimit
