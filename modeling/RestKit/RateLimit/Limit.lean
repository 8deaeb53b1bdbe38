import RestKit.RateLimit.Store
/-!
# Rate limits

A limit bounds the hits of a key in a window. `enforce` counts a hit and refuses it when the count
has passed the limit.
-/
namespace RestKit.RateLimit

/-- How many hits of a key a window admits (`RateLimit`). -/
structure Limit where
  max : Nat
  /-- The length of the window, in nanoseconds. -/
  window : Nat
  /-- The counter's key; without one the key is that of the endpoint and the client. -/
  key : Option String := none
deriving DecidableEq, Repr

/-- The counter's key of an endpoint and a client (`default_key`). -/
def defaultKey (endpoint remoteIp : String) : String := endpoint ++ "_" ++ remoteIp

def Limit.keyFor (l : Limit) (endpoint remoteIp : String) : String :=
  match l.key with
  | some k => if k.isEmpty then defaultKey endpoint remoteIp else k
  | none => defaultKey endpoint remoteIp

def tooMany : ApiError := .tooManyRequests "Too many requests, please try again later"

/-- Whether a count passes a limit. -/
def Limit.check (l : Limit) (count : Nat) : Outcome ApiError Unit :=
  if count > l.max then .refused tooMany else .done ()

/-- What a limit makes of a store's answer. -/
def Limit.outcome (l : Limit) : Outcome StoreError Nat → Outcome ApiError Unit
  | .done n => l.check n
  | .refused e => .refused e.toApi
  | .crashed => .crashed
  | .pending => .pending

/-- Count a hit under a limit (`enforce`); no limit, no count. -/
def enforce (limit : Option Limit) (endpoint remoteIp : String) (now : Nat) (store : Store) :
    Outcome ApiError Unit × Store :=
  match limit with
  | none => (.done (), store)
  | some l =>
    let (answer, store) := store.hit ⟨now, l.keyFor endpoint remoteIp, l.window⟩
    (l.outcome answer, store)

end RestKit.RateLimit
