/-!
# Outcomes

How a call ends that an application or another service answers: it may answer or refuse, but it may
also crash, or never come back. A call that never comes back is given up at a deadline, if there is
one.
-/
namespace RestKit

inductive Outcome (ε α : Type) where
  | done (x : α)
  | refused (e : ε)
  | crashed
  | pending
deriving DecidableEq, Repr

namespace Outcome

def ofExcept {ε α : Type} : Except ε α → Outcome ε α
  | .ok x => .done x
  | .error e => .refused e

def map {ε α β : Type} (f : α → β) : Outcome ε α → Outcome ε β
  | .done x => .done (f x)
  | .refused e => .refused e
  | .crashed => .crashed
  | .pending => .pending

def mapError {ε δ α : Type} (f : ε → δ) : Outcome ε α → Outcome δ α
  | .done x => .done x
  | .refused e => .refused (f e)
  | .crashed => .crashed
  | .pending => .pending

/-- Give a pending call up with an error, if it has a deadline. -/
def within {ε α : Type} (deadline : Option Nat) (late : ε) : Outcome ε α → Outcome ε α
  | .pending => if deadline.isSome then .refused late else .pending
  | o => o

end Outcome
end RestKit
