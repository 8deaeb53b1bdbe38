/-!
# The clock

Times are readings of one clock, in nanoseconds. The whole seconds of a reading are kept in 64
signed bits, so not every time can be one: a sum of a reading and a duration may lie behind the last
reading there is.
-/
namespace RestKit.Clock

/-- The readings lie below this bound. -/
def bound : Nat := Nat.pow 2 63 * Nat.pow 10 9

/-- The reading after a duration, if there is one. -/
def after? (now duration : Nat) : Option Nat :=
  if now + duration < bound then some (now + duration) else none

end RestKit.Clock
