import CardBridge.Duration

/-!
# Points in time
-/

namespace CardBridge.Cli

/-- A point in time, in nanoseconds since some beginning. -/
structure Instant where
  nanoseconds : Nat
  deriving Repr, DecidableEq

/-- The first second that the clock cannot count any more. -/
def Instant.endOfSeconds : Nat := 0x8000000000000000

/-- The point that lies a span of time later, if the clock can count it. -/
def Instant.later? (t : Instant) (d : Duration) : Option Instant :=
  let sum := t.nanoseconds + d.nanoseconds
  if sum / 1000000000 < endOfSeconds then some ⟨sum⟩ else none

end CardBridge.Cli
