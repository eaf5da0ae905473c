/-!
# Spans of time
-/

namespace CardBridge

/-- A span of time, counted in nanoseconds. -/
structure Duration where
  nanoseconds : Nat
  deriving Repr, DecidableEq

namespace Duration

def ofSeconds (n : Nat) : Duration :=
  ⟨n * 1000000000⟩

def ofMillis (n : Nat) : Duration :=
  ⟨n * 1000000⟩

def seconds (d : Duration) : Nat :=
  d.nanoseconds / 1000000000

/-- The nanoseconds beyond the whole seconds. -/
def subsecNanos (d : Duration) : Nat :=
  d.nanoseconds % 1000000000

def millis (d : Duration) : Nat :=
  d.nanoseconds / 1000000

/-- A fraction in decimal digits, without the zeros at its end. -/
def fraction (places value : Nat) : String :=
  let digits := Nat.toDigits 10 value
  let all := List.replicate (places - digits.length) '0' ++ digits
  let kept := (all.reverse.dropWhile (· = '0')).reverse
  if kept.isEmpty then "" else String.ofList ('.' :: kept)

/-- A span in the largest unit of which it has one at least. -/
def describe (d : Duration) : String :=
  let n := d.nanoseconds
  if 1000000000 ≤ n then
    s!"{n / 1000000000}{fraction 9 (n % 1000000000)}s"
  else if 1000000 ≤ n then s!"{n / 1000000}{fraction 6 (n % 1000000)}ms"
  else if 1000 ≤ n then s!"{n / 1000}{fraction 3 (n % 1000)}µs"
  else s!"{n}ns"

end Duration

end CardBridge
