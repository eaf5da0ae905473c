/-!
# Log records

What the bridge reports for the people who run it, beside its results.
-/

namespace CardBridge.Log

/-- How urgent a record is. -/
inductive Level where
  | error
  | warn
  | info
  | debug
  | trace
  deriving Repr, DecidableEq

/-- The levels by their urgency, the most urgent first. -/
def Level.rank : Level → Nat
  | error => 0
  | warn => 1
  | info => 2
  | debug => 3
  | trace => 4

/-- Whether records of some level are written when `least` is the least
urgent level that is. -/
def Level.admits (least level : Level) : Bool :=
  level.rank ≤ least.rank

/-- The value of a field: numbers stay numbers. -/
inductive Value where
  | number (value : Nat)
  | text (value : String)
  deriving Repr, DecidableEq

/-- One log record. -/
structure Record where
  level : Level
  message : String
  fields : List (String × Value)
  deriving Repr, DecidableEq

end CardBridge.Log
