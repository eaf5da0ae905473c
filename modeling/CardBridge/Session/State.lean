/-!
# The life of a session

A session moves forward only, except that one which accepts connections goes
back and forth between waiting and serving.
-/

namespace CardBridge

/-- Where a session stands in its life. -/
inductive SessionState where
  | idle
  | connecting
  | listening
  | connected
  | closing
  | closed
  deriving Repr, DecidableEq

namespace SessionState

def name : SessionState → String
  | idle => "idle"
  | connecting => "connecting"
  | listening => "listening"
  | connected => "connected"
  | closing => "closing"
  | closed => "closed"

/-- How far a session has come. Waiting and serving are equally far. -/
def rank : SessionState → Nat
  | idle => 0
  | connecting => 1
  | listening => 2
  | connected => 2
  | closing => 3
  | closed => 4

/-- Whether a session may go from one state to another. -/
def mayBecome (state next : SessionState) : Bool :=
  state.rank < next.rank ||
    (state = listening && next = connected) ||
    (state = connected && next = listening)

/-- Goes to another state, if that is allowed; says whether the session is
now in the state asked for. -/
def advance (state next : SessionState) : SessionState × Bool :=
  if state = next then (state, true)
  else if state.mayBecome next then (next, true)
  else (state, false)

end SessionState

end CardBridge
