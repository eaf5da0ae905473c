import CardBridge.Duration
import CardBridge.Stream.Basic
import CardBridge.Transport.Error

/-!
# Sockets

An established connection: a stream in both directions, its settings, and
the right to shut it down.
-/

namespace CardBridge

namespace Socket

/-- The operations on an established connection. -/
inductive Ask where
  | stream (q : Stream.Ask)
  /-- Send small pieces at once, or collect them. -/
  | noDelay (on : Bool)
  /-- Bound the time of one read, or wait for ever. -/
  | readTimeout (bound : Option Duration)
  | writeTimeout (bound : Option Duration)
  /-- Get one more handle to the same connection. -/
  | duplicate
  | shutdown

abbrev Answer : Ask → Type
  | .stream q => Stream.Answer q
  | _ => Except IoError Unit

end Socket

abbrev Socket : Interface :=
  ⟨Socket.Ask, Socket.Answer⟩

namespace Socket

variable {α : Type}

def ask (q : Ask) : Dialogue Socket (Answer q) :=
  @Dialogue.question Socket q

def talk : Dialogue Stream α → Dialogue Socket α :=
  Dialogue.embed Ask.stream fun _ answer => answer

def setNoDelay : Dialogue Socket (Except TransportError Unit) := do
  return (← ask (.noDelay true)).mapError .io

def setReadTimeout (bound : Option Duration) :
    Dialogue Socket (Except TransportError Unit) := do
  return (← ask (.readTimeout bound)).mapError .io

def setWriteTimeout (bound : Option Duration) :
    Dialogue Socket (Except TransportError Unit) := do
  return (← ask (.writeTimeout bound)).mapError .io

def duplicate : Dialogue Socket (Except TransportError Unit) := do
  return (← ask .duplicate).mapError .io

/-- Ends both directions. A connection that is gone already counts as shut
down. -/
def shutdown : Dialogue Socket (Except TransportError Unit) := do
  match ← ask .shutdown with
  | .ok () => return .ok ()
  | .error cause =>
    return if cause.kind = .notConnected then .ok () else .error (.io cause)

end Socket

end CardBridge
