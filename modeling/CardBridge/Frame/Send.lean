import CardBridge.Frame.Basic
import CardBridge.Request
import CardBridge.Stream.Basic

/-!
# Sending frames

A frame is offered in full, then flushed, before a call returns, so the peer
never waits for the second half of an answer. Nothing is kept between two
calls: what a failed call did not send is never sent.
-/

namespace CardBridge.Frame

/-- Pushes out what the stream accepted. -/
def flush : (rounds : Nat) → Dialogue Stream (Except FrameError Unit)
  | 0 => .cut
  | rounds + 1 => .ask .flush fun
    | .ok () => .done (.ok ())
    | .error cause =>
      if cause.isInterrupted then flush rounds
      else .done (.error (.io cause))

/-- Offers `pending` until all of it is accepted, then flushes. A stream
that accepts nothing is closed. -/
def write : (rounds : Nat) → (pending : Bytes) →
    Dialogue Stream (Except FrameError Unit)
  | 0, _ => .cut
  | rounds + 1, [] => flush (rounds + 1)
  | rounds + 1, pending => .ask (.send pending) fun
    | .ok 0 => .done (.error .connectionClosed)
    | .ok accepted => write rounds (pending.drop accepted)
    | .error cause =>
      if cause.isInterrupted then write rounds pending
      else .done (.error (.io cause))

/-- Sends `payload` as one frame. A payload that is too large is refused
before anything is offered. -/
def send (rounds : Nat) (payload : Bytes) :
    Dialogue Stream (Except FrameError Unit) :=
  match encode payload [] with
  | .ok encoded => write rounds encoded
  | .error refusal => .done (.error refusal)

def sendControl (rounds : Nat) (command : ControlCommand) :
    Dialogue Stream (Except FrameError Unit) :=
  send rounds [command.code]

/-- Sends an APDU. One of a single byte is refused, because the peer would
take it for a control command. -/
def sendApdu (rounds : Nat) (apdu : Bytes) :
    Dialogue Stream (Except FrameError Unit) :=
  if apdu.length = 1 then .done (.error .ambiguousApdu)
  else send rounds apdu

end CardBridge.Frame
