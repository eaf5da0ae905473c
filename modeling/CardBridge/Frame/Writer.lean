import CardBridge.Frame.Send

/-!
# Writers

A writer puts every frame together in one buffer, which it keeps from call to
call. The buffer is emptied before the next frame goes in, so what a call
leaves there is never sent (`Writer.carryOut_eq`).
-/

namespace CardBridge.Frame

/-- What a writer can be told to do. -/
inductive Order where
  | payload (octets : Bytes)
  /-- Send a frame that was received or made elsewhere. -/
  | frame (octets : Bytes)
  | control (command : ControlCommand)
  | apdu (octets : Bytes)
  | flush
  deriving Repr, DecidableEq

/-- Carries out an order on a writer of which nothing is known. -/
def Order.perform (rounds : Nat) :
    Order → Dialogue Stream (Except FrameError Unit)
  | .payload octets => send rounds octets
  | .frame octets => send rounds octets
  | .control command => sendControl rounds command
  | .apdu octets => sendApdu rounds octets
  | .flush => Frame.flush rounds

/-- A writer between two calls. -/
structure Writer where
  /-- What the last frame has left in the buffer. -/
  scratch : Bytes := []
  deriving Repr, DecidableEq

namespace Writer

def clear (writer : Writer) : Writer :=
  { writer with scratch := [] }

/-- Sends a payload as one frame. The frame stays in the buffer, however the
call ends. -/
def send (rounds : Nat) (payload : Bytes) (writer : Writer) :
    Dialogue Stream (Except FrameError Unit × Writer) :=
  match encode payload writer.clear.scratch with
  | .ok encoded => do
    let result ← write rounds encoded
    return (result, { writer with scratch := encoded })
  | .error refusal => .done (.error refusal, writer.clear)

/-- Carries out an order. -/
def carryOut (rounds : Nat) (writer : Writer) :
    Order → Dialogue Stream (Except FrameError Unit × Writer)
  | .payload octets => writer.send rounds octets
  | .frame octets => writer.send rounds octets
  | .control command => writer.send rounds [command.code]
  | .apdu octets =>
    if octets.length = 1 then .done (.error .ambiguousApdu, writer)
    else writer.send rounds octets
  | .flush => do return (← Frame.flush rounds, writer)

/-- A writer after a payload was sent or refused. -/
def loaded (writer : Writer) (payload : Bytes) : Writer :=
  match encode payload [] with
  | .ok encoded => { writer with scratch := encoded }
  | .error _ => writer.clear

/-- A writer after an order. -/
def after (writer : Writer) : Order → Writer
  | .payload octets => writer.loaded octets
  | .frame octets => writer.loaded octets
  | .control command => writer.loaded [command.code]
  | .apdu octets =>
    if octets.length = 1 then writer else writer.loaded octets
  | .flush => writer

theorem send_eq (rounds : Nat) (payload : Bytes) (writer : Writer) :
    writer.send rounds payload =
      (·, writer.loaded payload) <$> Frame.send rounds payload := by
  rw [send, Frame.send, loaded, clear]
  cases encode payload [] with
  | ok encoded => rfl
  | error refusal => rfl

/-- What is sent does not depend on what the buffer holds. -/
theorem carryOut_eq (rounds : Nat) (writer : Writer) (order : Order) :
    writer.carryOut rounds order =
      (·, writer.after order) <$> order.perform rounds := by
  cases order with
  | payload octets => exact writer.send_eq rounds octets
  | frame octets => exact writer.send_eq rounds octets
  | control command => exact writer.send_eq rounds [command.code]
  | apdu octets =>
    simp only [carryOut, Order.perform, sendApdu, after]
    split
    · rfl
    · exact writer.send_eq rounds octets
  | flush => rfl

end Writer

end CardBridge.Frame
