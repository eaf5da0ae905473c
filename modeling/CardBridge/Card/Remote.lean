import CardBridge.Card.Basic
import CardBridge.Frame.Receive
import CardBridge.Frame.Send
import CardBridge.Transport.Socket

/-!
# Remote cards

A card at the other end of a connection. This side plays the reader: it
sends control commands and APDUs, and waits for one frame after the question
for the answer to reset and after each APDU.
-/

namespace CardBridge

/-- What this side knows of a remote card. -/
structure Remote where
  /-- The octets of an answer that has not arrived in full. -/
  buffer : Bytes := []
  ejected : Bool := false
  deriving Repr, DecidableEq

namespace Remote

def name : String := "relay"

/-- Takes over an established connection to a card. Nothing is sent. -/
def attach : Dialogue Socket (Except CardError Remote) := do
  match ← Socket.setNoDelay with
  | .error e => return .error (.transport e)
  | .ok () =>
    match ← Socket.duplicate with
    | .error e => return .error (.transport e)
    | .ok () =>
      match ← Socket.duplicate with
      | .error e => return .error (.transport e)
      | .ok () => return .ok {}

/-- A failed wait for an answer: the end of the stream means that the card
is gone. -/
def hearing : FrameError → CardError
  | .connectionClosed => .remoteClosed
  | e => .frame e

def tell (send : Dialogue Stream (Except FrameError Unit)) :
    Dialogue Socket (Except CardError Unit) := do
  return (← Socket.talk send).mapError .frame

/-- Sends a frame and waits for the one that answers it. -/
def converse (rounds : Nat) (send : Dialogue Stream (Except FrameError Unit))
    (card : Remote) : Dialogue Socket (Except CardError Bytes × Remote) := do
  match ← tell send with
  | .error e => return (.error e, card)
  | .ok () =>
    let (result, buffer) ← Socket.talk (Frame.receive rounds card.buffer)
    return (result.mapError hearing, { card with buffer })

/-- Sends a control command that is not answered. -/
def command (rounds : Nat) (command : ControlCommand) (card : Remote) :
    Dialogue Socket (Except CardError Unit × Remote) := do
  return (← tell (Frame.sendControl rounds command), card)

/-- Carries out an operation on a remote card. Ejecting ends the connection
once, and counts even if that fails. -/
def perform (rounds : Nat) : Dialogue.Layer Socket Card Remote :=
  fun op card =>
    match op, card.ejected with
    | .powerOff, true => .done (.ok (), card)
    | .eject, true => .done (.ok (), card)
    | _, true => .done (.error .ejected, card)
    | .powerOn, false => command rounds .powerOn card
    | .powerOff, false => command rounds .powerOff card
    | .reset, false => command rounds .reset card
    | .atr, false => converse rounds (Frame.sendControl rounds .getAtr) card
    | .transmit apdu, false =>
      converse rounds (Frame.sendApdu rounds apdu) card
    | .eject, false => do
      return ((← Socket.shutdown).mapError .transport,
        { card with ejected := true })

end Remote

end CardBridge
