import CardBridge.Card.Basic

/-!
# Simulated cards

A simulator runs inside the program. It can only fail while it processes an
APDU, so everything else succeeds until the card is ejected.
-/

namespace CardBridge

namespace Simulator

/-- What a simulator can do. -/
inductive Ask where
  | atr
  | process (apdu : Bytes)
  | reset
  | destroy

abbrev Answer : Ask → Type
  | .atr => Bytes
  | .process _ => Except CardError Bytes
  | .reset => Unit
  | .destroy => Unit

end Simulator

abbrev Simulator : Interface :=
  ⟨Simulator.Ask, Simulator.Answer⟩

namespace Simulator

def name : String := "simulator"

def perform : Dialogue.Layer Simulator Card Bool
  | .powerOff, true => .done (.ok (), true)
  | .eject, true => .done (.ok (), true)
  | _, true => .done (.error .ejected, true)
  | .powerOn, false => .done (.ok (), false)
  | .powerOff, false => .ask .reset fun () => .done (.ok (), false)
  | .reset, false => .ask .reset fun () => .done (.ok (), false)
  | .atr, false => .ask .atr fun atr => .done (.ok atr, false)
  | .transmit apdu, false =>
    .ask (.process apdu) fun response => .done (response, false)
  | .eject, false => .ask .destroy fun () => .done (.ok (), true)

def dummyAtr : Bytes :=
  [0x3B, 0x68, 0x00, 0xFF, 0x38, 0x2B, 0x41, 0x52, 0x44, 0x6E, 0x73, 0x73]

/-- The response of the built-in card to every command: something went
wrong, and there is nothing to say about it. -/
def dummyResponse : Bytes := [0x6F, 0x00]

/-- The built-in card. It has no state at all. -/
def dummy : Dialogue.Machine Simulator Unit
  | .atr, () => (dummyAtr, ())
  | .process _, () => (.ok dummyResponse, ())
  | .reset, () => ((), ())
  | .destroy, () => ((), ())

end Simulator

end CardBridge
