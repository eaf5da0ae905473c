import CardBridge.Card.Proximity
import CardBridge.Card.Simulator

/-!
# Scripted cards

Simulators, tags and cards that answer what they were told to answer.
-/

namespace CardBridge.Card

/-- How a scripted card meets one command. -/
inductive Response where
  | octets (response : Bytes)
  /-- It gives the command back. -/
  | echo
  | failure (error : CardError)

/-- The answer to one command, and the responses that are left. When they
are used up the card reports success. -/
def Response.next (command : Bytes) :
    List Response → Except CardError Bytes × List Response
  | [] => (.ok [0x90, 0x00], [])
  | .octets response :: rest => (.ok response, rest)
  | .echo :: rest => (.ok command, rest)
  | .failure e :: rest => (.error e, rest)

/-- A simulator with a script. -/
structure ScriptedSimulator where
  atr : Bytes := [0x3B, 0x00]
  responses : List Response := []

def ScriptedSimulator.machine :
    Dialogue.Machine Simulator ScriptedSimulator
  | .atr, w => (w.atr, w)
  | .process apdu, w =>
    let (answer, responses) := Response.next apdu w.responses
    (answer, { w with responses })
  | .reset, w => ((), w)
  | .destroy, w => ((), w)

/-- A tag with a script. -/
structure ScriptedTag where
  historical : Option Bytes := none
  typeB : Option TypeB.Info := none
  maxLength : UInt64 := 251
  responses : List Response := []
  onSetTimeout : Except CardError Unit := .ok ()
  onClose : Except CardError Unit := .ok ()
  log : List Log.Record := []

def ScriptedTag.machine : Dialogue.Machine Tag ScriptedTag
  | .setTimeout _, w => (w.onSetTimeout, w)
  | .transceive apdu, w =>
    let (answer, responses) := Response.next apdu w.responses
    (answer, { w with responses })
  | .historicalBytes, w => (w.historical, w)
  | .typeBInfo, w => (w.typeB, w)
  | .maxLength, w => (w.maxLength, w)
  | .close, w => (w.onClose, w)
  | .log record, w => ((), { w with log := w.log ++ [record] })

/-- A card with a script. What is given for an operation holds whenever that
operation is carried out. -/
structure ScriptedCard where
  atr : Bytes := [0x3B, 0x00]
  responses : List Response := []
  onPowerOn : Except CardError Unit := .ok ()
  onPowerOff : Except CardError Unit := .ok ()
  onReset : Except CardError Unit := .ok ()
  onAtr : Except CardError Unit := .ok ()
  onEject : Except CardError Unit := .ok ()

def ScriptedCard.machine : Dialogue.Machine Card ScriptedCard
  | .powerOn, w => (w.onPowerOn, w)
  | .powerOff, w => (w.onPowerOff, w)
  | .reset, w => (w.onReset, w)
  | .atr, w => (w.onAtr.map fun () => w.atr, w)
  | .transmit apdu, w =>
    let (answer, responses) := Response.next apdu w.responses
    (answer, { w with responses })
  | .eject, w => (w.onEject, w)

end CardBridge.Card
