import CardBridge.Card.Atr
import CardBridge.Card.Basic
import CardBridge.Card.TypeB
import CardBridge.Duration

/-!
# Contactless cards

A tag in the field is powered by the field and cannot be reset. Giving it
power does nothing; taking the power away and resetting select the master
file instead.
-/

namespace CardBridge

namespace Tag

/-- What a connected tag can do. -/
inductive Ask where
  | setTimeout (timeout : Duration)
  | transceive (apdu : Bytes)
  | historicalBytes
  | typeBInfo
  /-- Give the length of the longest message that can be sent. -/
  | maxLength
  | close
  | log (record : Log.Record)

abbrev Answer : Ask → Type
  | .setTimeout _ => Except CardError Unit
  | .transceive _ => Except CardError Bytes
  | .historicalBytes => Option Bytes
  | .typeBInfo => Option TypeB.Info
  | .maxLength => UInt64
  | .close => Except CardError Unit
  | .log _ => Unit

end Tag

abbrev Tag : Interface :=
  ⟨Tag.Ask, Tag.Answer⟩

def Tag.ask (q : Tag.Ask) : Dialogue Tag (Tag.Answer q) :=
  @Dialogue.question Tag q

namespace Proximity

def name : String := "proximity"

/-- Select the master file: the stand-in for a reset. -/
def selectMasterFile : Bytes := [0x00, 0xA4, 0x00, 0x0C]

/-- The time of one exchange, unless another is asked for. -/
def defaultTimeout : Duration := .ofMillis 500

/-- Takes over a connected tag. -/
def openTag (timeout : Duration) : Dialogue Tag (Except CardError Unit) :=
  Tag.ask (.setTimeout timeout)

/-- The historical bytes to present: those of a Type A tag, else those made
of Type B data, else none. -/
def historical : Dialogue Tag Bytes := do
  match ← Tag.ask .historicalBytes with
  | some bytes => return bytes
  | none =>
    match ← Tag.ask .typeBInfo with
    | none => return []
    | some info =>
      let maxLength ← Tag.ask .maxLength
      return (TypeB.historical? info maxLength).getD []

def atr : Dialogue Tag Bytes := do
  let bytes ← historical
  if let some record := Atr.warning? bytes then
    Tag.ask (.log record)
  return Atr.synthesize bytes

/-- Selects the master file, and does not care what the tag says to it. -/
def select : Dialogue Tag (Except CardError Unit) := do
  let response ← Tag.ask (.transceive selectMasterFile)
  return response.map fun _ => ()

/-- Carries out an operation on a contactless card, which may have been
`ejected` before. Ejecting lets go of the tag once, and counts even if that
fails. -/
def perform : Dialogue.Layer Tag Card Bool
  | .powerOff, true => .done (.ok (), true)
  | .eject, true => .done (.ok (), true)
  | _, true => .done (.error .ejected, true)
  -- the field of the reader gives power as long as the tag is there
  | .powerOn, false => .done (.ok (), false)
  | .powerOff, false => return (← select, false)
  | .reset, false => return (← select, false)
  | .atr, false => return (.ok (← atr), false)
  | .transmit apdu, false => return (← Tag.ask (.transceive apdu), false)
  | .eject, false => return (← Tag.ask .close, true)

end Proximity

end CardBridge
