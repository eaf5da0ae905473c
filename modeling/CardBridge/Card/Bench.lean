import CardBridge.Card.Remote
import CardBridge.Card.Scripted
import CardBridge.Transport.Link

/-!
# Cards on the bench

A card of any kind over scripted surroundings, with notes of what was asked
of the simulator or the tag underneath it.
-/

namespace CardBridge.Card

/-- A card of some kind, and the state of what lies underneath it. -/
inductive Bench where
  | dummy (state : Bool × Unit)
  | simulated
    (state : Bool × ScriptedSimulator × List (Dialogue.Exchange Simulator))
  | contactless (state : Bool × ScriptedTag × List (Dialogue.Exchange Tag))
  | plain (card : ScriptedCard)
  | remote (state : Remote × Transport.Link)

namespace Bench

def name : Bench → String
  | dummy _ => Simulator.name
  | simulated _ => Simulator.name
  | contactless _ => Proximity.name
  | plain _ => "mock"
  | remote _ => Remote.name

/-- The size of what an operation sends. -/
def payloadSize : Operation → Nat
  | .transmit apdu => apdu.length
  | _ => 1

/-- Carries out an operation on a card of any kind. -/
def handler : Dialogue.Handler Card Bench
  | op, dummy state =>
    let (answer, state) :=
      Dialogue.Layer.over Simulator.perform Simulator.dummy.handler op state
    (answer, dummy state)
  | op, simulated state =>
    let (answer, state) :=
      Dialogue.Layer.over Simulator.perform
        ScriptedSimulator.machine.handler.noted op state
    (answer, simulated state)
  | op, contactless state =>
    let (answer, state) :=
      Dialogue.Layer.over Proximity.perform
        ScriptedTag.machine.handler.noted op state
    (answer, contactless state)
  | op, plain card =>
    let (answer, card) := ScriptedCard.machine op card
    (some answer, plain card)
  | op, remote state =>
    let rounds := state.2.span (payloadSize op)
    let (answer, state) :=
      Dialogue.Layer.over (Remote.perform rounds) Transport.Link.handler
        op state
    (answer, remote state)

/-- Takes over a tag, which is asked for a bound on its exchanges first. -/
def openContactless (tag : ScriptedTag) (timeout : Duration) :
    Except CardError Unit × Bench :=
  let (result, state) :=
    (Proximity.openTag timeout).run ScriptedTag.machine.handler.noted (tag, [])
  (result.getD (.ok ()), contactless (false, state))

/-- Takes over a connection to a remote card, which is given power if it was
dialed. -/
def openRemote (link : Transport.Link) (dialed : Bool) :
    Option (Except CardError Bench) :=
  match Remote.attach.run Transport.Link.handler link with
  | (some (.ok card), link) =>
    let bench := remote (card, link)
    if dialed then
      match handler .powerOn bench with
      | (some (.ok ()), bench) => some (.ok bench)
      | (some (.error e), _) => some (.error e)
      | (none, _) => none
    else some (.ok bench)
  | (some (.error e), _) => some (.error e)
  | (none, _) => none

/-- What the card noted for the people who run the bridge. -/
def log : Bench → List Log.Record
  | contactless (_, tag, _) => tag.log
  | _ => []

/-- The same card with empty notes. -/
def unnoted : Bench → Bench
  | simulated (ejected, simulator, _) => simulated (ejected, simulator, [])
  | contactless (ejected, tag, _) => contactless (ejected, tag, [])
  | bench => bench

end Bench

end CardBridge.Card
