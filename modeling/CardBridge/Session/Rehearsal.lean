import CardBridge.Card.Bench
import CardBridge.Frame.Feed
import CardBridge.Session.Run
import CardBridge.Session.Token
import CardBridge.Transport.Site

/-!
# Rehearsed sessions

A session with readers that follow a script, a card on the bench, and a
token that is used at a point that was chosen before. Everything that
happens is written down, with the state of the session at that moment.
-/

namespace CardBridge.Session

/-- Something that is written down. -/
inductive Moment where
  | event (event : Event)
  | call (op : Card.Operation) (answer : Card.Answer op)
  /-- An operation on the card gave up. -/
  | gaveUp (op : Card.Operation)
  | simulator (exchange : Dialogue.Exchange Simulator)
  | tag (exchange : Dialogue.Exchange Tag)

/-- Something that was written down, and the state at that moment. -/
structure Entry where
  moment : Moment
  state : SessionState

def operationName : Card.Operation → String
  | .powerOn => "power_on"
  | .powerOff => "power_off"
  | .reset => "reset"
  | .atr => "atr"
  | .transmit _ => "transmit"
  | .eject => "eject"

/-- A kind of moment at which something can be made to happen. -/
inductive Point where
  | event (kind : String)
  | call (name : String)
  deriving DecidableEq

/-- The kind of a moment, if something can be made to happen at it. -/
def Moment.point? : Moment → Option Point
  | .event e => some (.event e.kind)
  | .call op _ => some (.call (operationName op))
  | .gaveUp op => some (.call (operationName op))
  | _ => none

/-- The moment of a kind that comes as number `nth`. -/
structure Trigger where
  point : Point
  /-- Which of them, counted from one. -/
  nth : Nat := 1

/-- A reader that follows a script. -/
structure Client where
  /-- What it sends once the session has told that it is connected. -/
  sends : Bytes
  /-- It leaves the connection open, instead of ending its side. -/
  holds : Bool := false
  /-- The session is told to stop once so many frames came back. -/
  stopsAfter : Option Nat := none

/-- The connection to a reader that has not sent anything yet. -/
def Client.link (client : Client) : Transport.Link where
  silent := client.holds || client.stopsAfter.isSome

/-- A session's surroundings, and what was written down. -/
structure Rehearsal where
  card : Card.Bench
  peer : Address := "PEER"
  /-- What dialing gives, if it is no connection. -/
  refusal : Option IoError := none
  listening : Address → Except IoError UInt16 := fun _ => .ok 0
  clients : List Client := []
  /-- The session is told to stop when the last reader is gone. -/
  endsWithLast : Bool := false
  /-- The token; the connection that it may hold is the current one. -/
  token : Token Unit := .fresh
  /-- The reader that is connected, and the connection to it. -/
  current : Option (Client × Transport.Link) := none
  /-- When the session is told to stop. -/
  stopOn : Option Trigger := none
  /-- Which call to the card gives up. -/
  unwindOn : Option Trigger := none
  state : SessionState := .idle
  trace : List Entry := []
  log : List Log.Record := []

namespace Rehearsal

def onLink (change : Transport.Link → Transport.Link) (w : Rehearsal) :
    Rehearsal :=
  { w with current := w.current.map fun (client, link) =>
      (client, change link) }

/-- Tells the session to stop: the connection that the token holds is shut
down. -/
def cancel (w : Rehearsal) : Rehearsal :=
  match w.token.cancel with
  | (some (), token) =>
    onLink (fun link => { link with shut := true }) { w with token }
  | (none, token) => { w with token }

/-- The reader sends something more. -/
def arrive (octets : Bytes) : Rehearsal → Rehearsal :=
  onLink fun link =>
    let source := link.stream.source ++ [.octets octets]
    { link with stream := { link.stream with source } }

/-- The reader sends what it has to send. What comes after the connection
was shut down does not arrive. -/
def deliver (w : Rehearsal) : Rehearsal :=
  match w.current with
  | some (client, link) => if link.shut then w else w.arrive client.sends
  | none => w

/-- How many moments of a kind were written down. -/
def count (w : Rehearsal) (point : Point) : Nat :=
  w.trace.countP fun entry => entry.moment.point? = some point

/-- Writes a moment down, and tells the session to stop if it is the one
chosen for that. -/
def note (moment : Moment) (w : Rehearsal) : Rehearsal :=
  let entry : Entry := { moment, state := w.state }
  let w := { w with trace := w.trace ++ [entry] }
  match w.stopOn, moment.point? with
  | some trigger, some point =>
    if trigger.point = point ∧ w.count point = trigger.nth then w.cancel
    else w
  | _, _ => w

/-- What was asked of what lies underneath the card. -/
def underneath : Card.Bench → List Moment
  | .simulated (_, _, exchanges) => exchanges.map .simulator
  | .contactless (_, _, exchanges) => exchanges.map .tag
  | _ => []

def call (op : Card.Operation) (w : Rehearsal) :
    Option (Attempt (Card.Answer op)) × Rehearsal :=
  let point := Point.call (operationName op)
  let unwinds := match w.unwindOn with
    | some trigger =>
      trigger.point == point && w.count point + 1 == trigger.nth
    | none => false
  if unwinds then (some .unwound, w.note (.gaveUp op))
  else
    -- what is asked underneath comes before the call that asks it
    match Card.Bench.handler op w.card.unnoted with
    | (some answer, card) =>
      let w := (underneath card).foldl (fun w m => w.note m) { w with card }
      (some (.returned answer), w.note (.call op answer))
    | (none, card) => (none, { w with card })

def connect (w : Rehearsal) : Option Rehearsal :=
  match w.clients with
  | [] => none
  | client :: clients => some { w with
      clients
      current := some (client, client.link) }

def onNetwork : (q : Network.Ask) → Rehearsal →
    Option (Network.Answer q) × Rehearsal
  | .resolve host port, w => (some (Transport.Site.lookUp host port), w)
  | .connect _ _, w =>
    match w.refusal, w.connect with
    | some cause, _ => (some (.error cause), w)
    | none, some w => (some (.ok (some w.peer)), w)
    | none, none => (none, w)
  | .listen addresses, w =>
    (some (Transport.Site.listenOnFirst w.listening addresses), w)
  | .poll _, w =>
    if w.token.isCancelled then (some (.ok none), w)
    else match w.connect with
      | some w => (some (.ok (some (some w.peer))), w)
      | none => (none, w)
  | .unpoll, w => (some (.ok ()), w)

/-- Whether the reader has got all the frames it waits for. -/
def isServed (client : Client) (link : Transport.Link) : Bool :=
  match client.stopsAfter with
  | none => false
  | some n =>
    link.stream.source.isExhausted &&
      n ≤ (Frame.drain link.stream.sink.accepted).1.length

/-- What the connection answers. Before the session waits for more, the
reader that has got what it waits for has it told to stop. -/
def onSocket (q : Socket.Ask) (w : Rehearsal) :
    Option (Socket.Answer q) × Rehearsal :=
  let w := match w.current with
    | some (client, link) => if isServed client link then w.cancel else w
    | none => w
  match w.current with
  | none => (none, w)
  | some (client, link) =>
    let (answer, link) := Transport.Link.handler q link
    (answer, { w with current := some (client, link) })

def handler : Dialogue.Handler Session Rehearsal
  | .network q, w => onNetwork q w
  | .socket q, w => onSocket q w
  | .card op, w => call op w
  | .token .isCancelled, w => (some w.token.isCancelled, w)
  | .token .register, w =>
    let (taken, token) := w.token.register ()
    (some taken, { w with token })
  | .token .clear, w => (some (), { w with token := w.token.clear })
  | .localAddresses, w => (some (.ok []), w)
  | .emit event, w =>
    let w := w.note (.event event)
    -- a reader sends when it is connected, and the last one to go ends it all
    let w := if event.kind = "connected" then w.deliver else w
    let last := w.endsWithLast && w.clients.isEmpty &&
      event.kind = "client_disconnected"
    (some (.returned ()), if last then w.cancel else w)
  | .advance next, w => (some (), { w with state := (w.state.advance next).1 })
  | .log record, w => (some (), { w with log := w.log ++ [record] })

/-- No loop of a rehearsal ends because of this many rounds. -/
def rounds : Nat := 0x100000000

/-- A session over rehearsed surroundings. -/
def session (config : SessionConfig) (w : Rehearsal) :
    Dialogue Session Outcome :=
  Session.run rounds config w.card.name

end Rehearsal

end CardBridge.Session
