import CardBridge.Card.Remote
import CardBridge.Cli.Apdu
import CardBridge.Cli.Instant
import CardBridge.Cli.Record
import CardBridge.Cli.Timeout
import CardBridge.Session.Config
import CardBridge.Transport.Network

/-!
# Playing the reader

The command `reader` waits for a card to connect, gives it power, asks for
its answer to reset, sends it some APDUs, takes the power away, and prints
what it hears.
-/

namespace CardBridge.Cli.Reader

structure Args where
  bind : String := "0.0.0.0"
  /-- The port to listen on; 0 for any free one. -/
  port : UInt16 := defaultPort
  apdus : List String := []
  timeout : Option String := none
  deriving Repr, DecidableEq

/-- What the command asks. -/
inductive Ask where
  | network (q : Network.Ask)
  | socket (q : Socket.Ask)
  | print (record : Record)
  /-- From now on take note of interrupts, instead of dying of them. -/
  | catchInterrupts
  | interrupted
  | now
  | log (record : Log.Record)

abbrev Answer : Ask → Type
  | .network q => Network.Answer q
  | .socket q => Socket.Answer q
  | .print _ => Unit
  | .catchInterrupts => Except String Unit
  | .interrupted => Bool
  | .now => Instant
  | .log _ => Unit

abbrev Surroundings : Interface :=
  ⟨Ask, Answer⟩

/-- What ends the command early. -/
inductive Stop where
  | failure (e : Failure)
  /-- It gave up because of a point in time that the clock cannot count. -/
  | unwound
  deriving Repr, DecidableEq

/-- A part of the command, which may stop early. -/
abbrev Reading := ExceptT Stop (Dialogue Surroundings)

variable {α ε : Type}

def ask (q : Ask) : Dialogue Surroundings (Answer q) :=
  @Dialogue.question Surroundings q

/-- Goes on with a success, and stops at an error. -/
def orFail (wrap : ε → Failure) : Except ε α → Reading α
  | .ok value => pure value
  | .error e => throw (.failure (wrap e))

def onNetwork (context : String)
    (d : Dialogue Network (Except TransportError α)) : Reading α := do
  orFail (.ofTransport context)
    (← ExceptT.lift (d.embed Ask.network fun _ answer => answer))

def onSocket (d : Dialogue Socket α) : Reading α :=
  ExceptT.lift (d.embed Ask.socket fun _ answer => answer)

def print (record : Record) : Dialogue Surroundings Unit :=
  ask (.print record)

/-- How long one wait for a card lasts. -/
def pollInterval : Duration := .ofMillis 200

/-- The bound on each read and write of the connection. -/
def exchangeTimeout : Duration := .ofSeconds 10

/-- The last moment to wait for a card. -/
def deadline : Option Duration → Reading (Option Instant)
  | none => return none
  | some d => do
    match (← ask .now).later? d with
    | some t => return some t
    -- the clock cannot count that far
    | none => throw .unwound

def nobody (timeout : Option Duration) : Failure :=
  ⟨.timeout, s!"no card connected within {(timeout.getD ⟨0⟩).describe}"⟩

/-- Stops once the last moment is over. -/
def checkDeadline (timeout : Option Duration) :
    Option Instant → Reading Unit
  | none => return ()
  | some last => do
    if last.nanoseconds ≤ (← ask .now).nanoseconds then
      throw (.failure (nobody timeout))

/-- Waits for a card; none if there was an interrupt. -/
def awaitCard (timeout : Option Duration) (last : Option Instant) :
    (rounds : Nat) → Reading (Option (Option Address))
  | 0 => ExceptT.mk .cut
  | rounds + 1 => do
    if ← ask .interrupted then
      return none
    match ← onNetwork "accept failed" (Network.accept pollInterval) with
    | some peer => return some peer
    | none =>
      checkDeadline timeout last
      awaitCard timeout last rounds

/-- Sets the connection up, and takes it over as a card. -/
def attach : Reading Remote := do
  orFail (.ofTransport "socket setup failed")
    (← onSocket (Socket.setReadTimeout (some exchangeTimeout)))
  orFail (.ofTransport "socket setup failed")
    (← onSocket (Socket.setWriteTimeout (some exchangeTimeout)))
  orFail (.ofCard "card setup failed") (← onSocket Remote.attach)

def onCard (rounds : Nat) (context : String) (op : Card.Operation) :
    StateT Remote Reading (Card.Reply op) := do
  let (result, card) ←
    (onSocket (Remote.perform rounds op (← get)) : Reading _)
  set card
  orFail (.ofCard context) result

/-- Sends an APDU to the card, and prints its response. -/
def exchange (rounds : Nat) (apdu : Bytes) : StateT Remote Reading Unit := do
  let response ← onCard rounds "transmit failed" (.transmit apdu)
  (print (.exchange (Hex.upper apdu) (Hex.upper response)) : Reading Unit)

def useCard (rounds : Nat) (apdus : List Bytes) :
    StateT Remote Reading Unit := do
  onCard rounds "power on failed" .powerOn
  let atr ← onCard rounds "ATR request failed" .atr
  (print (.atr (Hex.upper atr)) : Reading Unit)
  apdus.forM (exchange rounds)
  onCard rounds "power off failed" .powerOff

/-- Lets go of the card. A failure is noted and otherwise ignored. -/
def eject (rounds : Nat) (card : Remote) : Reading Unit := do
  match ← onSocket (Remote.perform rounds .eject card) with
  | (.ok (), _) => return ()
  | (.error e, _) =>
    ask (.log ⟨.warn, "failed to close card connection",
      [("error", .text e.message)]⟩)

/-- Uses the card that connected, and lets go of it whatever happens. -/
def serveCard (rounds : Nat) (apdus : List Bytes) (peer : Option Address) :
    Reading ExitCode := do
  let card ← attach
  print (.cardConnected (peer.getD "unknown"))
  let result ← ExceptT.lift ((useCard rounds apdus).run card).run
  eject rounds card
  match result with
  | .ok _ => return .success
  | .error stop => throw stop

def listen (rounds : Nat) (args : Args) (apdus : List Bytes)
    (timeout : Option Duration) : Reading ExitCode := do
  let port ← onNetwork "bind failed" (Network.bind args.bind args.port)
  print (.waitingForCard port)
  orFail (fun text => ⟨.internal, s!"signal handler setup failed: {text}"⟩)
    (← ask .catchInterrupts)
  match ← awaitCard timeout (← deadline timeout) rounds with
  | none => return .success
  | some peer => serveCard rounds apdus peer

/-- The whole command. Arguments are checked before anything is done. -/
def run (rounds : Nat) (args : Args) : Reading ExitCode := do
  let apdus ← orFail id (apdus args.apdus)
  let timeout ← orFail id (timeout? args.timeout)
  listen rounds args apdus timeout

end CardBridge.Cli.Reader
