import CardBridge.Frame.Receive
import CardBridge.Frame.Send
import CardBridge.Session.Config
import CardBridge.Session.Surroundings
import CardBridge.Text.Hex

/-!
# Running a session

A session brings one card together with readers. It dials one reader, or it
listens and serves the readers that come, one after the other. From each it
takes frames, carries out what they ask for, and sends back what is to be
answered, until it is cancelled, the reader it dialed ends the connection,
or something fails. In the end it ejects the card, whatever happened.

Loops end after `rounds` rounds; see `CardBridge.Dialogue`.
-/

namespace CardBridge.Session

/-- What ends the work of a session early. -/
inductive Stop where
  | failure (e : SessionError)
  /-- A call to the card, or to those who watch, gave up and takes the session
  with it. -/
  | unwound
  deriving Repr, DecidableEq

/-- A part of a session, which may stop early. -/
abbrev Serving := ExceptT Stop (Dialogue Session)

variable {α : Type}

/-! ## Asking -/

def ask (q : Ask) : Dialogue Session (Answer q) :=
  @Dialogue.question Session q

def fail (e : SessionError) : Serving α :=
  throw (.failure e)

/-- Goes on with a success, and stops at an error. -/
def orFail {ε : Type} (wrap : ε → SessionError) : Except ε α → Serving α
  | .ok value => pure value
  | .error e => fail (wrap e)

def onNetwork (d : Dialogue Network (Except TransportError α)) :
    Serving α := do
  orFail .transport
    (← ExceptT.lift (d.embed Ask.network fun _ answer => answer))

def onSocket (d : Dialogue Socket α) : Serving α :=
  ExceptT.lift (d.embed Ask.socket fun _ answer => answer)

def onCard (op : Card.Operation) : Serving (Card.Reply op) := do
  match ← ask (.card op) with
  | .returned result => orFail .card result
  | .unwound => throw .unwound

/-- Whether the session was told to stop. -/
def isCancelled : Dialogue Session Bool :=
  ask (.token .isCancelled)

/-- Hands the connection to the token, unless the session was told to stop. -/
def register : Dialogue Session Bool :=
  ask (.token .register)

/-- Tells those who watch. -/
def emit (event : Event) : Serving Unit := do
  match ← ask (.emit event) with
  | .returned () => return ()
  | .unwound => throw .unwound

def advance (next : SessionState) : Dialogue Session Unit :=
  ask (.advance next)

/-! ## Requests -/

/-- The card is given power, and then shows its answer to reset. -/
def powerOn : Serving Unit := do
  onCard .powerOn
  emit .poweredOn
  let atr ← onCard .atr
  emit (.atr (Hex.upper atr))

/-- Carries out a control command; gives what is to be answered. -/
def control : ControlCommand → Serving (Option Bytes)
  | .powerOff => do
    onCard .powerOff
    emit .poweredOff
    return none
  | .powerOn => do
    powerOn
    return none
  | .reset => do
    onCard .reset
    emit .reset
    return none
  | .getAtr => return some (← onCard .atr)

/-- Sends a command to the card; gives its response. -/
def transmit (apdu : Bytes) : Serving Bytes := do
  emit (.commandApdu (Hex.upper apdu))
  let response ← onCard (.transmit apdu)
  emit (.responseApdu (Hex.upper response))
  return response

/-- How a request that is none is reported. -/
def misunderstood : FrameError → SessionError
  | .unhandledCommand code => .protocol (FrameError.unhandledText code)
  | e => .frame e

/-- Carries out what a payload asks for; gives what is to be answered. -/
def dispatch (payload : Bytes) : Serving (Option Bytes) := do
  match ← orFail misunderstood (Request.ofPayload payload) with
  | .control command => control command
  | .apdu apdu => return some (← transmit apdu)

/-! ## Connections -/

/-- How a refused time bound of a connection is reported. -/
def unsettable (e : TransportError) : SessionError :=
  .frame (.io ⟨(e.cause?.map IoError.kind).getD .other, e.message⟩)

/-- Sets a connection up for frames. -/
def setUp (config : SessionConfig) : Serving Unit := do
  orFail .transport (← onSocket Socket.setNoDelay)
  -- one handle is for reading, the other for writing
  orFail .transport (← onSocket Socket.duplicate)
  orFail unsettable (← onSocket (Socket.setReadTimeout config.ioTimeout))
  orFail .transport (← onSocket Socket.duplicate)
  orFail unsettable (← onSocket (Socket.setWriteTimeout config.ioTimeout))

/-- The response as one frame. -/
def answer (rounds : Nat) (response : Bytes) : Serving Unit := do
  if response.length > Frame.maxPayload then
    fail (.protocol
      s!"response of {response.length} bytes does not fit a frame")
  orFail .frame (← onSocket (Socket.talk (Frame.send rounds response)))

/-- Takes frames and answers them until the stream ends. A failure to read
is no error once the session was told to stop. -/
def exchange (rounds : Nat) : (left : Nat) → (buffer : Bytes) → Serving Unit
  | 0, _ => ExceptT.mk .cut
  | left + 1, buffer => do
    let (result, kept) ← onSocket (Socket.talk (Frame.receive rounds buffer))
    match result with
    | .ok payload =>
      if let some response ← dispatch payload then
        answer rounds response
      exchange rounds left kept
    | .error .connectionClosed => return ()
    | .error e =>
      -- whoever told the session to stop has shut the connection down
      unless ← isCancelled do
        fail (.frame e)

/-- Serves the connection. Whatever comes of it, the connection is taken
back from the token and shut down, so the reader sees its end. -/
def serveConnection (rounds : Nat) (config : SessionConfig) :
    Serving Unit := do
  let serving : Serving Unit := do
    setUp config
    exchange rounds rounds []
  match ← ExceptT.lift serving.run with
  | .error .unwound => throw .unwound
  | result =>
    ask (.token .clear)
    let _ ← onSocket Socket.shutdown
    MonadExcept.ofExcept result

/-- Takes the connection on: hands it to the token and tells everyone.
`false` if the session was told to stop before. -/
def takeOn (address : Address) : Serving Bool := do
  orFail .transport (← onSocket Socket.duplicate)
  if ← register then
    advance .connected
    emit (.connected address)
    return true
  else
    return false

/-- Dials one reader and serves it. -/
def serveReader (rounds : Nat) (config : SessionConfig) :
    Serving ExitReason := do
  if ← isCancelled then
    return .cancelled
  let peer ← onNetwork
    (Network.dial config.hostname config.port config.connectTimeout)
  unless ← takeOn (peer.getD config.hostname) do
    return .cancelled
  serveConnection rounds config
  -- a stream that was shut down on this side ends like any other
  return if ← isCancelled then .cancelled else .peerClosed

/-- Waits for a connection; none if the session was told to stop. -/
def awaitClient (interval : Duration) :
    (rounds : Nat) → Serving (Option (Option Address))
  | 0 => ExceptT.mk .cut
  | rounds + 1 => do
    if ← isCancelled then
      return none
    match ← onNetwork (Network.accept interval) with
    | some peer => return some peer
    | none => awaitClient interval rounds

/-- Serves the readers that come, one after the other. -/
def serveClients (rounds : Nat) (config : SessionConfig) :
    (left : Nat) → Serving ExitReason
  | 0 => ExceptT.mk .cut
  | left + 1 => do
    advance .listening
    let some peer ← awaitClient config.pollInterval rounds
      | return .cancelled
    let address := peer.getD "unknown peer"
    unless ← takeOn address do
      return .cancelled
    serveConnection rounds config
    if ← isCancelled then
      return .cancelled
    emit (.clientDisconnected address)
    serveClients rounds config left

/-- The addresses that a reader could dial; none if they are not known. -/
def localAddresses : Dialogue Session (List Address) := do
  match ← ask .localAddresses with
  | .ok addresses => return addresses
  | .error cause =>
    ask (.log ⟨.warn, "could not enumerate local addresses",
      [("error", .text (TransportError.io cause).message)]⟩)
    return []

/-- Listens, and serves the readers that come. -/
def serveListening (rounds : Nat) (config : SessionConfig) :
    Serving ExitReason := do
  let port ← onNetwork (Network.bind config.listenAddress config.port)
  emit (.listening port (← localAddresses))
  serveClients rounds config rounds

def serve (rounds : Nat) (config : SessionConfig) : Serving ExitReason := do
  advance .connecting
  if config.listen then serveListening rounds config
  else serveReader rounds config

/-! ## From beginning to end -/

/-- How the run of a session comes out. -/
inductive Outcome where
  | ended (reason : ExitReason)
  /-- A call to the card, or to those who watch, gave up and took the session
  with it. -/
  | unwound
  deriving Repr, DecidableEq

/-- Ejects the card, unless that was done before. A failure is noted and
otherwise ignored. -/
def eject (cardName : String) : (ejected : Bool) → Serving Unit
  | true => return ()
  | false => do
    match ← ask (.card .eject) with
    | .returned (.ok ()) => return ()
    | .returned (.error e) =>
      ask (.log ⟨.warn, "failed to eject card backend",
        [("backend", .text cardName), ("error", .text e.message)]⟩)
    | .unwound => throw .unwound

def windUp (cardName : String) (reason : ExitReason) : Serving Unit := do
  advance .closing
  ask (.token .clear)
  eject cardName false
  emit (.disconnected reason)
  advance .closed

/-- Lets go of a session: a card that was not ejected before is ejected, and
nobody is told. -/
def drop (cardName : String) (ejected : Bool) : Dialogue Session Unit := do
  let _ ← (eject cardName ejected).run

/-- Winds the session up, lets go of it, and says why it ended. The card
counts as ejected even if the call to eject it gave up. -/
def conclude (cardName : String) (reason : ExitReason) :
    Dialogue Session Outcome := do
  let woundUp ← (windUp cardName reason).run
  -- nothing is left to eject
  drop cardName true
  match woundUp with
  | .ok () => return .ended reason
  | .error _ => return .unwound

/-- Gives a session up that does not run, or does not run on. -/
def abandon (cardName : String) : Dialogue Session Unit :=
  drop cardName false

/-- A session that has not begun, in words. -/
def describe (config : SessionConfig) (cardName : String) : String :=
  "Session \x7b " ++ ", ".intercalate
    [s!"config: {config.describe}", s!"backend: {Text.quoted cardName}",
     "state: Idle"] ++ " \x7d"

/-- Runs a session. An error after the session was told to stop is the
consequence of that, and not reported. -/
def run (rounds : Nat) (config : SessionConfig) (cardName : String) :
    Dialogue Session Outcome := do
  match ← (serve rounds config).run with
  | .ok reason => conclude cardName reason
  | .error (.failure e) =>
    if ← isCancelled then
      conclude cardName .cancelled
    else
      match ← (emit (.error e.message)).run with
      | .ok () => conclude cardName (.failed e.kind)
      | .error _ =>
        abandon cardName
        return .unwound
  | .error .unwound =>
    abandon cardName
    return .unwound

end CardBridge.Session
