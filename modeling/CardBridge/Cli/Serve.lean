import CardBridge.Card.Remote
import CardBridge.Cli.Record
import CardBridge.Cli.Timeout
import CardBridge.Session.Config

/-!
# Serving a card

The command `run` opens a card, starts a session with it, and prints what
happens in the session until it is over.
-/

namespace CardBridge.Cli.Serve

/-- The card to serve. -/
inductive CardKind where
  | dummy
  /-- A card at the other end of a connection. -/
  | relay
  deriving Repr, DecidableEq

structure Args where
  host : String := defaultHost
  port : UInt16 := defaultPort
  listen : Bool := false
  listenAddress : String := "0.0.0.0"
  card : CardKind := .dummy
  relayHost : Option String := none
  relayPort : UInt16 := defaultPort
  connectTimeout : String := "10s"
  ioTimeout : Option String := none
  deriving Repr, DecidableEq

/-- The settings of the session that some arguments ask for. -/
def settings (args : Args) : Except Failure SessionConfig := do
  let config ←
    if args.listen then
      pure { SessionConfig.listener args.port with
        listenAddress := args.listenAddress }
    else if args.port = 0 then
      throw ⟨.usage, "--port 0 is only valid with --listen"⟩
    else pure (SessionConfig.client args.host args.port)
  let connectTimeout ← timeout args.connectTimeout
  let ioTimeout ← timeout? args.ioTimeout
  return { config with connectTimeout := some connectTimeout, ioTimeout }

/-- What the command asks. -/
inductive Ask where
  | openDummy
  /-- Connect to a remote card, within a bound of time, and give it power. -/
  | openRemote (host : String) (port : UInt16) (bound : Option Duration)
  | start (config : SessionConfig)
  /-- From now on an interrupt tells the session to stop. -/
  | catchInterrupts
  /-- Wait for the next event of the session; none if there are no more. -/
  | nextEvent
  | print (record : Record)
  | wait
  | cancel
  | log (record : Log.Record)

abbrev Answer : Ask → Type
  | .openDummy => Unit
  | .openRemote .. => Except CardError Unit
  | .start _ => Except SessionError Unit
  | .catchInterrupts => Except String Unit
  | .nextEvent => Option Event
  | .print _ => Unit
  | .wait => Option ExitReason
  | .cancel => Unit
  | .log _ => Unit

abbrev Surroundings : Interface :=
  ⟨Ask, Answer⟩

/-- A part of the command, which may fail. -/
abbrev Serving := ExceptT Failure (Dialogue Surroundings)

def ask (q : Ask) : Dialogue Surroundings (Answer q) :=
  @Dialogue.question Surroundings q

variable {α ε : Type}

/-- Goes on with a success, and fails at an error. -/
def orFail (wrap : ε → Failure) : Except ε α → Serving α
  | .ok value => pure value
  | .error e => throw (wrap e)

def openCard (args : Args) (bound : Option Duration) : Serving Unit := do
  match args.card, args.relayHost with
  | .dummy, _ => ask .openDummy
  | .relay, none =>
    throw ⟨.usage, "--relay-host is required for --backend relay"⟩
  | .relay, some host =>
    orFail (.ofCard "remote card unreachable")
      (← ask (.openRemote host args.relayPort bound))

/-- Prints the events of the session, up to the one that it is over. -/
def printEvents : (rounds : Nat) → Dialogue Surroundings Unit
  | 0 => .cut
  | rounds + 1 => do
    match ← ask .nextEvent with
    | none => return ()
    | some event =>
      ask (.print (.status event))
      unless event.isTerminal do
        printEvents rounds

/-- The reason for the end of a session that nobody knows. -/
def noReason : String := "session ended without an exit reason"

/-- Waits for the end of the session; says why it ended. -/
def finish : Dialogue Surroundings ExitReason := do
  match ← ask .wait with
  | some reason => return reason
  | none =>
    ask (.log ⟨.warn, noReason, []⟩)
    return .failed noReason

/-- Follows the session that was started to its end. -/
def follow (rounds : Nat) : Serving ExitCode := do
  match ← ask .catchInterrupts with
  | .error text =>
    ask .cancel
    throw ⟨.internal, s!"signal handler setup failed: {text}"⟩
  | .ok () =>
    printEvents rounds
    return .ofReason (← finish)

/-- The whole command. Arguments are checked before anything is done. -/
def run (rounds : Nat) (args : Args) : Serving ExitCode := do
  let config ← orFail id (settings args)
  openCard args config.connectTimeout
  orFail (.ofSession "session start failed") (← ask (.start config))
  follow rounds

end CardBridge.Cli.Serve
