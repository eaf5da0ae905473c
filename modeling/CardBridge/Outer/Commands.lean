import Std.Async.Signal
import Std.Async.System
import Std.Sync.Channel
import CardBridge.Card.Remote
import CardBridge.Card.Simulator
import CardBridge.Cli.Args
import CardBridge.Outer.Sockets
import CardBridge.Session.Supervisor
import CardBridge.Session.Token

/-!
# The commands, in the real world

Each question that a command asks is answered by the operating system.
-/

namespace CardBridge.Outer

open CardBridge.Cli
open Std.Async

/-- No loop of a command ends because of this many rounds. -/
def rounds : Nat := 0x4000000000000000

/-- How records are written. -/
structure Output where
  format : Format
  logFormat : LogFormat
  /-- The least urgent log records that are written. -/
  logLevel : Log.Level

def Output.print (o : Output) (record : Record) : IO Unit := do
  let now ← Std.Time.Timestamp.now
  IO.println (record.render o.format (toString now.toSecondsSinceUnixEpoch.val))
  (← IO.getStdout).flush

def Output.log (o : Output) (record : Log.Record) : IO Unit := do
  unless o.logLevel.admits record.level do return
  let value : Log.Value → JsonValue
    | .number n => .number n
    | .text t => .text t
  let fields := JsonValue.object
    (("message", .text record.message) ::
      record.fields.map fun (name, v) => (name, value v))
  match o.logFormat with
  | .json => IO.eprintln fields.print
  | .text =>
    let details := record.fields.map fun (name, v) =>
      match v with
      | .number n => s!" {name}={n}"
      | .text t => s!" {name}={t}"
    IO.eprintln (record.message ++ String.join details)

/-- Takes note of the next interrupt. -/
def onInterrupt (act : IO Unit) : IO (Except String Unit) := do
  try
    let waiter ← Signal.Waiter.mk .sigint false
    let signalled ← waiter.wait
    discard <| signalled.mapIO fun _ => act
    return .ok ()
  catch e =>
    return .error e.toString

/-! ## Cards -/

/-- A card that was opened. -/
structure Opened where
  name : String
  perform : (op : Card.Operation) → IO (Option (Card.Answer op))

/-- A card that is carried by a layer over something that answers. -/
def openLayer {I : Interface} {σ : Type} (name : String)
    (layer : Dialogue.Layer I Card σ) (start : σ)
    (answer : (q : I.Ask) → IO (I.Answer q)) : IO Opened := do
  let state ← IO.mkRef start
  return ⟨name, fun op => do
    match ← (layer op (← state.get)).perform answer with
    | none => return none
    | some (result, after) =>
      state.set after
      return some result⟩

def openDummy : IO Opened :=
  openLayer Simulator.name Simulator.perform false fun q =>
    return (Simulator.dummy q ()).1

/-- Connects to a remote card, and gives it power. -/
def openRemote (host : String) (port : UInt16) (bound : Option Duration) :
    IO (Except CardError Opened) := do
  let net ← Net.new
  match ← (Network.dial host port bound).perform net.answer with
  | some (.error e) => return .error (.transport e)
  | none => return .error .remoteClosed
  | some (.ok _) =>
    match ← Remote.attach.perform net.socket with
    | some (.error e) => return .error e
    | none => return .error .remoteClosed
    | some (.ok card) =>
      let opened ← openLayer Remote.name (Remote.perform rounds) card net.socket
      match ← opened.perform .powerOn with
      | some (.error e) => return .error e
      | _ => return .ok opened

/-! ## Sessions -/

/-- A session that was started. -/
structure Started where
  token : IO.Ref (Token Connection)
  /-- What happens in it; nothing more once it is over. -/
  events : Std.CloseableChannel Event
  outcome : Task (Except IO.Error (Option Session.Outcome))

/-- Cancels a token, and shuts the connection down that it held. -/
def cancelToken (token : IO.Ref (Token Connection)) : IO Unit := do
  if let some c ← token.modifyGet Token.cancel then
    discard <| (c.answer .shutdown : IO (Except IoError Unit))

/-- What a session is answered. The addresses of this machine are not known
here, so none are shown. -/
def sessionAnswer (o : Output) (net : Net) (card : Opened)
    (token : IO.Ref (Token Connection))
    (events : Std.CloseableChannel Event) :
    (q : Session.Ask) → IO (Session.Answer q)
  | .network q => net.answer q
  | .socket q => net.socket q
  | .card op => do
    match ← card.perform op with
    | some result => return .returned result
    | none => return .unwound
  | .token .isCancelled => return (← token.get).isCancelled
  | .token .register => do
    match ← net.current.get with
    | some c => token.modifyGet (Token.register c)
    | none => return !(← token.get).isCancelled
  | .token .clear => token.modify Token.clear
  | .localAddresses => return .ok []
  | .emit event => do
    discard <| events.send event
    return .returned ()
  | .advance _ => return ()
  | .log record => o.log record

def start (o : Output) (config : SessionConfig) (card : Opened) :
    IO Started := do
  let net ← Net.new
  let token ← IO.mkRef Token.fresh
  let events ← Std.CloseableChannel.new
  let session := Session.run rounds config card.name
  let outcome ← (do
    let result ← session.perform (sessionAnswer o net card token events)
    discard <| events.close.toBaseIO
    return result : IO (Option Session.Outcome)).asTask .dedicated
  return ⟨token, events, outcome⟩

def Started.wait (s : Started) : IO ExitReason := do
  match s.outcome.get with
  | .ok (some (.ended reason)) => return reason
  | _ => return .failed Supervisor.gaveUp

/-! ## The commands -/

/-- What the command `run` is answered. -/
def serveAnswer (o : Output) (card : IO.Ref (Option Opened))
    (session : IO.Ref (Option Started)) :
    (q : Serve.Ask) → IO (Serve.Answer q)
  | .openDummy => do card.set (some (← openDummy))
  | .openRemote host port bound => do
    match ← openRemote host port bound with
    | .ok opened =>
      card.set (some opened)
      return .ok ()
    | .error e => return .error e
  | .start config => do
    if let some opened ← card.get then
      session.set (some (← start o config opened))
    return .ok ()
  | .catchInterrupts => onInterrupt do
    if let some s ← session.get then cancelToken s.token
  | .nextEvent => do
    let some s ← session.get | return none
    IO.wait (← s.events.recv)
  | .print record => o.print record
  | .wait => do (← session.get).mapM Started.wait
  | .cancel => do
    if let some s ← session.get then
      cancelToken s.token
      discard s.wait
  | .log record => o.log record

/-- What the command `reader` is answered. -/
def readerAnswer (o : Output) (net : Net) (interrupted : IO.Ref Bool) :
    (q : Reader.Ask) → IO (Reader.Answer q)
  | .network q => net.answer q
  | .socket q => net.socket q
  | .print record => o.print record
  | .catchInterrupts => onInterrupt (interrupted.set true)
  | .interrupted => interrupted.get
  | .now => return ⟨← IO.monoNanosNow⟩
  | .log record => o.log record

/-- How a command comes to its end. -/
def finish : Option (Except Failure ExitCode) → IO ExitCode
  | some (.ok code) => return code
  | some (.error e) => do
    IO.eprintln s!"error: {e.message}"
    return e.code
  | none => do
    IO.eprintln "error: the command gave up"
    return .internal

def carryOut (o : Output) : Command → IO ExitCode
  | .version extended => do
    for line in versionLines {} extended do
      IO.println line
    return .success
  | .serve args => do
    let card ← IO.mkRef none
    let session ← IO.mkRef none
    finish (← (Serve.run rounds args).run.perform (serveAnswer o card session))
  | .reader args => do
    let net ← Net.new
    let interrupted ← IO.mkRef false
    match ← (Reader.run rounds args).run.perform
        (readerAnswer o net interrupted) with
    | some (.ok code) => finish (some (.ok code))
    | some (.error (.failure e)) => finish (some (.error e))
    | _ => finish none

end CardBridge.Outer
