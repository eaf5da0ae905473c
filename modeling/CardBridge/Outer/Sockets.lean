import Std.Async.DNS
import Std.Async.TCP
import Std.Async.Timer
import Std.Sync.CancellationToken
import CardBridge.Transport.Network
import CardBridge.Transport.Socket

/-!
# Sockets of the operating system

The answers that real connections give. An established connection is shut
down by a token of its own, which also wakes up a read that is under way.
-/

namespace CardBridge.Outer

open Std.Async
open Std.Net (SocketAddress)

/-- The number that goes with a failure. -/
def rawCode : IO.Error → Nat
  | .alreadyExists _ code _ => code.toNat
  | .otherError code _ => code.toNat
  | .resourceBusy code _ => code.toNat
  | .resourceVanished code _ => code.toNat
  | .unsupportedOperation code _ => code.toNat
  | .hardwareFault code _ => code.toNat
  | .unsatisfiedConstraints code _ => code.toNat
  | .illegalOperation code _ => code.toNat
  | .protocolError code _ => code.toNat
  | .timeExpired code _ => code.toNat
  | .interrupted _ code _ => code.toNat
  | .noFileOrDirectory _ code _ => code.toNat
  | .invalidArgument _ code _ => code.toNat
  | .permissionDenied _ code _ => code.toNat
  | .resourceExhausted _ code _ => code.toNat
  | .inappropriateType _ code _ => code.toNat
  | .noSuchThing _ code _ => code.toNat
  | .unexpectedEof => 0
  | .userError _ => 0

/-- The number of a failure of the operating system. Those of sockets are
counted downwards from zero. -/
def codeOf (e : IO.Error) : Nat :=
  if rawCode e < 0x80000000 then rawCode e else UInt32.size - rawCode e

def failureOf (e : IO.Error) : IoError :=
  match IoError.ofSystem? (codeOf e) with
  | some cause => cause
  | none => ⟨.other, e.toString⟩

/-- The result of an action, with its failure as a value. -/
def attempt {α : Type} (action : IO α) : IO (Except IoError α) := do
  try
    return .ok (← action)
  catch e =>
    return .error (failureOf e)

/-- A number of milliseconds, and at least one. -/
def waiting (d : Duration) : Std.Time.Millisecond.Offset :=
  .ofNat (max 1 d.millis)

/-! ## Connections -/

/-- An established connection. -/
structure Connection where
  client : TCP.Socket.Client
  /-- Cancelled when this side shuts the connection down. -/
  shut : Std.CancellationToken
  /-- The bound on the time of one read. -/
  readTimeout : IO.Ref (Option Duration)

/-- Takes a socket for an established connection. -/
def Connection.ofClient (client : TCP.Socket.Client) : IO Connection := do
  return ⟨client, ← Std.CancellationToken.new, ← IO.mkRef none⟩

/-- Waits for octets, for the end of the stream, or for the bound of time. -/
def Connection.receive (c : Connection) (size : Nat) :
    IO (Except IoError Bytes) := do
  let arrived (got : Option ByteArray) : Async (Except IoError Bytes) :=
    return .ok ((got.map (·.toList)).getD [])
  let mut events := #[
    Selectable.case (c.client.recvSelector size.toUInt64) arrived,
    .case c.shut.selector fun () => return .ok []]
  if let some d ← c.readTimeout.get then
    let timer ← (Selector.sleep (waiting d)).block
    events := events.push (.case timer fun () =>
      return .error ⟨.wouldBlock,
        "Resource temporarily unavailable (os error 11)"⟩)
  match ← attempt (Selectable.one events).block with
  | .ok result => return result
  | .error cause => return .error cause

def Connection.send (c : Connection) (offered : Bytes) :
    IO (Except IoError Nat) := do
  if ← c.shut.isCancelled then
    return .error ⟨.brokenPipe, "Broken pipe (os error 32)"⟩
  attempt do
    (c.client.send ⟨offered.toArray⟩).block
    return offered.length

/-- Whether a bound of time can be set. -/
def settable (bound : Option Duration) : Except IoError Unit :=
  if bound = some ⟨0⟩ then
    .error ⟨.invalidInput, "cannot set a 0 duration timeout"⟩
  else .ok ()

def Connection.answer (c : Connection) : (q : Socket.Ask) → IO (Socket.Answer q)
  | .stream (.receive size) => c.receive size
  | .stream (.send offered) => c.send offered
  | .stream .flush => return .ok ()
  | .noDelay _ => attempt c.client.noDelay
  | .readTimeout bound => do
    if bound ≠ some ⟨0⟩ then c.readTimeout.set bound
    return settable bound
  | .writeTimeout bound => return settable bound
  | .duplicate => return .ok ()
  | .shutdown => attempt do
    c.shut.cancel
    c.client.shutdown.block

/-! ## Dialing and listening -/

/-- The socket addresses of a host. -/
def lookUp (host : String) (port : UInt16) : IO (List SocketAddress) := do
  if host.any (· = '\x00') then
    throw (IO.userError "file name contained an unexpected NUL byte")
  let found ← (DNS.getAddrInfo host (toString port)).block
  return found.toList.eraseDups.map fun
    | .v4 addr => .v4 ⟨addr, port⟩
    | .v6 addr => .v6 ⟨addr, port⟩

/-- The network as the operating system has it. -/
structure Net where
  /-- Addresses that were looked up, by their text. -/
  known : IO.Ref (List (String × SocketAddress))
  server : IO.Ref (Option TCP.Socket.Server)
  /-- The connection made last. -/
  current : IO.Ref (Option Connection)

/-- A network on which nothing has happened. -/
def Net.new : IO Net := do
  return ⟨← IO.mkRef [], ← IO.mkRef none, ← IO.mkRef none⟩

/-- Takes a socket for the connection made last; gives the address of the
peer, where it is known. -/
def Net.connected (net : Net) (client : TCP.Socket.Client) :
    IO (Option Address) := do
  net.current.set (some (← Connection.ofClient client))
  try
    return some (toString (← client.getPeerName))
  catch _ =>
    return none

/-- Connects to an address, within a bound of time. -/
def Net.connect (net : Net) (address : Address) (bound : Option Duration) :
    IO (Option Address) := do
  let known ← net.known.get
  let some target := known.lookup address
    | throw (IO.userError "unknown address")
  let client ← TCP.Socket.Client.mk
  match bound with
  | none => (client.connect target).block
  | some d =>
    let timer ← (Selector.sleep (waiting d)).block
    let done ← Std.CancellationToken.new
    let dialing ← (do
      try
        (client.connect target).block
        done.cancel
        return Except.ok ()
      catch e =>
        done.cancel
        return .error e : IO (Except IO.Error Unit)).asTask
    let inTime ← (Selectable.one #[
      .case done.selector fun () => return true,
      .case timer fun () => return false]).block
    if inTime then
      MonadExcept.ofExcept (← MonadExcept.ofExcept dialing.get)
    else throw (IO.Error.timeExpired 110 "connection timed out")
  net.connected client

/-- Listens on the first of some addresses that is free. -/
def Net.listen (net : Net) (addresses : List Address) : IO UInt16 := do
  let known ← net.known.get
  let targets := addresses.filterMap fun address => known.lookup address
  let mut last := IO.userError "could not resolve to any addresses"
  for target in targets do
    try
      let server ← TCP.Socket.Server.mk
      server.bind target
      server.listen 128
      net.server.set (some server)
      return match ← server.getSockName with
        | .v4 name => name.port
        | .v6 name => name.port
    catch e =>
      last := e
  throw last

/-- Waits for an incoming connection, for one interval. -/
def Net.poll (net : Net) (interval : Duration) :
    IO (Option (Option Address)) := do
  let some server ← net.server.get | throw (IO.userError "not listening")
  let timer ← (Selector.sleep (waiting interval)).block
  let incoming : Option TCP.Socket.Client ← (Selectable.one #[
    .case server.acceptSelector fun client => return some client,
    .case timer fun () => return none]).block
  incoming.mapM net.connected

/-- What the network answers. -/
def Net.answer (net : Net) : (q : Network.Ask) → IO (Network.Answer q)
  | .resolve host port => attempt do
    let found ← lookUp host port
    let named := found.map fun target => (toString target, target)
    net.known.set named
    return named.map (·.1)
  | .connect address bound => attempt (net.connect address bound)
  | .listen addresses => attempt (net.listen addresses)
  | .poll interval => attempt (net.poll interval)
  | .unpoll => return .ok ()

/-- What the connection made last answers. -/
def Net.socket (net : Net) (q : Socket.Ask) : IO (Socket.Answer q) := do
  let some c ← net.current.get | throw (IO.userError "not connected")
  c.answer q

end CardBridge.Outer
