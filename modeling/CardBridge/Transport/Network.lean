import CardBridge.Dialogue
import CardBridge.Duration
import CardBridge.Transport.Error

/-!
# Dialing and listening

How connections come about. A host name may stand for several addresses:
dialing tries each in turn and reports the last failure. Waiting for an
incoming connection is done in bounded polls, so that whoever waits can be
told to stop.
-/

namespace CardBridge

/-- The text of an address: host and port. -/
abbrev Address := String

namespace Network

/-- What the network can do. -/
inductive Ask where
  | resolve (host : String) (port : UInt16)
  | connect (address : Address) (bound : Option Duration)
  /-- Listen on the first of some addresses that is free. -/
  | listen (addresses : List Address)
  /-- Wait for an incoming connection, for one interval. -/
  | poll (interval : Duration)
  /-- Make the connection just taken wait in its reads. -/
  | unpoll

/-- What the network gives back: addresses; the address of the peer, where
it is known; the port; an incoming connection, with the address of its peer,
or none. -/
abbrev Answer : Ask → Type
  | .resolve _ _ => Except IoError (List Address)
  | .connect _ _ => Except IoError (Option Address)
  | .listen _ => Except IoError UInt16
  | .poll _ => Except IoError (Option (Option Address))
  | .unpoll => Except IoError Unit

end Network

abbrev Network : Interface :=
  ⟨Network.Ask, Network.Answer⟩

namespace Network

def ask (q : Ask) : Dialogue Network (Answer q) :=
  @Dialogue.question Network q

/-- Host and port as they stand in error texts. -/
def place (host : String) (port : UInt16) : Address :=
  s!"{host}:{port}"

def name : String := "tcp"

/-- A place where connections are waited for, in words. -/
def describe (address : Address) : String :=
  s!"TcpTransport \x7b local_addr: {address} \x7d"

/-- Looks a host name up. A name that stands for no address is an error. -/
def resolve (host : String) (port : UInt16) :
    Dialogue Network (Except TransportError (List Address)) := do
  match ← ask (.resolve host port) with
  | .error cause => return .error (.resolve host port cause)
  | .ok [] =>
    return .error (.resolve host port ⟨.notFound, "no addresses found"⟩)
  | .ok addresses => return .ok addresses

/-- Tries some addresses in turn. `last` is the failure that is reported
when none is left. -/
def tryEach (bound : Option Duration) (last : IoError) :
    List Address → Dialogue Network (Except IoError (Option Address))
  | [] => return .error last
  | address :: rest => do
    match ← ask (.connect address bound) with
    | .ok peer => return .ok peer
    | .error cause => tryEach bound cause rest

/-- Connects to a host, and gives the address of the peer where it is
known. -/
def dial (host : String) (port : UInt16) (bound : Option Duration) :
    Dialogue Network (Except TransportError (Option Address)) := do
  match ← resolve host port with
  | .error e => return .error e
  | .ok addresses =>
    let none := ⟨.notFound, "no addresses to connect to"⟩
    return (← tryEach bound none addresses).mapError
      (.connect (place host port))

/-- Listens on a host and gives the port; port 0 asks for any free one. -/
def bind (host : String) (port : UInt16) :
    Dialogue Network (Except TransportError UInt16) := do
  match ← resolve host port with
  | .error e => return .error e
  | .ok addresses =>
    return (← ask (.listen addresses)).mapError (.bind (place host port))

/-- The failures of a poll that only mean that there is no connection to be
taken now: it went away, or the wait was interrupted. -/
def isPassing (cause : IoError) : Bool :=
  cause.kind = .wouldBlock ∨ cause.kind = .connectionAborted ∨
    cause.kind = .interrupted

/-- Waits one interval for an incoming connection. -/
def accept (interval : Duration) :
    Dialogue Network (Except TransportError (Option (Option Address))) := do
  match ← ask (.poll interval) with
  | .ok (some peer) =>
    return match ← ask .unpoll with
      | .ok () => .ok (some peer)
      | .error cause => .error (.io cause)
  | .ok none => return .ok none
  | .error cause =>
    return if isPassing cause then .ok none else .error (.accept cause)

end Network

end CardBridge
