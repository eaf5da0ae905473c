import CardBridge.Transport.IpAddress
import CardBridge.Transport.Link
import CardBridge.Transport.Network

/-!
# Networks that follow a script

What dialing, listening and waiting for connections will give, settled in
advance.
-/

namespace CardBridge.Transport

/-- The network around a procedure. -/
structure Site where
  dialing : Except IoError (Option Address)
  listening : Address → Except IoError UInt16
  /-- What each poll for an incoming connection gives. -/
  polls : List (Except IoError (Option (Option Address))) := []

namespace Site

/-- The failure of every dialing where there is no network. -/
def unreachable : IoError :=
  ⟨.networkUnreachable, "Network is unreachable (os error 101)"⟩

/-- The failure of listening on an address that the host does not have. -/
def unavailable : IoError :=
  ⟨.addrNotAvailable, "Cannot assign requested address (os error 99)"⟩

/-- A host name that cannot be looked up. -/
def nameWithNul : IoError :=
  ⟨.invalidInput, "file name contained an unexpected NUL byte"⟩

/-- The addresses that a host name stands for. An address stands for itself,
and any other name for one address, which is not known. -/
def lookUp (host : String) (port : UInt16) :
    Except IoError (List Address) :=
  if host.toList.contains '\x00' then .error nameWithNul
  else match IpAddress.ofText? host.toList with
    | some address => .ok [address.withPort port]
    | none => .ok [Network.place host port]

/-- Listens on the first address on which that succeeds. -/
def listenOnFirst (listening : Address → Except IoError UInt16) :
    List Address → Except IoError UInt16
  | [] => .error ⟨.invalidInput, "could not resolve to any addresses"⟩
  | [address] => listening address
  | address :: rest =>
    match listening address with
    | .ok port => .ok port
    | .error _ => listenOnFirst listening rest

/-- What listening gives on a host without networks: of the addresses of
version 6 only the one that stands for all is there, while any address of
version 4 will do. -/
def listenAlone (port : UInt16) (address : Address) :
    Except IoError UInt16 :=
  if address.startsWith "[" && !address.startsWith "[::]:" then
    .error unavailable
  else .ok port

/-- A host that reaches nobody, itself included. It can listen, on the port
`port`. -/
def isolated (port : UInt16) : Site where
  dialing := .error unreachable
  listening := listenAlone port

/-- What the network answers. That nobody is reached is noticed before a bound
on dialing is looked at. Once the polls are used up, waiting for a connection
never ends. -/
def handler : Dialogue.Handler Network Site
  | .resolve host port, w => (some (lookUp host port), w)
  | .connect _ bound, w =>
    let answer := do
      let peer ← w.dialing
      Link.checkTimeout bound
      return peer
    (some answer, w)
  | .listen addresses, w => (some (listenOnFirst w.listening addresses), w)
  | .poll _, w =>
    match w.polls with
    | [] => (none, w)
    | result :: polls => (some result, { w with polls })
  | .unpoll, w => (some (.ok ()), w)

end Site

end CardBridge.Transport
