import CardBridge.Stream.Scripted
import CardBridge.Transport.Socket

/-!
# Connections to a scripted peer

What a connection answers when everything the peer will do is settled in
advance. Once this side has shut the connection down, what had arrived can
still be received, and nothing more can be sent.
-/

namespace CardBridge.Transport

/-- A connection whose peer follows a script. -/
structure Link where
  stream : Stream.Scripted := {}
  /-- After its last octet the peer stays silent, instead of ending its
  sending direction. -/
  silent : Bool := false
  readTimeout : Option Duration := none
  shut : Bool := false

namespace Link

/-- A bound on the operations needed to send a payload of `size` octets and
to receive one. -/
def span (link : Link) (size : Nat) : Nat :=
  link.stream.source.span + link.stream.sink.span (size + 3) + 1

/-- A read found nothing in its time. -/
def nothingInTime : IoError :=
  ⟨.wouldBlock, "Resource temporarily unavailable (os error 11)"⟩

/-- Something is sent although the connection is shut down. -/
def brokenPipe : IoError :=
  ⟨.brokenPipe, "Broken pipe (os error 32)"⟩

/-- A time of zero is no bound. -/
def zeroTimeout : IoError :=
  ⟨.invalidInput, "cannot set a 0 duration timeout"⟩

/-- Whether a bound can be set. -/
def checkTimeout (bound : Option Duration) : Except IoError Unit :=
  if bound = some ⟨0⟩ then .error zeroTimeout else .ok ()

/-- A connection to a scripted peer. A read on a silent connection without a
bound never ends. -/
def handler : Dialogue.Handler Socket Link
  | .stream (.receive size), w =>
    if w.stream.source.isExhausted then
      if w.shut || !w.silent then (some (.ok []), w)
      else if w.readTimeout.isSome then (some (.error nothingInTime), w)
      else (none, w)
    else
      let (result, source) := w.stream.source.receive size
      (some result, { w with stream := { w.stream with source } })
  | .stream (.send offered), w =>
    if w.shut then (some (.error brokenPipe), w)
    else
      let (result, sink) := w.stream.sink.send offered
      (some result, { w with stream := { w.stream with sink } })
  | .stream .flush, w =>
    let (result, sink) := w.stream.sink.flush
    (some result, { w with stream := { w.stream with sink } })
  | .noDelay _, w => (some (.ok ()), w)
  | .readTimeout bound, w =>
    match checkTimeout bound with
    | .error cause => (some (.error cause), w)
    | .ok () => (some (.ok ()), { w with readTimeout := bound })
  | .writeTimeout bound, w => (some (checkTimeout bound), w)
  | .duplicate, w => (some (.ok ()), w)
  | .shutdown, w => (some (.ok ()), { w with shut := true })

end Link

end CardBridge.Transport
