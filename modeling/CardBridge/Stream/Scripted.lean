import CardBridge.Stream.Basic

/-!
# Scripted streams

A source is what a peer will send, as it will arrive; a sink is how much a
peer will take, and when it will fail. Together they settle everything that
a connection answers.
-/

namespace CardBridge.Stream

/-- One thing that a reading side meets. -/
inductive Arrival where
  /-- Octets, available all at once. -/
  | octets (chunk : Bytes)
  | failure (cause : IoError)
  /-- One read that gives the end of the stream. -/
  | finish
  deriving Repr, DecidableEq

/-- What a reading side meets, in order. After the last entry every read
gives the end of the stream. -/
abbrev Source := List Arrival

namespace Source

/-- Takes at most `size` octets, of the first entry only; what is left of it
stays. An entry without octets is passed over. -/
def receive (size : Nat) : Source → Except IoError Bytes × Source
  | [] => (.ok [], [])
  | .octets [] :: rest => receive size rest
  | .octets chunk :: rest =>
    match chunk.drop size with
    | [] => (.ok (chunk.take size), rest)
    | left => (.ok (chunk.take size), .octets left :: rest)
  | .failure cause :: rest => (.error cause, rest)
  | .finish :: rest => (.ok [], rest)

/-- The octets that were not taken. -/
def unread : Source → Nat
  | [] => 0
  | .octets chunk :: rest => chunk.length + unread rest
  | _ :: rest => unread rest

/-- Nothing is left: neither octets nor another entry. -/
def isExhausted (source : Source) : Bool :=
  source.all (· == .octets [])

/-- How many reads can meet something other than the end that comes after
the last entry. -/
def span (source : Source) : Nat :=
  source.unread + source.length

end Source

/-- How a writing side behaves. -/
structure Sink where
  /-- For each write in turn, how many octets it accepts at most, or its
  failure. After the last entry everything is accepted. -/
  writes : List (Except IoError Nat) := []
  /-- What each flush gives in turn. After the last entry it succeeds. -/
  flushes : List (Except IoError Unit) := []
  accepted : Bytes := []

namespace Sink

/-- Offers octets; the first few or all of them are accepted. -/
def send (offered : Bytes) (sink : Sink) : Except IoError Nat × Sink :=
  match sink.writes with
  | [] => (.ok offered.length, { sink with accepted := sink.accepted ++ offered })
  | .error cause :: rest => (.error cause, { sink with writes := rest })
  | .ok most :: rest =>
    let taken := offered.take most
    (.ok taken.length,
      { sink with writes := rest, accepted := sink.accepted ++ taken })

def flush (sink : Sink) : Except IoError Unit × Sink :=
  match sink.flushes with
  | [] => (.ok (), sink)
  | result :: rest => (result, { sink with flushes := rest })

/-- A bound on the operations needed to send one frame of `size` octets. -/
def span (sink : Sink) (size : Nat) : Nat :=
  size + sink.writes.length + sink.flushes.length

end Sink

/-- A stream with a script for each direction. -/
structure Scripted where
  source : Source := []
  sink : Sink := {}

def Scripted.handler : Dialogue.Handler Stream Scripted
  | .receive size, w =>
    let (result, source) := w.source.receive size
    (some result, { w with source })
  | .send offered, w =>
    let (result, sink) := w.sink.send offered
    (some result, { w with sink })
  | .flush, w =>
    let (result, sink) := w.sink.flush
    (some result, { w with sink })

/-- A scripted stream answers every question. -/
def Scripted.machine : Dialogue.Machine Stream Scripted
  | .receive size, w =>
    let (result, source) := w.source.receive size
    (result, { w with source })
  | .send offered, w =>
    let (result, sink) := w.sink.send offered
    (result, { w with sink })
  | .flush, w =>
    let (result, sink) := w.sink.flush
    (result, { w with sink })

end CardBridge.Stream
