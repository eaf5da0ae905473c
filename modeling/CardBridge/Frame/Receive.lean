import CardBridge.Frame.Basic
import CardBridge.Stream.Basic

/-!
# Receiving frames

Between two calls the octets of the frame in progress are kept. Never are
more octets asked for than that frame still lacks, nor more than one chunk
at a time, so everything behind the frame is left in the stream.
-/

namespace CardBridge.Frame

/-- The most octets that are asked for at once. -/
def chunkSize : Nat := 4096

/-- How many octets are asked for next. -/
def wanted (buffer : Bytes) : Nat :=
  max 1 (min (missing buffer) chunkSize)

/-- Waits for the next frame in at most `rounds` rounds, starting from the
octets `buffer` of a frame in progress. Gives the payload or the error, and
the octets that are kept for the next call.

An interrupted read is repeated. The end of the stream drops an unfinished
frame; any other failure keeps it. -/
def receive : (rounds : Nat) → (buffer : Bytes) →
    Dialogue Stream (Except FrameError Bytes × Bytes)
  | 0, _ => .cut
  | rounds + 1, buffer =>
    match decode? buffer with
    | some (payload, rest) => .done (.ok payload, rest)
    | none => .ask (.receive (wanted buffer)) fun
      | .ok [] => .done (.error .connectionClosed, [])
      | .ok received => receive rounds (buffer ++ received)
      | .error cause =>
        if cause.isInterrupted then receive rounds buffer
        else .done (.error (.io cause), buffer)

end CardBridge.Frame
