import CardBridge.Bytes
import CardBridge.Frame.Error

/-!
# Frames

On the wire a payload of at most 65535 octets is preceded by its length in
two octets, the high one first. Nothing else is ever sent, so a stream is a
plain concatenation of frames.

* `encode` puts a payload behind what a buffer already holds;
* `decode?` takes the first frame off a buffer, once it is there in full.
-/

namespace CardBridge.Frame

/-- The number of octets in front of a payload. -/
def headerSize : Nat := 2

/-- The largest payload that the length in the header can express. -/
def maxPayload : Nat := 65535

/-- The length of a payload, in two octets. -/
def header (length : Nat) : Bytes :=
  [(length / 256).toUInt8, (length % 256).toUInt8]

/-- The length that two header octets announce. -/
def announced (high low : UInt8) : Nat :=
  256 * high.toNat + low.toNat

/-- The wire form of a payload that fits a frame. -/
def wire (payload : Bytes) : Bytes :=
  header payload.length ++ payload

/-- Appends the frame of `payload` to `buffer`. -/
def encode (payload buffer : Bytes) : Except FrameError Bytes :=
  if payload.length ≤ maxPayload then .ok (buffer ++ wire payload)
  else .error (.payloadTooLarge payload.length maxPayload)

/-- The first payload of `buffer` and what follows its frame, or `none`
while that frame is not complete. -/
def decode? : Bytes → Option (Bytes × Bytes)
  | high :: low :: rest =>
    let length := announced high low
    if length ≤ rest.length then some (rest.splitAt length) else none
  | _ => none

/-- What is left of `buffer` when a stream ends that has no complete frame
any more: an unfinished frame is dropped. -/
def decodeAtEnd? (buffer : Bytes) : Option Bytes × Bytes :=
  match decode? buffer with
  | some (payload, rest) => (some payload, rest)
  | none => (none, [])

/-- How many octets `buffer` lacks to complete its header or, once that is
there, its first frame. -/
def missing : Bytes → Nat
  | high :: low :: rest => announced high low - rest.length
  | buffer => headerSize - buffer.length

/-- The number of octets that a payload takes on the wire. -/
def wireSize (payload : Bytes) : Nat :=
  headerSize + payload.length

end CardBridge.Frame
