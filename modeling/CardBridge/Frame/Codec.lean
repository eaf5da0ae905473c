import CardBridge.Frame.Feed

/-!
# The codec

For a stream that is driven from elsewhere: the driver puts the octets into a
buffer as they come, and asks the codec for frames until it gives none. What
is to be sent the codec puts behind what a buffer already holds.
-/

namespace CardBridge.Frame

/-- What a codec can be given to encode. -/
inductive Item where
  /-- A frame that was received or made elsewhere. -/
  | frame (octets : Bytes)
  | payload (octets : Bytes)
  deriving Repr, DecidableEq

/-- What the frame of an item carries. -/
def Item.octets : Item → Bytes
  | .frame octets => octets
  | .payload octets => octets

namespace Codec

/-- What a codec gives to someone who asks for a frame. -/
abbrev Decoded := Except FrameError (Option Bytes)

/-- Takes a frame off the buffer, if one is complete. -/
def decode (buffer : Bytes) : Decoded × Bytes :=
  match decode? buffer with
  | some (payload, rest) => (.ok (some payload), rest)
  | none => (.ok none, buffer)

/-- The same at the end of the stream, where an unfinished frame is
dropped. -/
def decodeAtEnd (buffer : Bytes) : Decoded × Bytes :=
  let (payload?, rest) := decodeAtEnd? buffer
  (.ok payload?, rest)

/-- Asks for a frame, before or at the end of the stream. -/
def call (ended : Bool) (buffer : Bytes) : Decoded × Bytes :=
  if ended then decodeAtEnd buffer else decode buffer

/-- Puts an item behind what the buffer holds. -/
def encode (item : Item) (buffer : Bytes) : Except FrameError Unit × Bytes :=
  match Frame.encode item.octets buffer with
  | .ok longer => (.ok (), longer)
  | .error refusal => (.error refusal, buffer)

/-- What came of calls for a frame, one after the other, up to the first
that gave none. -/
structure Stint where
  frames : List Bytes := []
  /-- The error of the last call, if it gave one. -/
  failure : Option FrameError := none
  left : Bytes
  deriving Repr, DecidableEq

theorem call_eq (ended : Bool) (buffer : Bytes) :
    call ended buffer =
      match decode? buffer with
      | some (payload, rest) => (.ok (some payload), rest)
      | none => (.ok none, if ended then [] else buffer) := by
  cases ended <;> cases h : decode? buffer <;>
    simp [call, decodeAtEnd, decodeAtEnd?, decode, h]

/-- A call that gives a frame leaves less than there was. -/
theorem call_shortens {ended : Bool} {buffer payload rest : Bytes}
    (h : call ended buffer = (.ok (some payload), rest)) :
    rest.length < buffer.length := by
  rw [call_eq] at h
  cases hd : decode? buffer with
  | none => simp [hd] at h
  | some frame =>
    simp only [hd, Prod.mk.injEq, Except.ok.injEq, Option.some.injEq] at h
    obtain ⟨rfl, rfl⟩ := h
    exact decode?_shortens hd

/-- Asks for frames until there is none. -/
def calls (ended : Bool) (buffer : Bytes) : Stint :=
  match h : call ended buffer with
  | (.ok (some payload), rest) =>
    have := call_shortens h
    let later := calls ended rest
    { later with frames := payload :: later.frames }
  | (.ok none, rest) => { left := rest }
  | (.error e, rest) => { failure := some e, left := rest }
termination_by buffer.length

/-- A stream that comes in pieces and then ends. An error ends it at once. -/
def drive (buffer : Bytes) : List Bytes → Stint
  | [] => calls true buffer
  | piece :: pieces =>
    let now := calls false (buffer ++ piece)
    match now.failure with
    | some _ => now
    | none =>
      let later := drive now.left pieces
      { later with frames := now.frames ++ later.frames }

end Codec

end CardBridge.Frame
