import CardBridge.IoError
import CardBridge.Text.Hex

/-!
# Framing errors

Everything that can go wrong between a payload and the wire.
-/

namespace CardBridge

/-- Why a frame could not be sent, received or understood. -/
inductive FrameError where
  /-- The payload has `size` octets, and a frame holds at most `limit`. -/
  | payloadTooLarge (size limit : Nat)
  | unhandledCommand (code : UInt8)
  /-- An APDU of one byte would be taken for a control command. -/
  | ambiguousApdu
  | io (cause : IoError)
  /-- The stream ended, between two frames or inside one. -/
  | connectionClosed
  deriving Repr, DecidableEq

namespace FrameError

/-- The text shown for an unknown control code, in two lower case digits. -/
def unhandledText (code : UInt8) : String :=
  s!"unhandled command 0x{Hex.lower [code]}"

def message : FrameError → String
  | payloadTooLarge size limit =>
    s!"payload too large ({size} bytes, max {limit})"
  | unhandledCommand code => unhandledText code
  | ambiguousApdu =>
    "a 1-byte APDU is indistinguishable from a control command"
  | io cause => s!"frame I/O error: {cause.text}"
  | connectionClosed => "connection closed"

/-- The peer has ended the stream; nothing else went wrong. -/
def isEndOfStream : FrameError → Bool
  | connectionClosed => true
  | _ => false

/-- The stream was not ready in time; the next try may succeed. -/
def isTimeout : FrameError → Bool
  | io cause => cause.isTimeout
  | _ => false

/-- The texts of the failures underneath, from the outside in. -/
def sources : FrameError → List String
  | io cause => [cause.text]
  | _ => []

end FrameError

end CardBridge
