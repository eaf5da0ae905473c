import CardBridge.Card.Error

/-!
# Session errors
-/

namespace CardBridge

/-- Why a session failed. -/
inductive SessionError where
  /-- Dialing, listening or accepting failed, or setting up a connection. -/
  | transport (cause : TransportError)
  | frame (cause : FrameError)
  /-- A request or a response that the protocol does not allow. -/
  | protocol (text : String)
  | card (cause : CardError)
  | spawn (cause : IoError)
  deriving Repr, DecidableEq

namespace SessionError

def message : SessionError → String
  | transport cause => s!"transport error: {cause.message}"
  | frame cause => s!"frame error: {cause.message}"
  | protocol text => s!"protocol error: {text}"
  | card cause => s!"backend error: {cause.message}"
  | spawn cause => s!"failed to spawn session worker: {cause.text}"

/-- What kind of error it is, without the detail. -/
def kind : SessionError → String
  | transport _ => "transport error"
  | frame _ => "frame error"
  | protocol _ => "protocol error"
  | card _ => "backend error"
  | spawn _ => "spawn error"

/-- Whether the way to the reader failed. -/
def isIo : SessionError → Bool
  | transport _ => true
  | frame (.io _) => true
  | _ => false

def sources : SessionError → List String
  | transport cause => cause.message :: cause.sources
  | frame cause => cause.message :: cause.sources
  | card cause => cause.message :: cause.sources
  | protocol _ => []
  | spawn _ => []

end SessionError

end CardBridge
