import CardBridge.Frame.Error
import CardBridge.Transport.Error

/-!
# Card errors
-/

namespace CardBridge

/-- Why an operation on a card failed. -/
inductive CardError where
  | io (cause : IoError)
  /-- A remote card could not be told, or its answer not understood. -/
  | frame (cause : FrameError)
  | transport (cause : TransportError)
  | remoteClosed
  | ejected
  | fault (text : String)
  deriving Repr, DecidableEq

def CardError.message : CardError → String
  | io cause => s!"card I/O error: {cause.text}"
  | frame cause => s!"remote card framing error: {cause.message}"
  | transport cause => s!"remote card transport error: {cause.message}"
  | remoteClosed => "remote card closed the connection"
  | ejected => "card backend already ejected"
  | fault text => s!"card fault: {text}"

/-- The texts of the failures underneath, from the outside in. -/
def CardError.sources : CardError → List String
  | io cause => [cause.text]
  | frame cause => cause.message :: cause.sources
  | transport cause => cause.message :: cause.sources
  | _ => []

end CardBridge
