import CardBridge.IoError

/-!
# Transport errors

What can go wrong before a connection is there, and with its settings
afterwards.
-/

namespace CardBridge

/-- Why a connection could not be made or set up. -/
inductive TransportError where
  | resolve (host : String) (port : UInt16) (cause : IoError)
  | bind (address : String) (cause : IoError)
  | connect (address : String) (cause : IoError)
  | accept (cause : IoError)
  | io (cause : IoError)
  | shutdown
  deriving Repr, DecidableEq

namespace TransportError

def message : TransportError → String
  | resolve host port cause =>
    s!"failed to resolve {host}:{port}: {cause.text}"
  | bind address cause => s!"failed to bind to {address}: {cause.text}"
  | connect address cause => s!"failed to connect to {address}: {cause.text}"
  | accept cause => s!"failed to accept connection: {cause.text}"
  | io cause => s!"transport I/O error: {cause.text}"
  | shutdown => "transport shut down"

/-- The failure underneath, if there is one. -/
def cause? : TransportError → Option IoError
  | resolve _ _ cause => some cause
  | bind _ cause => some cause
  | connect _ cause => some cause
  | accept cause => some cause
  | io cause => some cause
  | shutdown => none

/-- The texts of the failures underneath, from the outside in. A failure to
accept stands for itself. -/
def sources : TransportError → List String
  | resolve _ _ cause => [cause.text]
  | bind _ cause => [cause.text]
  | connect _ cause => [cause.text]
  | io cause => [cause.text]
  | accept _ => []
  | shutdown => []

end TransportError

end CardBridge
