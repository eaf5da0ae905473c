import CardBridge.Log
import CardBridge.Text.Tagged

/-!
# Status events

What a session tells those who watch it. Octets are shown in upper case
hexadecimal digits.
-/

namespace CardBridge

/-- Why a session ended. -/
inductive ExitReason where
  | cancelled
  /-- The reader that was dialed ended the connection. -/
  | peerClosed
  | failed (text : String)
  deriving Repr, DecidableEq

namespace ExitReason

def describe : ExitReason → String
  | cancelled => "cancelled"
  | peerClosed => "peer closed"
  | failed text => s!"failed: {text}"

/-- Only a failure is one. -/
def isFailure : ExitReason → Bool
  | failed _ => true
  | _ => false

def json : ExitReason → JsonValue
  | cancelled => .text (Text.snakeCase "Cancelled")
  | peerClosed => .text (Text.snakeCase "PeerClosed")
  | failed text => .object [(Text.snakeCase "Failed", .text text)]

end ExitReason

/-- Something that happened in a session. -/
inductive Event where
  /-- Connections are accepted on a port of these addresses. -/
  | listening (port : UInt16) (addresses : List String)
  | connected (address : String)
  | poweredOn
  | poweredOff
  | reset
  /-- The answer to reset after the card was given power. -/
  | atr (digits : String)
  /-- A command is about to go to the card. -/
  | commandApdu (apdu : String)
  | responseApdu (apdu : String)
  | error (message : String)
  /-- A reader that had connected is gone, and the session waits for the
  next one. -/
  | clientDisconnected (address : String)
  | disconnected (reason : ExitReason)
  deriving Repr, DecidableEq

namespace Event

def kind : Event → String
  | listening .. => "listening"
  | connected _ => "connected"
  | poweredOn => "powered_on"
  | poweredOff => "powered_off"
  | reset => "reset"
  | atr _ => "atr"
  | commandApdu _ => "command_apdu"
  | responseApdu _ => "response_apdu"
  | error _ => "error"
  | clientDisconnected _ => "client_disconnected"
  | disconnected _ => "disconnected"

def describe : Event → String
  | listening port [] => s!"listening on port {port}"
  | listening port addresses =>
    s!"listening on port {port}; local addresses: " ++
      ", ".intercalate addresses
  | connected address => s!"connected to {address}"
  | poweredOn => "powered up the card"
  | poweredOff => "powered down the card (cold reset)"
  | reset => "reset the card (warm reset)"
  | atr digits => s!"ATR {digits}"
  | commandApdu apdu => s!"C-APDU {apdu}"
  | responseApdu apdu => s!"R-APDU {apdu}"
  | error message => s!"error: {message}"
  | clientDisconnected address =>
    s!"client {address} disconnected; waiting for connections"
  | disconnected reason => s!"disconnected ({reason.describe})"

/-- Nothing follows the event that the session is over. -/
def isTerminal : Event → Bool
  | disconnected _ => true
  | _ => false

/-- An event by the name of the alternative, and its details. -/
def members : Event → List (String × JsonValue)
  | listening port addresses =>
    Text.tagged "Listening" [("port", .number port.toNat),
      ("addresses", .list (addresses.map .text))]
  | connected address => Text.tagged "Connected" [("address", .text address)]
  | poweredOn => Text.tagged "PoweredOn" []
  | poweredOff => Text.tagged "PoweredOff" []
  | reset => Text.tagged "Reset" []
  | atr digits => Text.tagged "Atr" [("atr", .text digits)]
  | commandApdu apdu => Text.tagged "CommandApdu" [("apdu", .text apdu)]
  | responseApdu apdu => Text.tagged "ResponseApdu" [("apdu", .text apdu)]
  | error message => Text.tagged "Error" [("message", .text message)]
  | clientDisconnected address =>
    Text.tagged "ClientDisconnected" [("address", .text address)]
  | disconnected reason => Text.tagged "Disconnected" [("reason", reason.json)]

/-- An event as data. -/
def json (event : Event) : JsonValue :=
  .object event.members

/-- An event as a log record. The text of an error takes the place of the
message; what passes between reader and card is of interest to few. -/
def record : Event → Log.Record
  | error message => ⟨.error, message, []⟩
  | commandApdu apdu => ⟨.debug, "C-APDU", [("apdu", .text apdu)]⟩
  | responseApdu apdu => ⟨.debug, "R-APDU", [("apdu", .text apdu)]⟩
  | event => ⟨.info, event.describe, [("event", .text event.kind)]⟩

end Event

end CardBridge
