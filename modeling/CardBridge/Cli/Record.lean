import CardBridge.Session.Event
import CardBridge.Text.Table

/-!
# What the program prints

A record for everything that happens, as a line of JSON, as a table, or as
a line for people.
-/

namespace CardBridge.Cli

/-- A thing worth printing. -/
inductive Record where
  | status (event : Event)
  | waitingForCard (port : UInt16)
  | cardConnected (address : String)
  | atr (digits : String)
  | exchange (command response : String)
  deriving Repr, DecidableEq

inductive Format where
  | json
  | table
  | pretty
  deriving Repr, DecidableEq

namespace Record

def kind : Record → String
  | status event => event.kind
  | waitingForCard _ => "waiting_for_card"
  | cardConnected _ => "card_connected"
  | atr _ => "atr"
  | exchange .. => "exchange"

/-- The details of an event, as the rows of a table. -/
def eventFields : Event → List (String × String)
  | .listening port addresses =>
    [("port", toString port.toNat),
     ("addresses", ", ".intercalate addresses)]
  | .connected address => [("address", address)]
  | .clientDisconnected address => [("address", address)]
  | .atr digits => [("atr", digits)]
  | .commandApdu apdu => [("apdu", apdu)]
  | .responseApdu apdu => [("apdu", apdu)]
  | .error message => [("message", message)]
  | .disconnected reason => [("reason", reason.describe)]
  | .poweredOn => []
  | .poweredOff => []
  | .reset => []

def fields : Record → List (String × String)
  | status event => eventFields event
  | waitingForCard port => [("port", toString port.toNat)]
  | cardConnected address => [("address", address)]
  | atr digits => [("atr", digits)]
  | exchange command response =>
    [("command", command), ("response", response)]

def members : Record → List (String × JsonValue)
  | status event => event.members
  | waitingForCard port =>
    Text.tagged "WaitingForCard" [("port", .number port.toNat)]
  | cardConnected address =>
    Text.tagged "CardConnected" [("address", .text address)]
  | atr digits => Text.tagged "Atr" [("atr", .text digits)]
  | exchange command response =>
    Text.tagged "Exchange" [("command", .text command),
      ("response", .text response)]

/-- A record in one line for people. -/
def summary : Record → String
  | status event => event.describe
  | waitingForCard port => s!"waiting for a card on port {port}"
  | cardConnected address => s!"card connected from {address}"
  | atr digits => s!"ATR {digits}"
  | exchange command response => s!"{command} -> {response}"

/-- A record as data, behind the time. -/
def json (timestamp : String) (record : Record) : JsonValue :=
  .object (("timestamp", .text timestamp) :: record.members)

def table (record : Record) : List String :=
  let row (pair : String × String) : List Text.Table.Cell :=
    [Text.Table.cell pair.1.toList, Text.Table.cell pair.2.toList]
  (Text.Table.lines (row ("EVENT", record.kind))
    (record.fields.map row)).map String.ofList

def render (format : Format) (timestamp : String) (record : Record) :
    String :=
  match format with
  | .json => (record.json timestamp).print
  | .table => "\n".intercalate record.table
  | .pretty => record.summary

end Record

end CardBridge.Cli
