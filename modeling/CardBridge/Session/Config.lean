import CardBridge.Duration
import CardBridge.Text.Quoted

/-!
# Session settings
-/

namespace CardBridge

/-- The port on which virtual readers listen. -/
def defaultPort : UInt16 := 35963

/-- The host of an emulator, as its guest sees it. -/
def defaultHost : String := "10.0.2.2"

/-- Every local address. -/
def defaultListenAddress : String := "0.0.0.0"

/-- The bound on dialing. -/
def defaultConnectTimeout : Duration := .ofSeconds 10

/-- How long one wait for a connection lasts. -/
def defaultPollInterval : Duration := .ofSeconds 1

/-- The settings of a session, which do not change while it runs. -/
structure SessionConfig where
  hostname : String := defaultHost
  port : UInt16 := defaultPort
  listen : Bool := false
  listenAddress : String := defaultListenAddress
  connectTimeout : Option Duration := some defaultConnectTimeout
  /-- How long one wait for a connection lasts, and so how late a
  cancellation can be noticed. -/
  pollInterval : Duration := defaultPollInterval
  ioTimeout : Option Duration := none
  deriving Repr, DecidableEq

namespace SessionConfig

/-- Dials a host. -/
def client (hostname : String) (port : UInt16) : SessionConfig :=
  { hostname, port }

/-- Listens on every local address. -/
def listener (port : UInt16) : SessionConfig :=
  { port, listen := true }

def describeBound : Option Duration → String
  | none => "None"
  | some d => s!"Some({d.describe})"

/-- The settings in words, each with its name. -/
def describe (config : SessionConfig) : String :=
  "SessionConfig \x7b " ++ ", ".intercalate
    [s!"hostname: {Text.quoted config.hostname}",
     s!"port: {config.port}",
     s!"listen: {config.listen}",
     s!"listen_address: {Text.quoted config.listenAddress}",
     s!"connect_timeout: {describeBound config.connectTimeout}",
     s!"accept_poll_interval: {config.pollInterval.describe}",
     s!"io_timeout: {describeBound config.ioTimeout}"] ++ " \x7d"

end SessionConfig

end CardBridge
