import CardBridge.Cli.Timeout

/-!
# Options of the command line

Which options each command knows, and which values they take.
-/

namespace CardBridge.Cli

/-- Why a command line is not carried out. -/
inductive ArgsStop where
  | invalidValue
  | unknownArgument
  | invalidSubcommand
  | tooManyValues
  | valueValidation
  | argumentConflict
  | missingRequiredArgument
  | missingSubcommand
  | displayHelp
  /-- Nothing is given at all, which calls for help. -/
  | displayHelpOnMissingArgumentOrSubcommand
  | displayVersion
  deriving Repr, DecidableEq

def ArgsStop.exitCode : ArgsStop → ExitCode
  | .displayHelp => .success
  | .displayVersion => .success
  | _ => 2

/-- What the value of an option must be. -/
inductive Shape where
  | flag
  | free
  | port
  | oneOf (words : List String)
  deriving Repr, DecidableEq

structure OptionSpec where
  name : String
  shape : Shape
  letter : Option Char := none
  repeatable : Bool := false
  /-- The variable of the environment that may stand in for it. -/
  variableName : Option String := none
  deriving Repr, DecidableEq

/-- The options that every command knows. -/
def globalOptions : List OptionSpec :=
  [{ name := "format", shape := .oneOf ["json", "table", "pretty"] },
   { name := "log-format", shape := .oneOf ["text", "json"] },
   { name := "log-level",
     shape := .oneOf ["error", "warn", "info", "debug", "trace"] }]

def serveOptions : List OptionSpec :=
  [{ name := "host", shape := .free, variableName := some "VPCD_HOST" },
   { name := "port", shape := .port, letter := some 'p',
     variableName := some "VPCD_PORT" },
   { name := "listen", shape := .flag, variableName := some "VPCD_LISTEN" },
   { name := "listen-address", shape := .free },
   { name := "backend", shape := .oneOf ["dummy", "relay"] },
   { name := "relay-host", shape := .free },
   { name := "relay-port", shape := .port },
   { name := "connect-timeout", shape := .free,
     variableName := some "VPCD_CONNECT_TIMEOUT" },
   { name := "io-timeout", shape := .free }]

def readerOptions : List OptionSpec :=
  [{ name := "bind", shape := .free },
   { name := "port", shape := .port, letter := some 'p' },
   { name := "apdu", shape := .free, repeatable := true },
   { name := "timeout", shape := .free }]

def versionOptions : List OptionSpec :=
  [{ name := "extended", shape := .flag }]

def optionsOf : String → Option (List OptionSpec)
  | "run" => some serveOptions
  | "reader" => some readerOptions
  | "version" => some versionOptions
  | _ => none

/-- The names that may stand where a command is expected. -/
def isCommandName (name : String) : Bool :=
  name = "help" || (optionsOf name).isSome

/-- Reads a port number: decimal digits, with at most one sign before them.
A minus sign only goes with zero. -/
def portOf? (text : String) : Option UInt16 :=
  match text.toList with
  | '-' :: digits =>
    if digits ≠ [] ∧ digits.all (· = '0') then some 0 else none
  | digits =>
    match word? digits with
    | some n => if n < UInt16.size then some n.toUInt16 else none
    | none => none

def Shape.check (text : String) : Shape → Except ArgsStop Unit
  | .flag =>
    if text = "true" ∨ text = "false" then .ok () else .error .invalidValue
  | .free => .ok ()
  | .port => if (portOf? text).isSome then .ok () else .error .valueValidation
  | .oneOf words =>
    if words.contains text then .ok () else .error .invalidValue

end CardBridge.Cli
