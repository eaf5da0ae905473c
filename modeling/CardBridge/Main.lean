import CardBridge.Outer.Commands

/-!
# The program
-/

open CardBridge CardBridge.Cli CardBridge.Outer

/-- What is shown to someone who asks for help. -/
def CardBridge.Cli.usage : String :=
  "Connect a card backend to a virtual smart card reader\n\n" ++
  "Usage: vpcd-bridge [OPTIONS] <COMMAND>\n\n" ++
  "Commands:\n" ++
  "  run      Serve a card backend to a virtual smart card reader\n" ++
  "  reader   Act as the reader: wait for a card, power it on and " ++
  "exchange APDUs\n" ++
  "  version  Show version information\n" ++
  "  help     Print this message\n\n" ++
  "Options:\n" ++
  "      --format <FORMAT>      json, table or pretty\n" ++
  "      --log-format <FORMAT>  text or json [default: text]\n" ++
  "      --log-level <LEVEL>    error, warn, info, debug or trace " ++
  "[default: info]\n" ++
  "  -h, --help                 Print help\n" ++
  "  -V, --version              Print version"

/-- What is said about a command line that is not carried out. -/
def CardBridge.Cli.ArgsStop.describe : ArgsStop → String
  | .invalidValue => "error: invalid or missing value for an option"
  | .unknownArgument => "error: unexpected argument found"
  | .invalidSubcommand => "error: unrecognized subcommand"
  | .tooManyValues => "error: unexpected value for an option"
  | .valueValidation => "error: invalid value for an option"
  | .argumentConflict => "error: an option cannot be used multiple times"
  | .missingRequiredArgument => "error: a required argument was not provided"
  | .missingSubcommand => "error: a subcommand is required but was not provided"
  | .displayHelp => usage
  | .displayHelpOnMissingArgumentOrSubcommand => usage
  | .displayVersion => s!"{programName} {programVersion}"

/-- The variables of the environment that options know. -/
def CardBridge.Cli.environment : IO (List (String × String)) := do
  let names := serveOptions.filterMap (·.variableName)
  let values ← names.mapM fun name => return (name, ← IO.getEnv name)
  return values.filterMap fun (name, value) => value.map fun v => (name, v)

def main (args : List String) : IO UInt32 := do
  match readArgs (← environment) args with
  | .error stop =>
    if stop.exitCode = 0 then IO.println stop.describe
    else IO.eprintln stop.describe
    return stop.exitCode.toUInt32
  | .ok invocation =>
    let terminal ← (← IO.getStdout).isTty
    let usual := if terminal then Format.pretty else Format.json
    let o : Output :=
      ⟨invocation.format.getD usual, invocation.logFormat, invocation.logLevel⟩
    return (← carryOut o invocation.command).toUInt32
