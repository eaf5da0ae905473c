import CardBridge.Cli.Options
import CardBridge.Cli.Reader
import CardBridge.Cli.Serve
import CardBridge.Cli.Version

/-!
# The command line

Options may stand anywhere behind the command that knows them; those of the
program itself are known to every command. An option is written `--name
value` or `--name=value`, or `-n value`, `-nvalue` or `-n=value` where it has
a letter. It may be given once. Where it is not given, a variable of the
environment may stand in for it.

Of several faults the one that is met first is reported, and a value of its
own argument is not looked at before the next option is taken, or before all
arguments were. So an argument that nobody knows is reported rather than a
wrong value right before it, and a fault behind the name of a command rather
than a wrong value right before that name.
-/

namespace CardBridge.Cli

/-- How log records are written. -/
inductive LogFormat where
  | text
  | json
  deriving Repr, DecidableEq

/-- What the program was called to do. -/
inductive Command where
  | serve (args : Serve.Args)
  | reader (args : Reader.Args)
  | version (extended : Bool)
  deriving Repr, DecidableEq

/-- Everything that the command line says. -/
structure Invocation where
  format : Option Format := none
  logFormat : LogFormat := .text
  /-- The least urgent log records that are written. -/
  logLevel : Log.Level := .info
  command : Command
  deriving Repr, DecidableEq

/-! ## Reading the arguments -/

/-- The values given to options, in order. -/
abbrev Given := List (String × String)

def note (spec : OptionSpec) (value : String) (given : Given) :
    Except ArgsStop Given := do
  if !spec.repeatable && (given.lookup spec.name).isSome then
    throw .argumentConflict
  spec.shape.check value
  return given ++ [(spec.name, value)]

/-- An argument by its form. -/
inductive Argument where
  /-- Two hyphens: what follows are no options. -/
  | escape
  | long (name : String) (value : Option String)
  | short (letters : List Char)
  | word (text : String)
  deriving Repr, DecidableEq

def Argument.ofText (text : String) : Argument :=
  match text.toList with
  | ['-', '-'] => .escape
  | '-' :: '-' :: rest =>
    let value := match rest.dropWhile (· ≠ '=') with
      | [] => none
      | _ :: value => some (String.ofList value)
    .long (String.ofList (rest.takeWhile (· ≠ '='))) value
  | '-' :: c :: rest => .short (c :: rest)
  | _ => .word text

/-- The last option, as long as its value was not looked at. -/
inductive Pending where
  /-- There is no such option. -/
  | nothing
  /-- An option that still lacks its value. -/
  | lacking (spec : OptionSpec)
  | complete (spec : OptionSpec) (value : String)
  deriving Repr, DecidableEq

/-- What is known of the arguments of the program or of a command. -/
structure Scan where
  specs : List OptionSpec
  /-- These are the arguments of the program, in front of its command. -/
  top : Bool
  given : Given := []
  pending : Pending := .nothing

namespace Scan

/-- Looks at the value of the last option. -/
def settle (s : Scan) : Except ArgsStop Scan :=
  match s.pending with
  | .nothing => .ok s
  | .lacking _ => .error .invalidValue
  | .complete spec value => do
    return { s with given := ← note spec value s.given, pending := .nothing }

def takeOption (s : Scan) (spec : OptionSpec) (value : Option String) :
    Except ArgsStop Scan := do
  match spec.shape, value with
  | .flag, some _ => throw .tooManyValues
  | .flag, none => do
    let s ← s.settle
    return { s with given := ← note spec "true" s.given }
  | _, some value => do
    let s ← s.settle
    return { s with given := ← note spec value s.given }
  | _, none => do
    let s ← s.settle
    return { s with pending := .lacking spec }

/-- Answers one who asks for help or for the version. -/
def tell (s : Scan) (stop : ArgsStop) (value : Option String) :
    Except ArgsStop Scan := do
  if value.isSome then throw .tooManyValues
  let _ ← s.settle
  throw stop

def takeLong (s : Scan) (name : String) (value : Option String) :
    Except ArgsStop Scan :=
  match s.specs.find? (·.name = name) with
  | some spec => s.takeOption spec value
  | none =>
    if name = "help" then s.tell .displayHelp value
    else if name = "version" ∧ s.top then s.tell .displayVersion value
    else .error .unknownArgument

/-- Takes options by their letters. What follows the letter of an option
with a value is that value. -/
def takeShort (s : Scan) : List Char → Except ArgsStop Scan
  | [] => .ok s
  | c :: rest =>
    match s.specs.find? (·.letter = some c) with
    | some spec =>
      match spec.shape, rest with
      | .flag, _ => do (← s.takeOption spec none).takeShort rest
      | _, [] => s.takeOption spec none
      | _, '=' :: value => s.takeOption spec (some (String.ofList value))
      | _, value => s.takeOption spec (some (String.ofList value))
    | none =>
      if c = 'h' then s.tell .displayHelp none
      else if c = 'V' ∧ s.top then s.tell .displayVersion none
      else .error .unknownArgument

/-- The complaint about a word that belongs to no option. A command cannot
be named behind two hyphens. -/
def stray (s : Scan) (word : String) : ArgsStop :=
  if s.top && !isCommandName word then .invalidSubcommand
  else .unknownArgument

/-- Takes arguments up to the name of a command, which gives the rest. -/
def read (s : Scan) : List String → Except ArgsStop (Scan × List String)
  | [] => .ok (s, [])
  | text :: rest => do
    match Argument.ofText text, s.pending with
    | .escape, _ =>
      match rest with
      | [] => return (s, [])
      | word :: _ => throw (s.stray word)
    | .long name value, _ => (← s.takeLong name value).read rest
    | .short letters, _ => (← s.takeShort letters).read rest
    | .word value, .lacking spec =>
      read { s with pending := .complete spec value } rest
    | .word name, _ =>
      if s.top && isCommandName name then return (s, name :: rest)
      else throw (s.stray name)

end Scan

/-- Adds the values that variables of the environment stand in with. -/
def standIn (environment : List (String × String)) :
    List OptionSpec → Given → Except ArgsStop Given
  | [], given => .ok given
  | spec :: specs, given => do
    let value := do environment.lookup (← spec.variableName)
    match given.lookup spec.name, value with
    | none, some value =>
      standIn environment specs (← note spec value given)
    | _, _ => standIn environment specs given

/-- Reads the options of a command, which takes no words. -/
def readCommand (environment : List (String × String))
    (specs : List OptionSpec) (args : List String) :
    Except ArgsStop Given := do
  let scan : Scan := { specs := specs ++ globalOptions, top := false }
  let (scan, _) ← scan.read args
  standIn environment specs (← scan.settle).given

/-! ## What was asked for -/

def formatOf : String → Format
  | "table" => .table
  | "pretty" => .pretty
  | _ => .json

def levelOf : String → Log.Level
  | "error" => .error
  | "warn" => .warn
  | "debug" => .debug
  | "trace" => .trace
  | _ => .info

def serveArgs (given : Given) : Except ArgsStop Serve.Args := do
  let text (name : String) (usual : String) := (given.lookup name).getD usual
  let port (name : String) := ((given.lookup name).bind portOf?).getD defaultPort
  let card := if text "backend" "dummy" = "relay" then Serve.CardKind.relay
    else Serve.CardKind.dummy
  if card = .relay ∧ given.lookup "relay-host" = none then
    throw .missingRequiredArgument
  return {
    host := text "host" defaultHost
    port := port "port"
    listen := text "listen" "false" = "true"
    listenAddress := text "listen-address" defaultListenAddress
    card := card
    relayHost := given.lookup "relay-host"
    relayPort := port "relay-port"
    connectTimeout := text "connect-timeout" "10s"
    ioTimeout := given.lookup "io-timeout" }

def readerArgs (given : Given) : Reader.Args where
  bind := (given.lookup "bind").getD defaultListenAddress
  port := ((given.lookup "port").bind portOf?).getD defaultPort
  apdus := (given.filter (·.1 = "apdu")).map (·.2)
  timeout := given.lookup "timeout"

/-- The command with a name, from the values of its options. -/
def commandOf (name : String) (given : Given) : Except ArgsStop Command :=
  match name with
  | "run" => (serveArgs given).map .serve
  | "reader" => .ok (.reader (readerArgs given))
  | _ => .ok (.version ((given.lookup "extended").isSome))

/-- Answers one who asks for help on some topics. A command has no commands
of its own. -/
def helpOn : List String → ArgsStop
  | [] => .displayHelp
  | [topic] =>
    if isCommandName topic then .displayHelp else .invalidSubcommand
  | _ => .invalidSubcommand

def readArgs (environment : List (String × String)) (args : List String) :
    Except ArgsStop Invocation := do
  let scan : Scan := { specs := globalOptions, top := true }
  match ← scan.read args with
  | (scan, []) =>
    if (← scan.settle).given.isEmpty then
      throw .displayHelpOnMissingArgumentOrSubcommand
    else throw .missingSubcommand
  | (_, "help" :: topics) => throw (helpOn topics)
  | (scan, name :: rest) =>
    let specs := (optionsOf name).getD []
    let inner ← readCommand environment specs rest
    let command ← commandOf name inner
    let outer := (← scan.settle).given
    let either (option : String) :=
      (inner.lookup option).orElse fun _ => outer.lookup option
    return {
      format := (either "format").map formatOf
      logFormat := if either "log-format" = some "json" then .json else .text
      logLevel := ((either "log-level").map levelOf).getD .info
      command := command }

end CardBridge.Cli
