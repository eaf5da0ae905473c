import CardBridge.Session.Error
import CardBridge.Session.Event

/-!
# Exit codes

How a command comes to its end: with a code for the caller, and if it failed
with a text for people.
-/

namespace CardBridge.Cli

/-- The number with which the program ends. -/
abbrev ExitCode := Nat

def ExitCode.success : ExitCode := 0

def ExitCode.failure : ExitCode := 1

/-- A connection could not be made or broke. -/
def ExitCode.transport : ExitCode := 3

/-- The data are invalid. -/
def ExitCode.dataInvalid : ExitCode := 60

def ExitCode.usage : ExitCode := 64

def ExitCode.timeout : ExitCode := 124

/-- The program itself could not do its work. -/
def ExitCode.internal : ExitCode := 125

def ExitCode.ofReason : ExitReason → ExitCode
  | .cancelled => success
  | .peerClosed => success
  | .failed _ => failure

/-- The failure of a command. -/
structure Failure where
  code : ExitCode
  message : String
  deriving Repr, DecidableEq

namespace Failure

/-- A failure with its text behind what was being done. -/
def during (context : String) (code : ExitCode) (text : String) : Failure :=
  ⟨code, s!"{context}: {text}"⟩

/-- The code for a failed operation, by its kind. -/
def codeOfKind (kind : IoError.Kind) : ExitCode :=
  match kind with
  | .timedOut => .timeout
  | .wouldBlock => .timeout
  | .connectionRefused => .transport
  | .connectionReset => .transport
  | .brokenPipe => .transport
  | .addrInUse => .transport
  | .addrNotAvailable => .transport
  | _ => .failure

def ofIo (context : String) (e : IoError) : Failure :=
  during context (codeOfKind e.kind) e.text

/-- The code for a place that could not be reached or taken. -/
def codeOfPlace (cause : IoError) : ExitCode :=
  if cause.kind = .timedOut then .timeout else .transport

def ofTransport (context : String) (e : TransportError) : Failure :=
  match e with
  | .resolve .. => during context .usage e.message
  | .bind _ cause => during context (codeOfPlace cause) e.message
  | .connect _ cause => during context (codeOfPlace cause) e.message
  | .io cause => ofIo context cause
  | .accept cause => ofIo context cause
  | .shutdown => during context .transport e.message

def ofFrame (context : String) (e : FrameError) : Failure :=
  match e with
  | .io cause => ofIo context cause
  | .payloadTooLarge .. => during context .dataInvalid e.message
  | .ambiguousApdu => during context .dataInvalid e.message
  | .unhandledCommand _ => during context .failure e.message
  | .connectionClosed => during context .failure e.message

def ofCard (context : String) (e : CardError) : Failure :=
  match e with
  | .transport cause => ofTransport context cause
  | .frame cause => ofFrame context cause
  | .io cause => ofIo context cause
  | .remoteClosed => during context .failure e.message
  | .ejected => during context .failure e.message
  | .fault _ => during context .failure e.message

def ofSession (context : String) (e : SessionError) : Failure :=
  match e with
  | .transport cause => ofTransport context cause
  | .frame cause => ofFrame context cause
  | .card cause => ofCard context cause
  | .protocol _ => during context .dataInvalid e.message
  | .spawn _ => during context .internal e.message

end Failure

end CardBridge.Cli
