/-!
# Input and output errors

What a socket, a file descriptor or a card reader reports when a single
operation fails: a kind, which decides how the failure is handled, and a
text, which is shown to people.
-/

namespace CardBridge

namespace IoError

/-- The kinds of failure that are told apart. -/
inductive Kind where
  | notFound
  | permissionDenied
  | connectionRefused
  | connectionReset
  | connectionAborted
  | notConnected
  | addrInUse
  | addrNotAvailable
  | brokenPipe
  | alreadyExists
  | wouldBlock
  | invalidInput
  | invalidData
  | timedOut
  | writeZero
  | interrupted
  | unsupported
  | unexpectedEof
  | outOfMemory
  | hostUnreachable
  | networkUnreachable
  | other
  deriving Repr, DecidableEq

def kinds : List Kind :=
  [.notFound, .permissionDenied, .connectionRefused, .connectionReset,
   .connectionAborted, .notConnected, .addrInUse, .addrNotAvailable,
   .brokenPipe, .alreadyExists, .wouldBlock, .invalidInput, .invalidData,
   .timedOut, .writeZero, .interrupted, .unsupported, .unexpectedEof,
   .outOfMemory, .hostUnreachable, .networkUnreachable, .other]

/-- The text of a failure of which nothing but the kind is known. -/
def Kind.description : Kind → String
  | notFound => "entity not found"
  | permissionDenied => "permission denied"
  | connectionRefused => "connection refused"
  | connectionReset => "connection reset"
  | connectionAborted => "connection aborted"
  | notConnected => "not connected"
  | addrInUse => "address in use"
  | addrNotAvailable => "address not available"
  | brokenPipe => "broken pipe"
  | alreadyExists => "entity already exists"
  | wouldBlock => "operation would block"
  | invalidInput => "invalid input parameter"
  | invalidData => "invalid data"
  | timedOut => "timed out"
  | writeZero => "write zero"
  | interrupted => "operation interrupted"
  | unsupported => "unsupported"
  | unexpectedEof => "unexpected end of file"
  | outOfMemory => "out of memory"
  | hostUnreachable => "host unreachable"
  | networkUnreachable => "network unreachable"
  | other => "other error"

end IoError

/-- A failed operation on a socket, a file descriptor or a card reader. -/
structure IoError where
  kind : IoError.Kind
  text : String
  deriving Repr, DecidableEq

namespace IoError

/-- A failure of which nothing but the kind is known. -/
def ofKind (kind : Kind) : IoError :=
  ⟨kind, kind.description⟩

/-- The system's error numbers that socket operations give, each with its
meaning in words and its kind. -/
def systemErrors : List (Nat × String × Kind) :=
  [(2, "No such file or directory", .notFound),
   (4, "Interrupted system call", .interrupted),
   (11, "Resource temporarily unavailable", .wouldBlock),
   (13, "Permission denied", .permissionDenied),
   (32, "Broken pipe", .brokenPipe),
   (98, "Address already in use", .addrInUse),
   (99, "Cannot assign requested address", .addrNotAvailable),
   (101, "Network is unreachable", .networkUnreachable),
   (104, "Connection reset by peer", .connectionReset),
   (107, "Transport endpoint is not connected", .notConnected),
   (110, "Connection timed out", .timedOut),
   (111, "Connection refused", .connectionRefused),
   (113, "No route to host", .hostUnreachable)]

/-- The failure that the system reports by the number `code`. -/
def ofSystem? (code : Nat) : Option IoError :=
  (systemErrors.lookup code).map fun (words, kind) =>
    ⟨kind, s!"{words} (os error {code})"⟩

/-- An interrupted operation is tried again by everyone who meets one. -/
def isInterrupted (e : IoError) : Bool :=
  e.kind = .interrupted

/-- The operation did not finish in its time. -/
def isTimeout (e : IoError) : Bool :=
  e.kind = .wouldBlock ∨ e.kind = .timedOut

end IoError

end CardBridge
