/-!
# Tokens

By its token a session is told to stop, by anyone and at any time. While the
session serves a connection the token holds a handle to it. Whoever is the
first to cancel the token is given that handle, and shuts the connection
down with it; nobody else ever gets it.
-/

namespace CardBridge

/-- What a token knows. A token that was cancelled holds no connection. -/
inductive Token (Handle : Type) where
  /-- The session may go on; this is a handle to the connection it serves. -/
  | active (connection : Option Handle)
  | cancelled
  deriving Repr, DecidableEq

namespace Token

variable {Handle : Type}

/-- A token that nobody has used. -/
def fresh : Token Handle :=
  active none

def isCancelled : Token Handle → Bool
  | active _ => false
  | cancelled => true

def connection? : Token Handle → Option Handle
  | active connection => connection
  | cancelled => none

/-- Hands a connection over, unless the session was told to stop; says
whether it was taken. -/
def register (handle : Handle) : Token Handle → Bool × Token Handle
  | active _ => (true, active (some handle))
  | cancelled => (false, cancelled)

def clear : Token Handle → Token Handle
  | active _ => active none
  | cancelled => cancelled

/-- Tells the session to stop; gives the connection that is to be shut down
for that. -/
def cancel : Token Handle → Option Handle × Token Handle
  | active connection => (connection, cancelled)
  | cancelled => (none, cancelled)

@[simp] theorem isCancelled_register (handle : Handle) (t : Token Handle) :
    (t.register handle).2.isCancelled = t.isCancelled := by
  cases t <;> rfl

@[simp] theorem register_fst (handle : Handle) (t : Token Handle) :
    (t.register handle).1 = !t.isCancelled := by
  cases t <;> rfl

@[simp] theorem isCancelled_clear (t : Token Handle) :
    t.clear.isCancelled = t.isCancelled := by
  cases t <;> rfl

@[simp] theorem connection?_clear (t : Token Handle) :
    t.clear.connection? = none := by
  cases t <;> rfl

@[simp] theorem cancel_snd (t : Token Handle) : t.cancel.2 = cancelled := by
  cases t <;> rfl

@[simp] theorem cancel_fst (t : Token Handle) :
    t.cancel.1 = t.connection? := by
  cases t <;> rfl

end Token

end CardBridge
