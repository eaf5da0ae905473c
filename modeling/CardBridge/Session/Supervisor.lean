import CardBridge.Session.Run

/-!
# One session at a time

A supervisor owns at most one session, which runs on a worker of its own.
Whoever starts another one has the first cancelled, and waits until it has
let go of its card.
-/

namespace CardBridge

namespace Workshop

/-- What a supervisor asks of the place where workers run. A job is a
session that is to be run; workers are numbered. -/
inductive Ask (Job : Type) where
  | spawn (job : Job)
  /-- Give up a job that no worker was started on. -/
  | discard (job : Job)
  | cancel (worker : Nat)
  /-- Wait until a worker is done. -/
  | join (worker : Nat)
  | isFinished (worker : Nat)
  | state (worker : Nat)
  | log (record : Log.Record)

abbrev Answer {Job : Type} : Ask Job → Type
  | .spawn _ => Except IoError Nat
  | .discard _ => Unit
  | .cancel _ => Unit
  | .join _ => Session.Outcome
  | .isFinished _ => Bool
  | .state _ => SessionState
  | .log _ => Unit

end Workshop

abbrev Workshop (Job : Type) : Interface :=
  ⟨Workshop.Ask Job, Workshop.Answer⟩

/-- What a supervisor keeps: the worker of its session, if it has one. -/
structure Supervisor where
  /-- The worker of the session that was started last, unless its end was
  seen. -/
  active : Option Nat := none
  deriving Repr, DecidableEq

namespace Supervisor

variable {Job : Type}

def ask (q : Workshop.Ask Job) : Dialogue (Workshop Job) (Workshop.Answer q) :=
  @Dialogue.question (Workshop Job) q

/-- The reason for the end of a session whose worker gave up. -/
def gaveUp : String := "session worker panicked"

/-- Waits until a worker is done; says why its session ended. -/
def join (worker : Nat) : Dialogue (Workshop Job) ExitReason := do
  match ← ask (.join worker) with
  | .ended reason => return reason
  | .unwound =>
    ask (.log ⟨.warn, gaveUp, []⟩)
    return .failed gaveUp

def wait (s : Supervisor) :
    Dialogue (Workshop Job) (Option ExitReason × Supervisor) :=
  match s.active with
  | none => return (none, s)
  | some worker => return (some (← join worker), {})

/-- Tells the session to stop and waits for its end, if there is one. -/
def cancel (s : Supervisor) :
    Dialogue (Workshop Job) (Option ExitReason × Supervisor) :=
  match s.active with
  | none => return (none, s)
  | some worker => do
    ask (.cancel worker)
    return (some (← join worker), {})

/-- Starts a session, after the end of the one before. -/
def start (s : Supervisor) (job : Job) :
    Dialogue (Workshop Job) (Except SessionError Unit × Supervisor) := do
  let (_, s) ← s.cancel
  match ← ask (.spawn job) with
  | .ok worker => return (.ok (), { active := some worker })
  | .error cause =>
    -- the session before is over all the same
    ask (.discard job)
    return (.error (.spawn cause), s)

/-- Lets go of the supervisor, and so of its session. -/
def drop (s : Supervisor) : Dialogue (Workshop Job) Unit := do
  let _ ← s.cancel

def isActive (s : Supervisor) : Dialogue (Workshop Job) Bool :=
  match s.active with
  | none => return false
  | some worker => return !(← ask (.isFinished worker))

/-- The state of the session; idle if there is none. -/
def state (s : Supervisor) : Dialogue (Workshop Job) SessionState :=
  match s.active with
  | none => return .idle
  | some worker => ask (.state worker)

end Supervisor

end CardBridge
