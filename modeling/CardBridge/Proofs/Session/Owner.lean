import CardBridge.Proofs.Promises
import CardBridge.Session.Supervisor

/-!
# The owner of a supervisor

What may be done with a supervisor, and what each of these operations keeps
to, whatever the place where workers run answers. All that the owner goes by
is what it was answered: the ledger. No session is handed over while another
may not be over, and the session that is stored is told to stop before it is
waited for, unless the owner only waits (`keeps_perform`).
-/

namespace CardBridge.Supervisor

open Dialogue

/-- What can be done with a supervisor. -/
inductive Operation (Job : Type) where
  | start (job : Job)
  | cancel
  | wait
  | drop

/-- What is given back. -/
inductive Returned where
  | started (result : Except SessionError Unit)
  | ended (reason : Option ExitReason)
  | dropped

variable {Job : Type}

/-- Performs an operation; gives the supervisor that there is afterwards. -/
def perform (s : Supervisor) :
    Operation Job → Dialogue (Workshop Job) (Returned × Option Supervisor)
  | .start job => do
    let (result, s) ← s.start job
    return (.started result, some s)
  | .cancel => do
    let (reason, s) ← s.cancel
    return (.ended reason, some s)
  | .wait => do
    let (reason, s) ← s.wait
    return (.ended reason, some s)
  | .drop => do
    s.drop
    return (.dropped, none)

/-- The session that an operation hands over. -/
def Operation.jobs : Operation Job → List Job
  | .start job => [job]
  | _ => []

/-- The operation tells the session that is stored to stop. -/
def Operation.Stops : Operation Job → Prop
  | .wait => False
  | _ => True

/-- A supervisor that owns no session, and says so. -/
structure Vacant (Job : Type) (s : Supervisor) : Prop where
  active : s.active = none
  idle : s.state = (.done .idle : Dialogue (Workshop Job) SessionState)

/-- Why a session ended, by how its run came out. -/
def reasonOf : Session.Outcome → ExitReason
  | .ended reason => reason
  | .unwound => .failed gaveUp

/-- What the owner knows from its questions and their answers. -/
structure Ledger (Job : Type) where
  /-- The sessions that were handed over, and whether a worker was started
  on them. -/
  jobs : List (Job × Bool) := []
  /-- The worker that may not be done. -/
  running : Option Nat := none
  /-- The worker whose session was told to stop last. -/
  told : Option Nat := none
  /-- The worker that was waited for last, and how its session came out. -/
  heard : Option (Nat × Session.Outcome) := none

/-- What may be answered, and what is known afterwards. Workers are numbered
like the sessions that were handed over. -/
def answered : Surroundings (Workshop Job) (Ledger Job)
  | .spawn job, l, .ok worker, l' =>
    worker = l.jobs.length ∧
      l' = { l with
        jobs := l.jobs ++ [(job, true)]
        running := some worker }
  | .spawn _, l, .error _, l' => l' = l
  | .discard job, l, _, l' => l' = { l with jobs := l.jobs ++ [(job, false)] }
  | .join worker, l, outcome, l' =>
    l' = { l with running := none, heard := some (worker, outcome) }
  | .cancel worker, l, _, l' => l' = { l with told := some worker }
  | .isFinished _, l, _, l' => l' = l
  | .state _, l, _, l' => l' = l
  | .log _, l, _, l' => l' = l

/-- What an operation on the supervisor `before` asks when. A session is
handed over only when no worker may be left. Only the session that is stored
is told to stop and waited for: told first, unless the owner only waits. -/
def Prudent (before : Supervisor) (op : Operation Job) :
    Option (Workshop.Ask Job) → Ledger Job → Prop
  | some (.spawn _), l => l.running = none
  | some (.discard _), l => l.running = none
  | some (.cancel worker), l =>
    l.running = some worker ∧ before.active = some worker ∧ op.Stops
  | some (.join worker), l =>
    l.running = some worker ∧ before.active = some worker ∧
      (op.Stops → l.told = some worker)
  | some (.log _), _ => True
  | _, _ => False

/-- The end of the session that was stored `before` was heard of, and this is
the reason for it; there is none if no session was stored. -/
def Heard (before : Supervisor) (l : Ledger Job) (reason : Option ExitReason) :
    Prop :=
  before.active = none ∧ reason = none ∨
    ∃ worker outcome, before.active = some worker ∧
      l.heard = some (worker, outcome) ∧ reason = some (reasonOf outcome)

/-- What an operation comes to when the sessions `earlier` were handed over
before it. -/
def CameTo (before : Supervisor) (earlier : List (Job × Bool)) :
    Operation Job → Returned × Option Supervisor → Ledger Job → Prop
  | .start job, (returned, after), l =>
    returned = .started (.ok ()) ∧
        after = some { active := some earlier.length } ∧
        l.running = some earlier.length ∧
        l.jobs = earlier ++ [(job, true)] ∨
      ∃ cause, returned = .started (.error (.spawn cause)) ∧
        after = some {} ∧ l.running = none ∧
        l.jobs = earlier ++ [(job, false)]
  | .drop, (returned, after), l =>
    returned = .dropped ∧ after = none ∧ l.running = none ∧ l.jobs = earlier
  | _, (returned, after), l =>
    ∃ reason, returned = .ended reason ∧ Heard before l reason ∧
      after = some {} ∧ l.running = none ∧ l.jobs = earlier

variable {s : Supervisor} {l : Ledger Job} {op : Operation Job}

theorem vacant_empty : Vacant Job {} :=
  ⟨rfl, rfl⟩

theorem keeps_join {worker : Nat} (hactive : s.active = some worker)
    (hrunning : l.running = some worker)
    (htold : op.Stops → l.told = some worker) :
    (join worker).Keeps answered (Prudent s op)
      (fun reason l' => l'.running = none ∧ l'.jobs = l.jobs ∧
        ∃ outcome, l'.heard = some (worker, outcome) ∧
          reason = reasonOf outcome) l := by
  refine ⟨⟨hrunning, hactive, htold⟩, ?_⟩
  intro outcome l' hl'
  subst hl'
  cases outcome with
  | ended reason => exact ⟨rfl, rfl, _, rfl, rfl⟩
  | unwound =>
    refine ⟨trivial, ?_⟩
    intro _ l' hl'
    subst hl'
    exact ⟨rfl, rfl, _, rfl, rfl⟩

/-- What becomes of the session that is stored, if there is one. -/
def LetGo (s : Supervisor) (l : Ledger Job) :
    Option ExitReason × Supervisor → Ledger Job → Prop
  | (reason, after), l' =>
    after = {} ∧ l'.running = none ∧ l'.jobs = l.jobs ∧ Heard s l' reason

/-- The session that is stored is waited for, and was told to stop if the
operation is one that tells it. -/
theorem keeps_wait (h : l.running = s.active)
    (htold : op.Stops → l.told = s.active) :
    s.wait.Keeps answered (Prudent s op) (LetGo s l) l := by
  rw [wait]
  cases hactive : s.active with
  | none =>
    obtain ⟨_⟩ := s
    subst hactive
    exact ⟨rfl, h, rfl, .inl ⟨rfl, rfl⟩⟩
  | some worker =>
    refine (keeps_join hactive (h.trans hactive)
      fun hop => (htold hop).trans hactive).bind ?_
    rintro reason l' ⟨hrunning, hjobs, outcome, hheard, rfl⟩
    exact ⟨rfl, hrunning, hjobs, .inr ⟨worker, outcome, hactive, hheard, rfl⟩⟩

/-- To cancel is to tell the session to stop, and to wait. -/
theorem keeps_cancel (hop : op.Stops) (h : l.running = s.active) :
    s.cancel.Keeps answered (Prudent s op) (LetGo s l) l := by
  rw [cancel]
  cases hactive : s.active with
  | none =>
    obtain ⟨_⟩ := s
    subst hactive
    exact ⟨rfl, h, rfl, .inl ⟨rfl, rfl⟩⟩
  | some worker =>
    refine ⟨⟨h.trans hactive, hactive, hop⟩, ?_⟩
    intro _ l' hl'
    subst hl'
    have hwait : s.wait.Keeps answered (Prudent s op)
        (LetGo s { l with told := some worker })
        { l with told := some worker } :=
      keeps_wait h fun _ => hactive.symm
    rw [wait, hactive] at hwait
    exact hwait

/-- Whatever the owner does, it hands no session over while another may not
be over, and tells the one that is stored to stop before it waits for it,
unless it only waits. -/
theorem keeps_perform (op : Operation Job) (h : l.running = s.active) :
    (s.perform op).Keeps answered (Prudent s op) (CameTo s l.jobs op) l := by
  cases op with
  | start job =>
    have hop : (Operation.start job).Stops := trivial
    rw [perform, start]
    refine keeps_bind.mpr (keeps_bind.mpr ((keeps_cancel hop h).imp ?_))
    rintro ⟨reason, after⟩ l' ⟨rfl, hrunning, hjobs, -⟩
    refine ⟨hrunning, ?_⟩
    intro result l'' hspawned
    cases result with
    | ok worker =>
      obtain ⟨rfl, rfl⟩ := hspawned
      rw [← hjobs]
      exact .inl ⟨rfl, rfl, rfl, rfl⟩
    | error cause =>
      subst hspawned
      refine ⟨hrunning, ?_⟩
      intro _ l'' hdiscarded
      subst hdiscarded
      rw [← hjobs]
      exact .inr ⟨cause, rfl, rfl, hrunning, rfl⟩
  | cancel =>
    have hop : (Operation.cancel : Operation Job).Stops := trivial
    refine (keeps_cancel hop h).bind ?_
    rintro ⟨reason, after⟩ l' ⟨rfl, hrunning, hjobs, hheard⟩
    exact ⟨reason, rfl, hheard, rfl, hrunning, hjobs⟩
  | wait =>
    have hop : ¬ (Operation.wait : Operation Job).Stops := id
    refine (keeps_wait h fun hstops => absurd hstops hop).bind ?_
    rintro ⟨reason, after⟩ l' ⟨rfl, hrunning, hjobs, hheard⟩
    exact ⟨reason, rfl, hheard, rfl, hrunning, hjobs⟩
  | drop =>
    have hop : (Operation.drop : Operation Job).Stops := trivial
    rw [perform, drop]
    refine keeps_bind.mpr (keeps_bind.mpr ((keeps_cancel hop h).imp ?_))
    rintro ⟨reason, after⟩ l' ⟨-, hrunning, hjobs, -⟩
    exact ⟨rfl, rfl, hrunning, hjobs⟩

end CardBridge.Supervisor
