import CardBridge.Session.Rehearsal
import CardBridge.Session.Supervisor

/-!
# Rehearsed sessions under a supervisor

A place where every worker goes on with its session as far as that gets,
each time anything is done to it.
-/

namespace CardBridge.Session

/-- A session that a worker was started on. -/
structure Worker where
  rest : Dialogue Session Outcome
  world : Rehearsal

namespace Worker

def start (config : SessionConfig) (world : Rehearsal) : Worker :=
  ⟨world.session config, world⟩

/-- Goes on with the session as far as that gets. -/
def proceed (worker : Worker) : Worker :=
  let (rest, world) := worker.rest.pursue Rehearsal.handler worker.world
  ⟨rest, world⟩

/-- Something happens around the session, and it goes on. -/
def after (change : Rehearsal → Rehearsal) (worker : Worker) : Worker :=
  { worker with world := change worker.world }.proceed

/-- How the session came out, if it is over. -/
def outcome? (worker : Worker) : Option Outcome :=
  worker.rest.result?

end Worker

/-- The workers that were ever started. -/
structure Crew where
  workers : List Worker := []
  /-- Why no worker can be started. -/
  refusal : Option IoError := none
  /-- The surroundings of the sessions that no worker was started on. -/
  discarded : List Rehearsal := []
  log : List Log.Record := []

namespace Crew

abbrev Job := SessionConfig × Rehearsal

/-- Something happens around the session of a worker. -/
def after (crew : Crew) (worker : Nat) (change : Rehearsal → Rehearsal) :
    Crew :=
  { crew with workers := crew.workers.modify worker (·.after change) }

/-- What a supervisor is answered. Nobody waits for a worker that does not
come to its end. -/
def handler : Dialogue.Handler (Workshop Job) Crew
  | .spawn (config, world), crew =>
    match crew.refusal with
    | some cause => (some (.error cause), crew)
    | none =>
      let worker := (Worker.start config world).proceed
      (some (.ok crew.workers.length),
        { crew with workers := crew.workers ++ [worker] })
  | .discard (_, world), crew =>
    let (_, world) := (abandon world.card.name).run Rehearsal.handler world
    (some (), { crew with discarded := crew.discarded ++ [world] })
  | .cancel worker, crew => (some (), crew.after worker Rehearsal.cancel)
  | .join worker, crew =>
    ((crew.workers[worker]?).bind Worker.outcome?, crew)
  | .isFinished worker, crew =>
    (some ((crew.workers[worker]?).bind Worker.outcome?).isSome, crew)
  | .state worker, crew =>
    (some ((crew.workers[worker]?).map (·.world.state) |>.getD .idle), crew)
  | .log record, crew => (some (), { crew with log := crew.log ++ [record] })

end Crew

end CardBridge.Session
