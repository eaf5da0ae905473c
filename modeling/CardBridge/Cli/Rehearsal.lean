import CardBridge.Card.Bench
import CardBridge.Cli.Reader
import CardBridge.Cli.Serve
import CardBridge.Session.Crew
import CardBridge.Transport.Site

/-!
# Rehearsed commands

The commands with readers and cards that follow a script, and with an
interrupt that comes when nothing else happens any more. What a command
prints is written down.
-/

namespace CardBridge.Cli

/-! ## Serving a card -/

namespace Serve

/-- The surroundings of the command `run`. -/
structure Scene where
  /-- The surroundings of the session, which lack the card. -/
  world : Session.Rehearsal
  remote : Except IoError Transport.Link := .error Transport.Site.unreachable
  catching : Except String Unit := .ok ()
  /-- An interrupt comes while the command waits. -/
  interrupt : Bool := false
  session : Option Session.Worker := none
  /-- How many of its events the command has taken. -/
  taken : Nat := 0
  printed : List Record := []
  log : List Log.Record := []

namespace Scene

/-- The events of the session that the command has not taken. -/
def pending (s : Scene) : List Event :=
  let events := (s.session.map (·.world.trace)).getD [] |>.filterMap
    fun entry => match entry.moment with
      | .event event => some event
      | _ => none
  events.drop s.taken

/-- The session is told to stop. -/
def stop (s : Scene) : Scene :=
  { s with session := s.session.map (·.after Session.Rehearsal.cancel) }

/-- The next event of the session; none once the session is over. -/
def nextEvent (s : Scene) : Option (Option Event) × Scene :=
  match s.pending, s.session.bind (·.outcome?) with
  | event :: _, _ => (some (some event), { s with taken := s.taken + 1 })
  | [], some _ => (some none, s)
  | [], none => (none, s)

/-- Waits for the next event; an interrupt may have to come first. -/
def awaitEvent (s : Scene) : Option (Option Event) × Scene :=
  match s.nextEvent with
  | (none, s) => if s.interrupt then s.stop.nextEvent else (none, s)
  | result => result

def connect (host : String) (port : UInt16) (bound : Option Duration)
    (s : Scene) : Option (Except CardError Unit) × Scene :=
  let site : Transport.Site :=
    { Transport.Site.isolated port with dialing := s.remote.map fun _ => none }
  match ((Network.dial host port bound).run Transport.Site.handler site).1,
    s.remote with
  | some (.error e), _ => (some (.error (.transport e)), s)
  | some (.ok _), .ok link =>
    match Card.Bench.openRemote link true with
    | none => (none, s)
    | some (.error e) => (some (.error e), s)
    | some (.ok card) => (some (.ok ()), { s with world.card := card })
  | _, _ => (none, s)

/-- Why the session ended; none if there is none. -/
def reason : Session.Outcome → ExitReason
  | .ended reason => reason
  | .unwound => .failed Supervisor.gaveUp

def handler : Dialogue.Handler Surroundings Scene
  | .openDummy, s =>
    (some (), { s with world.card := .dummy (false, ()) })
  | .openRemote host port bound, s => s.connect host port bound
  | .start config, s =>
    let worker := (Session.Worker.start config s.world).proceed
    (some (.ok ()), { s with session := some worker })
  | .catchInterrupts, s => (some s.catching, s)
  | .nextEvent, s => s.awaitEvent
  | .print record, s => (some (), { s with printed := s.printed ++ [record] })
  | .wait, s =>
    match s.session with
    | none => (some none, s)
    | some worker => (worker.outcome?.map fun o => some (reason o), s)
  | .cancel, s => (some (), s.stop)
  | .log record, s => (some (), { s with log := s.log ++ [record] })

end Scene

end Serve

/-! ## Playing the reader -/

namespace Reader

structure Scene where
  site : Transport.Site
  link : Transport.Link := {}
  catching : Except String Unit := .ok ()
  /-- An interrupt comes while the command waits for the first time. -/
  interrupt : Bool := false
  waited : Bool := false
  /-- What time it is. The clock began a second ago. -/
  now : Instant := ⟨1000000000⟩
  printed : List Record := []
  log : List Log.Record := []

namespace Scene

/-- What the network answers. A poll that finds nobody takes its time. -/
def onNetwork (q : Network.Ask) (s : Scene) :
    Option (Network.Answer q) × Scene :=
  let later := match q with
    | .poll interval => ⟨s.now.nanoseconds + interval.nanoseconds⟩
    | _ => s.now
  match q, s.site.polls with
  | .poll _, [] => (some (.ok none), { s with now := later, waited := true })
  | q, _ =>
    let (answer, site) := Transport.Site.handler q s.site
    (answer, { s with site })

def handler : Dialogue.Handler Surroundings Scene
  | .network q, s => s.onNetwork q
  | .socket q, s =>
    let (answer, link) := Transport.Link.handler q s.link
    (answer, { s with link })
  | .print record, s => (some (), { s with printed := s.printed ++ [record] })
  | .catchInterrupts, s => (some s.catching, s)
  | .interrupted, s => (some (s.interrupt && s.waited), s)
  | .now, s => (some s.now, s)
  | .log record, s => (some (), { s with log := s.log ++ [record] })

end Scene

end Reader

end CardBridge.Cli
