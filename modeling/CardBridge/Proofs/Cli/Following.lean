import CardBridge.Proofs.Cli.Printing
import CardBridge.Proofs.Session.Observer
import CardBridge.Proofs.Session.Owner
import CardBridge.Proofs.Session.Post

/-!
# The command `run` and its session

The command and the session that it starts, which runs on a worker of its
own and can be cancelled by anyone at any time. What the command learns of
the session comes two ways: the events through a queue, and the reason for
the end through its supervisor, which waits for the worker. In every order
of their steps, what it goes by agrees with the session (`Run.kept`).
-/

namespace CardBridge.Cli.Serve

open Dialogue
open Session (Affair Outcome)

/-! ## The two of them -/

/-- Where the session runs: there is one worker, unless `refusal` says why
there is none. -/
def place (refusal : Option IoError) :
    Handler (Workshop Session.Job) (Option (Affair Outcome))
  | .spawn job, session =>
    match refusal with
    | some cause => (some (.error cause), session)
    | none =>
      (some (.ok 0),
        some (.opening (Session.run job.rounds job.config job.cardName)))
  | .join _, session => (session.bind (·.session.result?), session)
  | .isFinished _, session =>
    (some (session.bind (·.session.result?)).isSome, session)
  | .state _, session =>
    (some (session.elim .idle fun affair =>
      (Session.watchOf affair.history).state), session)
  | .discard _, session => (some (), session)
  -- what comes of it is a step of its own, and may come at any time
  | .cancel _, session => (some (), session)
  | .log _, session => (some (), session)

/-- The command, its supervisor, and the session that it has started. -/
structure Following where
  /-- What is left of the command. -/
  command : Dialogue Surroundings (Except Failure ExitCode)
  supervisor : Supervisor := {}
  session : Option (Affair Outcome) := none
  /-- What the command was answered so far. -/
  said : List (Exchange Surroundings) := []

namespace Following

/-- The events of the session. They wait in a queue until they are taken. -/
def events (s : Following) : List Event :=
  s.session.elim [] (·.books.events)

theorem events_eq {s : Following} {affair : Affair Outcome}
    (hsession : s.session = some affair) :
    s.events = affair.books.events := by
  rw [events, hsession]
  rfl

/-- The session is over. -/
def Over (s : Following) : Prop :=
  ∃ affair outcome, s.session = some affair ∧ affair.session = .done outcome

end Following

/-- What belongs to no session. -/
def Aside : Ask → Prop
  | .start _ => False
  | .nextEvent => False
  | .wait => False
  | .cancel => False
  | _ => True

/-- What the command is answered, and its supervisor and its session
afterwards. -/
inductive Gives (serving : Nat) (cardName : String) (s : Following) :
    (q : Ask) → Answer q → Supervisor → Option (Affair Outcome) → Prop where
  | start {config : SessionConfig} {refusal : Option IoError}
    {answer : Except SessionError Unit} {supervisor : Supervisor}
    {session : Option (Affair Outcome)}
    (h : (s.supervisor.start ⟨serving, config, cardName⟩).run (place refusal)
      s.session = (some (answer, supervisor), session)) :
    Gives serving cardName s (.start config) answer supervisor session
  /-- The events are taken in the order in which they were told. -/
  | event {event : Event}
    (h : taken s.said ++ [event] <+: s.events) :
    Gives serving cardName s .nextEvent (some event) s.supervisor s.session
  /-- The queue is closed with the end of the session. -/
  | exhausted (hover : s.Over) (h : taken s.said = s.events) :
    Gives serving cardName s .nextEvent none s.supervisor s.session
  | wait {answer : Option ExitReason} {supervisor : Supervisor}
    {session : Option (Affair Outcome)}
    (h : s.supervisor.wait.run (place none) s.session =
      (some (answer, supervisor), session)) :
    Gives serving cardName s .wait answer supervisor session
  /-- The supervisor is let go of. -/
  | cancel {session : Option (Affair Outcome)}
    (h : s.supervisor.drop.run (place none) s.session =
      (some (), session)) :
    Gives serving cardName s .cancel () {} session
  | aside {q : Ask} {answer : Answer q} (hq : Aside q) :
    Gives serving cardName s q answer s.supervisor s.session

namespace Following

/-- One step of one of the two, or of those who cancel the session. -/
inductive Step (serving : Nat) (cardName : String) :
    Following → Following → Prop where
  /-- The command goes on. -/
  | command {s : Following} {q : Ask}
    {next : Answer q → Dialogue Surroundings (Except Failure ExitCode)}
    {a : Answer q} {supervisor : Supervisor}
    {session : Option (Affair Outcome)} (hcommand : s.command = .ask q next)
    (ha : Gives serving cardName s q a supervisor session) :
    Step serving cardName s
      ⟨next a, supervisor, session, s.said ++ [⟨q, a⟩]⟩
  /-- The session goes on, or somebody who cancels it. The cards that the
  command opens answer every call, if only with an error, and its queue takes
  every event. -/
  | session {s : Following} {affair affair' : Affair Outcome}
    (hsession : s.session = some affair) (hstep : Affair.Step affair affair')
    (hreturned : ¬ Session.Unwound affair'.history) :
    Step serving cardName s { s with session := some affair' }

/-- Some steps in a row. -/
inductive Run (serving : Nat) (cardName : String) (s : Following) :
    Following → Prop where
  /-- No step at all. -/
  | start : Run serving cardName s s
  /-- One more step. -/
  | next {s' s'' : Following} (hrun : Run serving cardName s s')
    (hstep : Step serving cardName s' s'') : Run serving cardName s s''

theorem Run.trans {serving : Nat} {cardName : String} {s s' s'' : Following}
    (h : Run serving cardName s s') (h' : Run serving cardName s' s'') :
    Run serving cardName s s'' := by
  induction h' with
  | start => exact h
  | next _ hstep ih => exact ih.next hstep

/-- A command that has not begun. -/
def opening (rounds : Nat) (args : Args) : Following where
  command := (Serve.run rounds args).run

end Following

/-! ## What the supervisor does -/

section

variable {affair affair' : Affair Outcome} {outcome : Outcome}

theorem result?_eq_some {I : Interface} {α : Type} {d : Dialogue I α}
    {a : α} : d.result? = some a ↔ d = .done a := by
  cases d <;> simp [result?]

theorem run_start (job : Session.Job) (refusal : Option IoError) :
    (({} : Supervisor).start job).run (place refusal) none =
      match refusal with
      | some cause => (some (.error (.spawn cause), {}), none)
      | none => (some (.ok (), { active := some 0 }),
          some (.opening
            (Session.run job.rounds job.config job.cardName))) := by
  cases refusal <;> rfl

/-- What comes of waiting for the session, be it by itself or with something
before and after. -/
theorem run_wait :
    ({ active := some 0 } : Supervisor).wait.run (place none) (some affair) =
      (affair.session.result?.map fun outcome =>
        (some (Supervisor.reasonOf outcome), {}), some affair) := by
  obtain ⟨session, token, calls, history⟩ := affair
  cases session with
  | done outcome => cases outcome <;> rfl
  | ask q next => rfl
  | cut => rfl

theorem run_drop :
    ({ active := some 0 } : Supervisor).drop.run (place none) (some affair) =
      (affair.session.result?.map fun _ => (), some affair) := by
  obtain ⟨session, token, calls, history⟩ := affair
  cases session with
  | done outcome => cases outcome <;> rfl
  | ask q next => rfl
  | cut => rfl

end

/-! ## Sessions that go on -/

section

variable {affair affair' : Affair Outcome}

theorem events_mono (hstep : Affair.Step affair affair') :
    affair.books.events <+: affair'.books.events := by
  obtain ⟨o, ho⟩ := hstep.history_eq
  rw [Affair.events_concat ho]
  exact List.prefix_append ..

/-- A session that is over stays so, and tells nothing more. -/
theorem over_step {outcome : Outcome} (hdone : affair.session = .done outcome)
    (hstep : Affair.Step affair affair') :
    affair'.session = .done outcome ∧
      affair'.books.events = affair.books.events := by
  obtain ⟨o, ho⟩ := hstep.history_eq
  obtain ⟨hdone', hseen⟩ := hstep.settled hdone ho
  rw [Affair.events_concat ho, hseen]
  exact ⟨hdone', List.append_nil _⟩

end

/-! ## What the command goes by -/

/-- No session was started, and nothing was heard of one. -/
structure Vacant (said : List (Exchange Surroundings))
    (supervisor : Supervisor) : Prop where
  supervisor : supervisor = {}
  started : said.any starts = false
  taken : taken said = []
  exhausted : said.any exhausts = false
  reasons : reasons said = []

/-- What the command goes by agrees with the session that it has started. -/
structure Agrees (serving : Nat) (args : Args) (cardName : String)
    (said : List (Exchange Surroundings)) (supervisor : Supervisor)
    (affair : Affair Outcome) : Prop where
  run : ∃ config, settings args = .ok config ∧
    Affair.Run (.opening (Session.run serving config cardName)) affair
  answered : ¬ Session.Unwound affair.history
  started : said.any starts = true
  ahead : taken said <+: affair.books.events
  exhausted : said.any exhausts = true →
    (∃ outcome, affair.session = .done outcome) ∧
      taken said = affair.books.events
  supervisor : said.any parts = false → supervisor = { active := some 0 }
  reasons : ∀ answer ∈ reasons said, ∃ outcome,
    affair.session = .done outcome ∧
      answer = some (Supervisor.reasonOf outcome)

section

variable {serving : Nat} {args : Args} {cardName : String}
  {said : List (Exchange Surroundings)} {supervisor supervisor' : Supervisor}
  {affair affair' : Affair Outcome} {outcome : Outcome}

/-- Nothing is heard of a session that is not asked about. -/
theorem aside_silent {q : Ask} (a : Answer q) (hq : Aside q) :
    event? ⟨q, a⟩ = none ∧ reason? ⟨q, a⟩ = none ∧ starts ⟨q, a⟩ = false ∧
      exhausts ⟨q, a⟩ = false := by
  cases q with
  | start config => cases hq
  | nextEvent => cases hq
  | wait => cases hq
  | cancel => cases hq
  | openDummy | openRemote host port bound | catchInterrupts | print record
  | log record => exact ⟨rfl, rfl, rfl, rfl⟩

/-- The session is started. -/
theorem Vacant.start (h : Vacant said supervisor) {config : SessionConfig}
    (hsettings : settings args = .ok config) :
    Agrees serving args cardName (said ++ [⟨.start config, .ok ()⟩])
      { active := some 0 }
      (.opening (Session.run serving config cardName)) where
  run := ⟨config, hsettings, .start⟩
  answered := Affair.not_unwound_opening _
  started := by simp [starts]
  ahead := by simp [h.taken, event?]
  exhausted := by simp [h.exhausted, exhausts]
  supervisor := fun _ => rfl
  reasons := by simp [h.reasons, reason?]

/-- No worker is found for the session. -/
theorem Vacant.refuse (h : Vacant said supervisor) (config : SessionConfig)
    (e : SessionError) :
    Vacant (said ++ [⟨.start config, .error e⟩]) supervisor where
  supervisor := h.supervisor
  started := by simp [h.started, starts]
  taken := by simp [h.taken, event?]
  exhausted := by simp [h.exhausted, exhausts]
  reasons := by simp [h.reasons, reason?]

theorem Vacant.aside (h : Vacant said supervisor) {q : Ask} (a : Answer q)
    (hq : Aside q) : Vacant (said ++ [⟨q, a⟩]) supervisor := by
  obtain ⟨hevent, hreason, hstarts, hexhausts⟩ := aside_silent a hq
  refine ⟨h.supervisor, ?_, ?_, ?_, ?_⟩
  · simp [h.started, hstarts]
  · simp [h.taken, hevent]
  · simp [h.exhausted, hexhausts]
  · simp [h.reasons, hreason]

/-- The session goes on. -/
theorem Agrees.step
    (h : Agrees serving args cardName said supervisor affair)
    (hstep : Affair.Step affair affair')
    (hcard : ¬ Session.Unwound affair'.history) :
    Agrees serving args cardName said supervisor affair' where
  run :=
    let ⟨config, hsettings, hrun⟩ := h.run
    ⟨config, hsettings, hrun.next hstep⟩
  answered := hcard
  started := h.started
  ahead := h.ahead.trans (events_mono hstep)
  exhausted := by
    intro hexhausted
    obtain ⟨⟨outcome, hdone⟩, hall⟩ := h.exhausted hexhausted
    obtain ⟨hdone', hevents⟩ := over_step hdone hstep
    exact ⟨⟨outcome, hdone'⟩, hall.trans hevents.symm⟩
  supervisor := h.supervisor
  reasons := by
    intro answer hanswer
    obtain ⟨outcome, hdone, hreason⟩ := h.reasons answer hanswer
    exact ⟨outcome, (over_step hdone hstep).1, hreason⟩

/-- The command asks something that has nothing to do with the session. -/
theorem Agrees.aside
    (h : Agrees serving args cardName said supervisor affair) {q : Ask}
    (a : Answer q) (hq : Aside q) :
    Agrees serving args cardName (said ++ [⟨q, a⟩]) supervisor affair := by
  obtain ⟨hevent, hreason, -, hexhausts⟩ := aside_silent a hq
  refine ⟨h.run, h.answered, by simp [h.started], ?_, ?_, ?_, ?_⟩
  · simpa [hevent] using h.ahead
  · simpa [hevent, hexhausts] using h.exhausted
  · intro hparts
    exact h.supervisor (by simp_all)
  · simpa [hreason] using h.reasons

theorem Agrees.event
    (h : Agrees serving args cardName said supervisor affair) {event : Event}
    (hahead : taken said ++ [event] <+: affair.books.events) :
    Agrees serving args cardName (said ++ [⟨.nextEvent, some event⟩])
      supervisor affair := by
  refine ⟨h.run, h.answered, by simp [h.started], ?_, ?_, ?_, ?_⟩
  · simpa [event?] using hahead
  · intro hexhausted
    -- nothing was left to be taken
    have hall := (h.exhausted (by simpa [exhausts] using hexhausted)).2
    have hlength := hahead.length_le
    rw [← hall, List.length_append, List.length_singleton] at hlength
    omega
  · intro hparts
    exact h.supervisor (by simpa [parts] using hparts)
  · simpa [reason?] using h.reasons

theorem Agrees.exhaust
    (h : Agrees serving args cardName said supervisor affair)
    (hdone : affair.session = .done outcome)
    (hall : taken said = affair.books.events) :
    Agrees serving args cardName (said ++ [⟨.nextEvent, none⟩])
      supervisor affair := by
  refine ⟨h.run, h.answered, by simp [h.started], ?_, ?_, ?_, ?_⟩
  · simpa [event?] using h.ahead
  · intro _
    exact ⟨⟨outcome, hdone⟩, by simpa [event?] using hall⟩
  · intro hparts
    exact h.supervisor (by simpa [parts] using hparts)
  · simpa [reason?] using h.reasons

/-- The session was waited for. -/
theorem Agrees.wait
    (h : Agrees serving args cardName said supervisor affair)
    (hdone : affair.session = .done outcome) :
    Agrees serving args cardName
      (said ++ [⟨.wait, some (Supervisor.reasonOf outcome)⟩])
      supervisor' affair := by
  refine ⟨h.run, h.answered, by simp [h.started], ?_, ?_, ?_, ?_⟩
  · simpa [event?] using h.ahead
  · simpa [event?, exhausts] using h.exhausted
  · simp [parts]
  · intro answer hanswer
    simp only [reasons_concat, reason?, Option.toList, List.mem_append,
      List.mem_singleton] at hanswer
    rcases hanswer with hanswer | rfl
    · exact h.reasons answer hanswer
    · exact ⟨outcome, hdone, rfl⟩

theorem Agrees.cancel
    (h : Agrees serving args cardName said supervisor affair) :
    Agrees serving args cardName (said ++ [⟨.cancel, ()⟩])
      supervisor' affair := by
  refine ⟨h.run, h.answered, by simp [h.started], ?_, ?_, ?_, ?_⟩
  · simpa [event?] using h.ahead
  · simpa [event?, exhausts] using h.exhausted
  · simp [parts]
  · simpa [reason?] using h.reasons

end

/-- What is true of the two at any time. -/
structure Kept (rounds serving : Nat) (args : Args) (cardName : String)
    (s : Following) : Prop where
  command : s.command.Keeps noting (Minds rounds args) CameTo s.said
  vacant : s.session = none → Vacant s.said s.supervisor
  agrees : ∀ affair, s.session = some affair →
    Agrees serving args cardName s.said s.supervisor affair

section

variable {rounds serving : Nat} {args : Args} {cardName : String}
  {s s' : Following}

theorem kept_opening (rounds serving : Nat) (args : Args)
    (cardName : String) :
    Kept rounds serving args cardName (Following.opening rounds args) :=
  ⟨keeps_run rounds args, fun _ => ⟨rfl, rfl, rfl, rfl, rfl⟩, nofun⟩

theorem Kept.minds (h : Kept rounds serving args cardName s) {q : Ask}
    {next : Answer q → Dialogue Surroundings (Except Failure ExitCode)}
    (hcommand : s.command = .ask q next) :
    Minds rounds args (some q) s.said := by
  have hkeeps := h.command
  rw [hcommand] at hkeeps
  exact hkeeps.1

theorem Kept.came (h : Kept rounds serving args cardName s)
    {result : Except Failure ExitCode} (hcommand : s.command = .done result) :
    CameTo result s.said := by
  have hkeeps := h.command
  rw [hcommand] at hkeeps
  exact hkeeps

/-- There is a session if one was started. -/
theorem Kept.attended (h : Kept rounds serving args cardName s)
    (hstarted : s.said.any starts = true) :
    ∃ affair, s.session = some affair ∧
      Agrees serving args cardName s.said s.supervisor affair := by
  cases hsession : s.session with
  | none => simp [(h.vacant hsession).started] at hstarted
  | some affair => exact ⟨affair, rfl, h.agrees affair hsession⟩

theorem Kept.unattended (h : Kept rounds serving args cardName s)
    (hstarted : s.said.any starts = false) :
    s.session = none ∧ Vacant s.said s.supervisor := by
  cases hsession : s.session with
  | none => exact ⟨rfl, h.vacant hsession⟩
  | some affair => simp [(h.agrees affair hsession).started] at hstarted

theorem Kept.answer (h : Kept rounds serving args cardName s) {q : Ask}
    {next : Answer q → Dialogue Surroundings (Except Failure ExitCode)}
    {a : Answer q} {supervisor : Supervisor}
    {session : Option (Affair Outcome)} (hcommand : s.command = .ask q next)
    (ha : Gives serving cardName s q a supervisor session) :
    Kept rounds serving args cardName
      ⟨next a, supervisor, session, s.said ++ [⟨q, a⟩]⟩ := by
  obtain ⟨-, hasked⟩ := h.minds hcommand
  have hkeeps := h.command
  rw [hcommand] at hkeeps
  have hnext := hkeeps.step (a := a) rfl
  cases ha with
  | start hstart =>
    obtain ⟨hsettings, hstarted⟩ := hasked
    obtain ⟨hnone, hvacant⟩ := h.unattended hstarted
    rw [hvacant.supervisor, hnone, run_start] at hstart
    rename_i refusal _
    cases refusal with
    | some cause =>
      cases hstart
      exact ⟨hnext, fun _ => hvacant.supervisor ▸ hvacant.refuse _ _, nofun⟩
    | none =>
      cases hstart
      refine ⟨hnext, nofun, ?_⟩
      rintro _ ⟨rfl⟩
      exact hvacant.start hsettings
  | event hahead =>
    obtain ⟨affair, hsession, hagrees⟩ := h.attended hasked.1
    rw [Following.events_eq hsession] at hahead
    refine ⟨hnext, fun hnone => absurd (hsession.symm.trans hnone) nofun, ?_⟩
    intro affair' hsession'
    obtain rfl := Option.some.inj (hsession.symm.trans hsession')
    exact hagrees.event hahead
  | exhausted hover hall =>
    obtain ⟨affair, outcome, hsession, hdone⟩ := hover
    rw [Following.events_eq hsession] at hall
    refine ⟨hnext, fun hnone => absurd (hsession.symm.trans hnone) nofun, ?_⟩
    intro affair' hsession'
    obtain rfl := Option.some.inj (hsession.symm.trans hsession')
    exact (h.agrees affair hsession).exhaust hdone hall
  | wait hwait =>
    obtain ⟨affair, hsession, hagrees⟩ := h.attended hasked.1
    rw [hagrees.supervisor hasked.2, hsession, run_wait] at hwait
    cases hresult : affair.session.result? with
    | none => simp [hresult] at hwait
    | some outcome =>
      rw [hresult] at hwait
      cases hwait
      refine ⟨hnext, nofun, ?_⟩
      rintro _ ⟨rfl⟩
      exact hagrees.wait (result?_eq_some.mp hresult)
  | cancel hdrop =>
    obtain ⟨affair, hsession, hagrees⟩ := h.attended hasked.1
    rw [hagrees.supervisor hasked.2, hsession, run_drop] at hdrop
    obtain ⟨-, rfl⟩ := Prod.mk.inj hdrop
    refine ⟨hnext, nofun, ?_⟩
    rintro _ ⟨rfl⟩
    exact hagrees.cancel
  | aside hq =>
    exact ⟨hnext, fun hnone => (h.vacant hnone).aside a hq,
      fun affair hsession => (h.agrees affair hsession).aside a hq⟩

theorem Kept.step (h : Kept rounds serving args cardName s)
    (hstep : Following.Step serving cardName s s') :
    Kept rounds serving args cardName s' := by
  cases hstep with
  | command hcommand ha => exact h.answer hcommand ha
  | session hsession hstep hcard =>
    refine ⟨h.command, nofun, ?_⟩
    rintro _ ⟨rfl⟩
    exact (h.agrees _ hsession).step hstep hcard

theorem Following.Run.kept (hrun : Following.Run serving cardName s s')
    (h : Kept rounds serving args cardName s) :
    Kept rounds serving args cardName s' := by
  induction hrun with
  | start => exact h
  | next _ hstep ih => exact ih.step hstep

end

end CardBridge.Cli.Serve
