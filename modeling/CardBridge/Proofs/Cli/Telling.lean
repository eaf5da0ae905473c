import CardBridge.Proofs.Cli.Following

/-!
# What is printed of a session

Whatever a session comes to and in whatever order it and the command take
their steps, what the command has printed when it ends is what the session
told, and its code says why the session ended (`Kept.faithful`).
-/

namespace CardBridge.Cli.Serve

open Dialogue
open Session (Affair Outcome)

variable {rounds serving : Nat} {args : Args} {cardName : String}
  {s : Following} {reason : ExitReason} {events earlier : List Event}

/-! ## What a session tells -/

/-- What a session has told that ended for this reason. -/
def Tells (reason : ExitReason) (events : List Event) : Prop :=
  ∃ worked before report,
    events = before ++ report ++ [.disconnected reason] ∧
      (∀ event ∈ before, Session.Ordinary event) ∧
      Session.Report worked reason report

theorem Agrees.ended {said : List (Exchange Surroundings)}
    {supervisor : Supervisor} {affair : Affair Outcome} {outcome : Outcome}
    (h : Agrees serving args cardName said supervisor affair)
    (hdone : affair.session = .done outcome) :
    ∃ reason, outcome = .ended reason ∧ Tells reason affair.books.events := by
  obtain ⟨config, -, hrun⟩ := h.run
  cases outcome with
  | ended reason =>
    have hreached :=
      hrun.reached (Affair.reached_opening serving config cardName)
    obtain ⟨worked, before, hordinary, hwound⟩ := hreached.woundUp hdone
    obtain ⟨report, hevents, hreport⟩ := hwound.events
    exact ⟨reason, rfl, worked, before, report, hevents, hordinary, hreport⟩
  | unwound =>
    -- no call gave up, so the session did not either
    have hkeeps :=
      hrun.watched (Session.keeps_watchful serving config cardName)
    rw [hdone] at hkeeps
    exact absurd (Session.unwound_watchOf.mp hkeeps.2) h.answered

/-- The end is told once, and last. -/
theorem Tells.whole (h : Tells reason events) {other : ExitReason}
    (hearlier : earlier ++ [.disconnected other] <+: events) :
    earlier ++ [.disconnected other] = events := by
  obtain ⟨worked, before, report, rfl, hordinary, hreport⟩ := h
  rcases List.prefix_concat_iff.mp hearlier with heq | hahead
  · exact heq
  · have hmem : .disconnected other ∈ before ++ report :=
      hahead.subset (by simp)
    rcases List.mem_append.mp hmem with hmem | hmem
    · exact (hordinary _ hmem).elim
    · exact absurd hmem hreport.disconnected_notMem

/-- A failure is reported right before the end, and nothing else is. -/
theorem Tells.reported (h : Tells reason events) :
    (∃ text, reason = .failed text) ↔
      ∃ earlier message,
        events = earlier ++ [.error message, .disconnected reason] := by
  obtain ⟨worked, before, report, rfl, hordinary, hreport⟩ := h
  constructor
  · rintro ⟨text, rfl⟩
    obtain ⟨e, -, -, rfl⟩ := hreport
    exact ⟨before, e.message, by simp⟩
  · rintro ⟨earlier, message, hevents⟩
    cases reason with
    | failed text => exact ⟨text, rfl⟩
    | cancelled | peerClosed =>
      obtain ⟨-, rfl⟩ := hreport
      have hbefore : before = earlier ++ [.error message] := by
        rw [List.append_nil, List.append_cons earlier] at hevents
        exact List.append_cancel_right hevents
      exact (hordinary (.error message) (by simp [hbefore])).elim

theorem map_status_reported :
    (∃ earlier message, events.map Record.status = earlier ++
        [.status (.error message), .status (.disconnected reason)]) ↔
      ∃ earlier message,
        events = earlier ++ [.error message, .disconnected reason] := by
  constructor
  · rintro ⟨earlier, message, hmap⟩
    obtain ⟨before, last, rfl, -, hlast⟩ := List.map_eq_append_iff.mp hmap
    have hlast : last = [.error message, .disconnected reason] :=
      (List.map_inj_right fun _ _ => Record.status.inj).mp hlast
    exact ⟨before, message, by rw [hlast]⟩
  · rintro ⟨earlier, message, rfl⟩
    exact ⟨earlier.map .status, message, by simp⟩

/-! ## What is printed of a session -/

theorem ofReason_eq_success : ExitCode.ofReason reason = ExitCode.success ↔
    reason = .cancelled ∨ reason = .peerClosed := by
  cases reason <;> simp [ExitCode.ofReason, ExitCode.success, ExitCode.failure]

theorem ofReason_eq_failure : ExitCode.ofReason reason = ExitCode.failure ↔
    ∃ text, reason = .failed text := by
  cases reason <;> simp [ExitCode.ofReason, ExitCode.success, ExitCode.failure]

/-- What was printed of a session that ended for this reason, and the code
with which the command ended. -/
structure Told (s : Following) (code : ExitCode) (reason : ExitReason) :
    Prop where
  finished : ∃ affair, s.session = some affair ∧
    affair.session = .done (.ended reason)
  /-- Everything that was told, in the same order and once. -/
  whole : printed s.said = s.events.map .status
  last : ∃ earlier,
    printed s.said = earlier ++ [.status (.disconnected reason)]
  success : code = ExitCode.success ↔
    reason = .cancelled ∨ reason = .peerClosed
  failure : code = ExitCode.failure ↔ ∃ text, reason = .failed text
  reported : code = ExitCode.failure ↔ ∃ earlier message,
    printed s.said = earlier ++
      [.status (.error message), .status (.disconnected reason)]

theorem Kept.printed_ahead (h : Kept rounds serving args cardName s) :
    printed s.said <+: (taken s.said).map .status := by
  cases hcommand : s.command with
  | done result =>
    have hcame := h.came hcommand
    cases result with
    | error failure =>
      rw [hcame.1]
      exact List.nil_prefix
    | ok code => exact Followed.printed_ahead hcame
  | ask q next => exact (h.minds hcommand).1
  | cut =>
    have hkeeps := h.command
    rw [hcommand] at hkeeps
    exact hkeeps.1

theorem Kept.taken_ahead (h : Kept rounds serving args cardName s) :
    taken s.said <+: s.events := by
  cases hsession : s.session with
  | none =>
    rw [(h.vacant hsession).taken]
    exact List.nil_prefix
  | some affair =>
    rw [Following.events_eq hsession]
    exact (h.agrees affair hsession).ahead

theorem Kept.told (h : Kept rounds serving args cardName s) {code : ExitCode}
    (hcommand : s.command = .done (.ok code)) :
    ∃ reason, Told s code reason := by
  have hfollowed : Followed code s.said := h.came hcommand
  obtain ⟨affair, hsession, hagrees⟩ := h.attended hfollowed.started
  obtain ⟨answer, hanswer, hcode⟩ := hfollowed.code_eq
  obtain ⟨outcome, hdone, rfl⟩ := hagrees.reasons answer hanswer
  obtain ⟨reason, rfl, htells⟩ := hagrees.ended hdone
  have hall : taken s.said = affair.books.events := by
    rcases hfollowed.whole with hexhausted | ⟨earlier, other, htaken⟩
    · exact (hagrees.exhausted hexhausted).2
    · have hahead := hagrees.ahead
      rw [htaken] at hahead ⊢
      exact htells.whole hahead
  have hprinted : printed s.said = affair.books.events.map .status := by
    rw [hfollowed.printed_eq, hall]
  have hcode : code = .ofReason reason := hcode
  refine ⟨reason, ⟨affair, hsession, hdone⟩, ?_, ?_, ?_, ?_, ?_⟩
  · rw [hprinted, Following.events_eq hsession]
  · obtain ⟨-, before, report, hevents, -⟩ := htells
    exact ⟨(before ++ report).map .status, by simp [hprinted, hevents]⟩
  · rw [hcode, ofReason_eq_success]
  · rw [hcode, ofReason_eq_failure]
  · rw [hcode, ofReason_eq_failure, htells.reported, hprinted,
      map_status_reported]

/-! ## How the command comes to its end -/

theorem Kept.exists_answer (h : Kept rounds serving args cardName s)
    (hover : s.Over) {q : Ask}
    {next : Answer q → Dialogue Surroundings (Except Failure ExitCode)}
    (hcommand : s.command = .ask q next) :
    ∃ a supervisor, Gives serving cardName s q a supervisor s.session ∧
      deafens ⟨q, a⟩ = false := by
  obtain ⟨-, hasked⟩ := h.minds hcommand
  obtain ⟨affair, outcome, hsession, hdone⟩ := hover
  have hagrees := h.agrees affair hsession
  have hresult := result?_eq_some.mpr hdone
  cases q with
  | start config =>
    obtain ⟨-, hstarted⟩ := hasked
    simp [hagrees.started] at hstarted
  | nextEvent =>
    obtain ⟨left, hleft⟩ := hagrees.ahead
    rw [← Following.events_eq hsession] at hleft
    cases left with
    | nil =>
      exact ⟨_, _, .exhausted ⟨affair, outcome, hsession, hdone⟩
        (by simpa using hleft), rfl⟩
    | cons event left =>
      exact ⟨_, _, .event ⟨left, by simpa using hleft⟩, rfl⟩
  | wait =>
    have hwait : s.supervisor.wait.run (place none) s.session =
        (some (some (Supervisor.reasonOf outcome), {}), s.session) := by
      rw [hagrees.supervisor hasked.2, hsession, run_wait, hresult]
      rfl
    exact ⟨_, _, .wait hwait, rfl⟩
  | cancel =>
    have hdrop : s.supervisor.drop.run (place none) s.session =
        (some (), s.session) := by
      rw [hagrees.supervisor hasked.2, hsession, run_drop, hresult]
      rfl
    exact ⟨(), _, .cancel hdrop, rfl⟩
  | openDummy | print record | log record =>
    exact ⟨(), _, .aside trivial, rfl⟩
  | openRemote host port bound | catchInterrupts =>
    exact ⟨.ok (), _, .aside trivial, rfl⟩

/-- Once the session is over, nothing keeps the command from its end. -/
theorem Kept.exists_ended (h : Kept rounds serving args cardName s)
    (hover : s.Over) :
    ∃ s', Following.Run serving cardName s s' ∧ s'.session = s.session ∧
      s'.said.any deafens = s.said.any deafens ∧
      ((∃ result, s'.command = .done result) ∨ s'.command = .cut) := by
  -- the command is a finite object, so this is by induction on what is left
  obtain ⟨command, supervisor, session, said⟩ := s
  induction command generalizing supervisor said with
  | done result => exact ⟨_, .start, rfl, rfl, .inl ⟨result, rfl⟩⟩
  | cut => exact ⟨_, .start, rfl, rfl, .inr rfl⟩
  | ask q next ih =>
    obtain ⟨a, supervisor', ha, hheard⟩ := h.exists_answer hover rfl
    have hstep := Following.Step.command rfl ha
    obtain ⟨s', hrun, hsession, hdeafens, hend⟩ :=
      ih a supervisor' _ (h.step hstep) hover
    refine ⟨s', (Following.Run.start.next hstep).trans hrun, hsession, ?_, hend⟩
    simpa [hheard] using hdeafens

/-- A command that follows a session prints what the session tells, and ends
as the session did. -/
structure Faithful (rounds serving : Nat) (args : Args) (cardName : String)
    (s : Following) : Prop where
  /-- The session is the one that the arguments ask for. -/
  begun : ∀ affair, s.session = some affair → ∃ config,
    settings args = .ok config ∧
      Affair.Run (.opening (Session.run serving config cardName)) affair
  /-- At any time the events were printed up to some point. -/
  inOrder : printed s.said <+: s.events.map .status
  /-- A command that fails has started no session, or could not catch
  interrupts; it has printed nothing. -/
  failed : ∀ failure, s.command = .done (.error failure) →
    printed s.said = [] ∧ (s.session = none ∨ s.said.any deafens = true)
  ended : ∀ code, s.command = .done (.ok code) →
    ∃ reason, Told s code reason
  /-- Only a long session uses up the bound on the rounds. -/
  cut : s.command = .cut → rounds ≤ s.events.length
  /-- The command comes to its end when the session does. -/
  goesOn : s.Over → s.events.length < rounds → s.said.any deafens = false →
    ∃ s' code, Following.Run serving cardName s s' ∧
      s'.session = s.session ∧ s'.command = .done (.ok code)

theorem Kept.cut (h : Kept rounds serving args cardName s)
    (hcommand : s.command = .cut) : rounds ≤ s.events.length := by
  have hkeeps := h.command
  rw [hcommand] at hkeeps
  have hprinted := h.printed_ahead.length_le
  have htaken := h.taken_ahead.length_le
  rw [List.length_map] at hprinted
  exact Nat.le_trans hkeeps.2 (Nat.le_trans hprinted htaken)

theorem Kept.failed (h : Kept rounds serving args cardName s)
    {failure : Failure} (hcommand : s.command = .done (.error failure)) :
    printed s.said = [] ∧ (s.session = none ∨ s.said.any deafens = true) := by
  obtain ⟨hnothing, hwhy⟩ := h.came hcommand
  exact ⟨hnothing, hwhy.imp_left fun hstarted => (h.unattended hstarted).1⟩

theorem Kept.faithful (h : Kept rounds serving args cardName s) :
    Faithful rounds serving args cardName s where
  begun := fun affair hsession => (h.agrees affair hsession).run
  inOrder := h.printed_ahead.trans (h.taken_ahead.map _)
  failed := fun _ hcommand => h.failed hcommand
  ended := fun _ hcommand => h.told hcommand
  cut := h.cut
  goesOn := by
    intro hover hfew hheard
    obtain ⟨s', hrun, hsession, hdeafens, hend⟩ := h.exists_ended hover
    have hkept := hrun.kept h
    obtain ⟨affair, outcome, hsome, -⟩ := hover
    rcases hend with ⟨failure | code, hcommand⟩ | hcommand
    · have hwhy := (hkept.failed hcommand).2
      simp [hsession, hsome, hdeafens, hheard] at hwhy
    · exact ⟨s', code, hrun, hsession, hcommand⟩
    · have hmany := hkept.cut hcommand
      rw [Following.events, hsession] at hmany
      exact absurd hmany (Nat.not_le.mpr hfew)

/-- In every order of the steps of the command, of the session and of those
who cancel it, what is printed is what the session tells. -/
theorem prints_what_is_told (rounds serving : Nat) (args : Args)
    (cardName : String) :
    ∀ s, Following.Run serving cardName (.opening rounds args) s →
      Faithful rounds serving args cardName s := by
  intro s hrun
  exact (hrun.kept (kept_opening rounds serving args cardName)).faithful

/-! ## A run -/

theorem not_unwound_of_ahead {history later : List Session.Occurrence}
    (h : ¬ Session.Unwound later) (hahead : history <+: later) :
    ¬ Session.Unwound history := by
  rintro ⟨e, he, hgaveUp⟩
  exact h ⟨e, hahead.subset he, hgaveUp⟩

/-- A session may go on for as long as it likes. -/
theorem Following.Run.session {s₀ : Following}
    {affair affair' : Affair Outcome}
    (hrun : Following.Run serving cardName s₀ s)
    (hsession : s.session = some affair) (haffair : Affair.Run affair affair')
    (hcard : ¬ Session.Unwound affair'.history) :
    Following.Run serving cardName s₀ { s with session := some affair' } := by
  induction haffair with
  | start =>
    rw [← hsession]
    exact hrun
  | next _ hstep ih =>
    obtain ⟨o, ho⟩ := hstep.history_eq
    have hbefore := ih (not_unwound_of_ahead hcard ⟨[o], ho.symm⟩)
    exact hbefore.next (.session rfl hstep hcard)

/-- No call gives up in a mild world. -/
theorem not_unwound_proceed (received : Except IoError Bytes) (n : Nat)
    (affair : Affair Outcome) (h : ¬ Session.Unwound affair.history) :
    ¬ Session.Unwound
      (affair.proceed (Affair.mildWorld received) n).history := by
  induction n generalizing affair with
  | zero => exact h
  | succ n ih =>
    rw [Affair.proceed]
    split
    · rename_i q next hsession
      apply ih
      rintro ⟨e, he, hgaveUp⟩
      rcases List.mem_append.mp he with he | he
      · exact h ⟨e, he, hgaveUp⟩
      · obtain rfl := Session.Occurrence.asked.inj (List.mem_singleton.mp he)
        cases q with
        | card op => cases op <;> cases hgaveUp
        | _ => cases hgaveUp
    · exact h

/-- A world in which the connection breaks at the first read. -/
def breakingWorld : (q : Session.Ask) → Session.Answer q :=
  Affair.mildWorld (.error (.ofKind .connectionReset))

/-- The connection breaks while the session waits for a frame. The first
event is printed before that, the others once the session is over. -/
theorem prints_what_is_told_of_broken_connection :
    ∃ s, Following.Run 2 "card" (.opening 3 {}) s ∧
      s.command = .done (.ok ExitCode.failure) ∧
      printed s.said = [.status (.connected "peer"),
        .status (.error "frame error: frame I/O error: connection reset"),
        .status (.disconnected (.failed "frame error"))] ∧
      Faithful 3 2 {} "card" s := by
  have hopened : Following.Run 2 "card" (.opening 3 {}) _ :=
    .next .start (.command (q := .openDummy) (a := ()) rfl (.aside trivial))
  have hstarted := hopened.next (.command rfl (.start (run_start _ none)))
  have hcaught := hstarted.next
    (.command (q := .catchInterrupts) (a := .ok ()) rfl (.aside trivial))
  have hserving := hcaught.session rfl (Affair.run_proceed breakingWorld 12 _)
    (not_unwound_proceed _ 12 _ (Affair.not_unwound_opening _))
  have htold := hserving.next (.command rfl (.event ⟨[], rfl⟩))
  have hprinted := htold.next
    (.command (q := .print _) (a := ()) rfl (.aside trivial))
  have hover := hprinted.session rfl (Affair.run_proceed breakingWorld 12 _)
    (not_unwound_proceed _ 12 _
      (not_unwound_proceed _ 12 _ (Affair.not_unwound_opening _)))
  have hfailed := hover.next
    (.command rfl (.event ⟨[.disconnected (.failed "frame error")], rfl⟩))
  have hprinted' := hfailed.next
    (.command (q := .print _) (a := ()) rfl (.aside trivial))
  have hended := hprinted'.next (.command rfl (.event ⟨[], rfl⟩))
  have hprinted'' := hended.next
    (.command (q := .print _) (a := ()) rfl (.aside trivial))
  have hwaited := hprinted''.next (.command rfl (.wait rfl))
  exact ⟨_, hwaited, rfl, rfl, prints_what_is_told 3 2 {} "card" _ hwaited⟩

end CardBridge.Cli.Serve
