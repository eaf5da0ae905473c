import CardBridge.Proofs.Session.Unwinding

/-!
# What an observer of a session can rely on

The states that an observer of a session can see, and what happens in which
of them, whatever the session is answered and whoever cancels it. A session
that a call has unwound stays in the state that it was in.
-/

namespace CardBridge.Session

open Dialogue

variable {α : Type} {listen : Bool} {n : Nat} {v : Watch}

/-! ## The work of a session -/

/-- A session is somewhere between its beginning and its end. -/
def AtWork (listen : Bool) (v : Watch) : Prop :=
  ∃ n, At listen n v

theorem keeps_advance {next : SessionState} {Q : Unit → Watch → Prop}
    (h : At listen n v) (hpossible : Possible listen (n + 1))
    (hnext : stateAt listen (n + 1) = next)
    (hQ : ∀ v', At listen (n + 1) v' → Q () v') :
    (advance next).Keeps watched (Watchful listen) Q v := by
  subst hnext
  obtain ⟨haccepted, hv⟩ := h.next hpossible
  refine keeps_settled ⟨h.inCourse, haccepted⟩ fun _ => ?_
  exact hQ _ hv

theorem keeps_emit_connected (address : Address) (h : At listen n v)
    (hconnected : stateAt listen n = .connected) :
    (emit (.connected address)).run.Keeps watched (Watchful listen)
      (fun _ => At listen n) v :=
  keeps_attends (asks_emit (.connected address) rfl) h hconnected

theorem keeps_reader (rounds : Nat) (config : SessionConfig)
    (h : At listen n v) (hconnected : stateAt listen n = .connected) :
    (serveConnection rounds config).run.Keeps watched (Watchful listen)
      (fun _ => At listen n) v := by
  have hserved := keeps_attends
    ((asks_served rounds config).mono fun _ => During.attends) h hconnected
  refine keeps_serveConnection.mpr (hserved.imp ?_)
  intro r v hv
  refine ⟨fun _ => hv, fun _ => ⟨hv.aside trivial, ?_⟩⟩
  intro _ _ hcleared
  subst hcleared
  refine ⟨hv.aside trivial, ?_⟩
  intro _ _ hshut
  subst hshut
  exact hv

/-- The state after a connection was offered to the token. -/
def Welcomed (listen : Bool) (n : Nat) : Except Stop Bool → Watch → Prop
  | .ok true, v => At listen (n + 1) v
  | .ok false, v => At listen n v
  | .error _, v => AtWork listen v

theorem keeps_welcome (address : Address) (h : At listen n v)
    (hpossible : Possible listen (n + 1))
    (hconnected : stateAt listen (n + 1) = .connected) :
    (takeOn address).run.Keeps watched (Watchful listen)
      (Welcomed listen n) v := by
  have hduplicate : (onSocket Socket.duplicate).run.Asks Aside :=
    asks_onSocket (asks_of_forall fun _ => trivial)
  refine (keeps_aside hduplicate h).run_bind ?_
  intro r v hv
  cases r with
  | error stop => exact ⟨n, hv⟩
  | ok handle =>
    refine (keeps_aside (asks_orFail handle) hv).run_bind ?_
    intro r v hv
    cases r with
    | error stop => exact ⟨n, hv⟩
    | ok _ =>
      refine keeps_run_bind.mpr (keeps_run_liftM.mpr ?_)
      refine (keeps_aside (asks_ask (q := .token .register) trivial) hv).imp ?_
      intro taken v hv
      cases taken with
      | false => exact hv
      | true =>
        refine keeps_run_bind.mpr (keeps_run_liftM.mpr ?_)
        refine keeps_advance hv hpossible hconnected fun v hv => ?_
        refine (keeps_emit_connected address hv hconnected).run_bind ?_
        intro r v hv
        cases r with
        | error stop => exact ⟨n + 1, hv⟩
        | ok _ => exact hv

theorem keeps_onNetwork_aside
    (d : Dialogue Network (Except TransportError α)) (h : At listen n v) :
    (onNetwork d).run.Keeps watched (Watchful listen)
      (fun _ => At listen n) v := by
  have hasks : (onNetwork d).run.Asks Aside :=
    asks_onNetwork (asks_of_forall fun _ => trivial)
  exact keeps_aside hasks h

theorem keeps_isCancelled_aside (h : At listen n v) :
    isCancelled.Keeps watched (Watchful listen) (fun _ => At listen n) v :=
  keeps_aside (asks_ask (q := .token .isCancelled) trivial) h

theorem keeps_dialing (rounds : Nat) (config : SessionConfig)
    (h : At false 0 v) :
    (serveReader rounds config).run.Keeps watched (Watchful false)
      (fun _ => AtWork false) v := by
  refine keeps_run_bind.mpr (keeps_run_liftM.mpr ?_)
  refine (keeps_isCancelled_aside h).imp ?_
  intro flag v hv
  cases flag with
  | true => exact ⟨0, hv⟩
  | false =>
    refine (keeps_onNetwork_aside _ hv).run_bind ?_
    intro r v hv
    cases r with
    | error stop => exact ⟨0, hv⟩
    | ok peer =>
      refine (keeps_welcome _ hv (fun _ => Nat.le_refl 1) rfl).run_bind ?_
      intro r v hv
      match r, hv with
      | .error _, hv => exact hv
      | .ok false, hv => exact ⟨0, hv⟩
      | .ok true, hv =>
        refine (keeps_reader rounds config hv rfl).run_bind ?_
        intro r v hv
        cases r with
        | error stop => exact ⟨1, hv⟩
        | ok _ =>
          refine keeps_run_bind.mpr (keeps_run_liftM.mpr ?_)
          exact (keeps_isCancelled_aside hv).imp fun _ _ hv => ⟨1, hv⟩

theorem stateAt_waiting (n : Nat) :
    stateAt true (2 * n + 1) = .listening := by
  simp [stateAt]

theorem stateAt_serving (n : Nat) :
    stateAt true (2 * n + 1 + 1) = .connected := by
  simp [stateAt]

theorem keeps_clients (rounds : Nat) (config : SessionConfig) (left : Nat)
    (h : At true (2 * n) v) :
    (serveClients rounds config left).run.Keeps watched (Watchful true)
      (fun _ => AtWork true) v := by
  -- each turn takes two changes: to wait, and to serve
  induction left generalizing n v with
  | zero => exact h.inCourse
  | succ left ih =>
    refine keeps_run_bind.mpr (keeps_run_liftM.mpr ?_)
    refine keeps_advance h nofun (stateAt_waiting n) fun v hv => ?_
    have hwait : (awaitClient config.pollInterval rounds).run.Asks Aside :=
      asks_awaitClient trivial (asks_of_forall fun _ => trivial) rounds
    refine (keeps_aside hwait hv).run_bind ?_
    intro r v hv
    rcases r with stop | _ | peer
    · exact ⟨_, hv⟩
    · exact ⟨_, hv⟩
    refine (keeps_welcome _ hv nofun (stateAt_serving n)).run_bind ?_
    intro r v hv
    match r, hv with
    | .error _, hv => exact hv
    | .ok false, hv => exact ⟨_, hv⟩
    | .ok true, hv =>
      refine (keeps_reader rounds config hv
        (stateAt_serving n)).run_bind ?_
      intro r v hv
      cases r with
      | error stop => exact ⟨_, hv⟩
      | ok _ =>
        refine keeps_run_bind.mpr (keeps_run_liftM.mpr ?_)
        refine (keeps_isCancelled_aside hv).imp ?_
        intro flag v hv
        cases flag with
        | true => exact ⟨_, hv⟩
        | false =>
          refine (keeps_aside (asks_emit (.clientDisconnected _)
            ⟨id, rfl⟩) hv).run_bind ?_
          intro r v hv
          cases r with
          | error stop => exact ⟨_, hv⟩
          | ok _ => exact ih (n := n + 1) hv

theorem keeps_listening (rounds : Nat) (config : SessionConfig)
    (h : At true 0 v) :
    (serveListening rounds config).run.Keeps watched (Watchful true)
      (fun _ => AtWork true) v := by
  have haddresses : localAddresses.Asks Aside :=
    asks_localAddresses trivial fun _ => trivial
  refine (keeps_onNetwork_aside _ h).run_bind ?_
  intro r v hv
  cases r with
  | error stop => exact ⟨0, hv⟩
  | ok port =>
    refine keeps_run_bind.mpr (keeps_run_liftM.mpr ?_)
    refine (keeps_aside haddresses hv).imp ?_
    intro addresses v hv
    refine (keeps_aside (asks_emit (.listening port addresses)
      ⟨id, rfl⟩) hv).run_bind ?_
    intro r v hv
    cases r with
    | error stop => exact ⟨0, hv⟩
    | ok _ => exact keeps_clients (n := 0) rounds config rounds hv

theorem keeps_work (rounds : Nat) (config : SessionConfig) :
    (serve rounds config).run.Keeps watched (Watchful config.listen)
      (fun _ => AtWork config.listen) {} := by
  have hbegin : InCourse config.listen {} :=
    ⟨0, fun _ => Nat.zero_le 1, [.connecting, .closing, .closed], rfl⟩
  have hfirst : At config.listen 0 (({} : Watch).move .connecting) :=
    ⟨fun _ => Nat.zero_le 1, rfl, rfl⟩
  refine keeps_run_bind.mpr (keeps_run_liftM.mpr ?_)
  refine keeps_settled ⟨hbegin, rfl⟩ fun _ => ?_
  show Keeps _ _ _ (if config.listen = true then _ else _ :
    Serving ExitReason).run (({} : Watch).move .connecting)
  by_cases hlisten : config.listen = true
  · rw [if_pos hlisten]
    rw [hlisten] at hfirst ⊢
    exact keeps_listening rounds config hfirst
  · rw [if_neg hlisten]
    rw [Bool.not_eq_true] at hlisten
    rw [hlisten] at hfirst ⊢
    exact keeps_dialing rounds config hfirst

/-! ## The end of a session -/

/-- What was seen when a session has come to its end. -/
def SeenAll (listen : Bool) : Outcome → Watch → Prop
  | .ended _, v => ∃ n, Possible listen n ∧ v.seen = lifetime listen n
  | .unwound, v => InCourse listen v ∧ v.unwound = true

/-- A session is about to close. -/
structure Leaving (listen : Bool) (v : Watch) : Prop where
  state : v.state = .closing
  seen : ∃ n, Possible listen n ∧ v.seen = course listen n ++ [.closing]

theorem Leaving.inCourse (h : Leaving listen v) : InCourse listen v := by
  obtain ⟨n, hpossible, hseen⟩ := h.seen
  refine ⟨n, hpossible, [.closed], ?_⟩
  rw [hseen, lifetime, List.append_assoc]
  rfl

theorem At.leave (h : At listen n v) :
    (v.state.advance .closing).2 = true ∧ Leaving listen (v.move .closing) := by
  have hrank := stateAt_rank_le listen n
  rw [← h.state] at hrank
  have hmay : (v.state.advance .closing).2 = true ∧ v.state ≠ .closing := by
    revert hrank
    cases v.state <;> decide
  rw [Watch.move_of_accepted hmay.1 hmay.2]
  exact ⟨hmay.1, rfl, n, h.possible, by rw [h.seen]⟩

theorem Leaving.close (h : Leaving listen v) :
    (v.state.advance .closed).2 = true ∧
      ∃ n, Possible listen n ∧ (v.move .closed).seen = lifetime listen n := by
  obtain ⟨n, hpossible, hseen⟩ := h.seen
  have hmay : (v.state.advance .closed).2 = true ∧ v.state ≠ .closed := by
    rw [h.state]
    decide
  refine ⟨hmay.1, n, hpossible, ?_⟩
  rw [Watch.move_of_accepted hmay.1 hmay.2, hseen, List.append_assoc]
  rfl

theorem keeps_closing (cardName : String) (reason : ExitReason)
    (h : AtWork listen v) :
    (conclude cardName reason).Keeps watched (Watchful listen)
      (SeenAll listen) v := by
  obtain ⟨n, h⟩ := h
  obtain ⟨haccepted, hleaving⟩ := h.leave
  obtain ⟨hclosed, hall⟩ := hleaving.close
  simp only [conclude, windUp, keeps_bind, keeps_run_bind, keeps_run_liftM]
  refine ⟨⟨h.inCourse, haccepted⟩, ?_⟩
  intro _ _ hadvanced
  subst hadvanced
  refine ⟨⟨hleaving.inCourse, trivial⟩, ?_⟩
  intro _ _ hcleared
  subst hcleared
  refine keeps_eject_card cardName ⟨hleaving.inCourse, .inl hleaving.state⟩
    (fun _ => ⟨hleaving.inCourse, trivial⟩) ?_ ⟨hleaving.inCourse, rfl⟩
  refine keeps_emit.mpr ⟨⟨hleaving.inCourse, fun hservice => hservice.elim,
    fun _ => hleaving.state⟩, ?_⟩
  intro a _ htold
  subst htold
  cases a with
  | unwound => exact ⟨hleaving.inCourse, rfl⟩
  | returned _ =>
    refine ⟨⟨hleaving.inCourse, hclosed⟩, ?_⟩
    intro _ _ hfinished
    subst hfinished
    exact hall

theorem keeps_dropping (cardName : String) (h : AtWork listen v)
    (hunwound : v.unwound = true) :
    (abandon cardName).Keeps watched (Watchful listen)
      (fun _ => SeenAll listen .unwound) v := by
  obtain ⟨n, h⟩ := h
  exact keeps_bind.mpr (keeps_eject_card cardName
    ⟨h.inCourse, .inr hunwound⟩ (fun _ => ⟨h.inCourse, trivial⟩)
    ⟨h.inCourse, hunwound⟩ ⟨h.inCourse, rfl⟩)

/-- Whatever a session is answered, its state is moved in order. -/
theorem keeps_watchful (rounds : Nat) (config : SessionConfig)
    (cardName : String) :
    (run rounds config cardName).Keeps watched (Watchful config.listen)
      (SeenAll config.listen) {} := by
  have hserve := ((keeps_work rounds config).and
    (steady_serve rounds config {} rfl)).mono (fun _ _ hp => hp.1)
      fun _ _ => id
  rw [run_eq_concluding]
  refine hserve.bind ?_
  rintro r v ⟨hv, hunwound⟩
  match r with
  | .ok reason => exact keeps_closing cardName reason hv
  | .error (.failure e) =>
    obtain ⟨n, hat⟩ := hv
    refine (keeps_isCancelled_aside hat).bind ?_
    intro flag v hat
    cases flag with
    | true => exact keeps_closing cardName .cancelled ⟨n, hat⟩
    | false =>
      refine keeps_bind.mpr (keeps_emit.mpr ⟨hat.aside ⟨id, rfl⟩, ?_⟩)
      intro a _ htold
      subst htold
      cases a with
      | returned _ => exact keeps_closing cardName _ ⟨n, hat⟩
      | unwound =>
        have hgone := hat.enter (q := .emit (.error e.message)) nofun .unwound
        exact (keeps_dropping cardName ⟨n, hgone⟩ rfl).bind fun _ _ hv => hv
  | .error .unwound =>
    exact (keeps_dropping cardName hv (hunwound.mp rfl)).bind fun _ _ hv => hv

/-! ## In company -/

/-- A call gave up. -/
inductive GaveUp : Exchange Session → Prop where
  | card (op : Card.Operation) : GaveUp ⟨.card op, .unwound⟩
  /-- It was a call to those who watch. -/
  | emit (event : Event) : GaveUp ⟨.emit event, .unwound⟩

/-- A call to the card or to those who watch gave up. -/
def Unwound (history : List Occurrence) : Prop :=
  ∃ e, .asked e ∈ history ∧ GaveUp e

theorem watchOf_concat (history : List Occurrence) (q : Ask) (a : Answer q) :
    watchOf (history ++ [.asked ⟨q, a⟩]) = (watchOf history).enter q a := by
  rw [watchOf, List.foldl_append]
  rfl

theorem unwound_enter {q : Ask} {a : Answer q} :
    (v.enter q a).unwound = true ↔ v.unwound = true ∨ GaveUp ⟨q, a⟩ := by
  by_cases hgaveUp : GaveUp ⟨q, a⟩
  · refine iff_of_true ?_ (.inr hgaveUp)
    cases hgaveUp <;> rfl
  · rw [or_iff_left hgaveUp]
    cases q with
    | card op =>
      cases a with
      | returned _ => rfl
      | unwound => exact absurd (.card op) hgaveUp
    | emit event =>
      cases a with
      | returned _ => rfl
      | unwound => exact absurd (.emit event) hgaveUp
    | advance next => rw [Watch.enter, v.unwound_move]
    | _ => rfl

theorem unwound_cons (o : Occurrence) (history : List Occurrence) :
    Unwound (o :: history) ↔
      (∃ e, .asked e = o ∧ GaveUp e) ∨ Unwound history := by
  simp only [Unwound, List.mem_cons, or_and_right, exists_or]

theorem unwound_foldl {history : List Occurrence} :
    (history.foldl Occurrence.watch v).unwound = true ↔
      v.unwound = true ∨ Unwound history := by
  induction history generalizing v with
  | nil => simp [Unwound]
  | cons o history ih =>
    rw [List.foldl_cons, ih, unwound_cons, ← or_assoc]
    refine or_congr_left ?_
    cases o with
    | asked e => simpa [Occurrence.watch] using unwound_enter
    | cancelled call => simp [Occurrence.watch]
    | shut call c => simp [Occurrence.watch]

theorem unwound_watchOf {history : List Occurrence} :
    (watchOf history).unwound = true ↔ Unwound history :=
  unwound_foldl.trans (or_iff_right nofun)

namespace Affair

variable {s s' : Affair α}

theorem not_unwound_opening (session : Dialogue Session α) :
    ¬ Unwound (opening session).history := by
  simp [Unwound, opening]

/-- What is seen of a session does not depend on those who cancel it. -/
theorem Run.watched {P : Option Ask → Watch → Prop} {Q : α → Watch → Prop}
    (h : Run s s')
    (hs : s.session.Keeps Session.watched P Q (watchOf s.history)) :
    s'.session.Keeps Session.watched P Q (watchOf s'.history) := by
  induction h with
  | start => exact hs
  | next _ hstep ih =>
    cases hstep with
    | answer hsession _ =>
      rw [hsession] at ih
      exact ih.step (watchOf_concat _ _ _)
    | cancel =>
      rw [Affair.cancel, watchOf, List.foldl_append]
      exact ih
    | shut =>
      rw [Affair.shut, watchOf, List.foldl_append]
      exact ih

/-- What can be seen of a session that does not move its state. -/
theorem Run.seen_eq (hrun : Run s s')
    (h : ∀ t, Run s t → ∀ next rest, t.session ≠ .ask (.advance next) rest) :
    (watchOf s'.history).seen = (watchOf s.history).seen := by
  induction hrun with
  | start => rfl
  | next hbefore hstep ih =>
    rw [← ih]
    cases hstep with
    | answer hsession _ =>
      rw [answer, watchOf_concat]
      refine Watch.seen_enter _ ?_ _
      rintro next rfl
      exact h _ hbefore next _ hsession
    | cancel =>
      rw [cancel, watchOf, List.foldl_append]
      rfl
    | shut =>
      rw [shut, watchOf, List.foldl_append]
      rfl

/-- A call that gives up unwinds the session: its state is not moved any
more, and there is no reason for its end. -/
theorem Run.unwinds {rounds : Nat} {config : SessionConfig}
    {cardName : String} {s : Affair Outcome}
    (hrun : Run (opening (run rounds config cardName)) s)
    (h : Unwound s.history) :
    (∀ next rest, s.session ≠ .ask (.advance next) rest) ∧
      ∀ outcome, s.session = .done outcome → outcome = .unwound := by
  have hkeeps := hrun.watched (keeps_moving rounds config cardName)
  have hunwound := unwound_watchOf.mpr h
  refine ⟨?_, ?_⟩
  · intro next rest hsession
    rw [hsession] at hkeeps
    exact absurd (hkeeps.1.symm.trans hunwound) nofun
  · intro outcome hsession
    rw [hsession] at hkeeps
    exact hkeeps.mpr hunwound

theorem Run.stays {rounds : Nat} {config : SessionConfig}
    {cardName : String} {s : Affair Outcome} {earlier later : List Occurrence}
    {e : Exchange Session}
    (hrun : Run (opening (run rounds config cardName)) s)
    (hhistory : s.history = earlier ++ .asked e :: later)
    (hgaveUp : GaveUp e) :
    (watchOf s.history).seen = (watchOf earlier).seen := by
  obtain ⟨t, next, hbefore, rfl, hsession, htoken, hafter⟩ :=
    hrun.answered List.nil_prefix hhistory
  have hnext := hbefore.next (.answer hsession htoken)
  rw [hafter.seen_eq, answer, watchOf_concat]
  · refine Watch.seen_enter _ ?_ _
    rintro next heq
    cases hgaveUp <;> cases heq
  · intro u hu
    refine ((hnext.trans hu).unwinds ⟨e, ?_, hgaveUp⟩).1
    exact hu.prefix.subset (by simp [answer])

/-- What an observer of a session can rely on, at any time. -/
structure Observed (listen : Bool) (s : Affair Outcome) : Prop where
  /-- No attempt of the session to move its state is rejected. -/
  accepted : ∀ next rest, s.session = .ask (.advance next) rest →
    ((watchOf s.history).state.advance next).2 = true
  /-- The states so far are how the life of a session begins. -/
  inCourse : InCourse listen (watchOf s.history)
  /-- They are all of it in the end, unless a call to the card or to those who
  watch gave up. -/
  finished : ∀ outcome, s.session = .done outcome → Unwound s.history ∨
    ∃ n, Possible listen n ∧ (watchOf s.history).seen = lifetime listen n
  /-- What has to do with a reader or with the card is told while one is
  connected. -/
  served : ∀ event rest, s.session = .ask (.emit event) rest →
    OfService event → (watchOf s.history).state = .connected
  /-- The end is told while the session closes. -/
  told : ∀ reason rest, s.session = .ask (.emit (.disconnected reason)) rest →
    (watchOf s.history).state = .closing
  /-- The card is ejected then, unless a call to it or to those who watch gave
  up. -/
  ejected : ∀ rest, s.session = .ask (.card .eject) rest →
    Unwound s.history ∨ (watchOf s.history).state = .closing
  /-- No state can be seen after a call that gave up. -/
  stays : ∀ earlier e later, s.history = earlier ++ .asked e :: later →
    GaveUp e → (watchOf s.history).seen = (watchOf earlier).seen
  /-- Such a call unwinds the session. -/
  unwinds : Unwound s.history →
    ∀ outcome, s.session = .done outcome → outcome = .unwound

theorem Run.observed {s : Affair Outcome} {rounds : Nat}
    {config : SessionConfig} {cardName : String}
    (hrun : Run (opening (run rounds config cardName)) s) :
    Observed config.listen s := by
  have hkeeps := hrun.watched (keeps_watchful rounds config cardName)
  have hask (q : Ask) (rest) (hsession : s.session = .ask q rest) :
      Permitted q (watchOf s.history) := by
    rw [hsession] at hkeeps
    exact hkeeps.1.2
  refine ⟨fun next => hask (.advance next), ?_, ?_, ?_, ?_, ?_,
    fun _ _ _ => hrun.stays, fun h => (hrun.unwinds h).2⟩
  · cases hsession : s.session with
    | done outcome =>
      rw [hsession] at hkeeps
      cases outcome with
      | ended reason =>
        obtain ⟨n, hpossible, hseen⟩ := hkeeps
        exact ⟨n, hpossible, hseen ▸ List.prefix_rfl⟩
      | unwound => exact hkeeps.1
    | ask q rest =>
      rw [hsession] at hkeeps
      exact hkeeps.1.1
    | cut =>
      rw [hsession] at hkeeps
      exact hkeeps
  · intro outcome hsession
    rw [hsession] at hkeeps
    cases outcome with
    | ended reason => exact .inr hkeeps
    | unwound => exact .inl (unwound_watchOf.mp hkeeps.2)
  · intro event rest hsession
    exact (hask _ rest hsession).1
  · intro reason rest hsession
    exact (hask _ rest hsession).2 rfl
  · intro rest hsession
    rcases hask _ rest hsession with hclosing | hunwound
    · exact .inr hclosing
    · exact .inl (unwound_watchOf.mp hunwound)

/-- No move of a session is rejected, the states that can be seen of it come
in order, and what happens in it happens in the state for it. Nor can anyone
else move a state backwards, or at all if it is not allowed to, or away from
the last one. -/
theorem states_in_order (rounds : Nat) (config : SessionConfig)
    (cardName : String) :
    (∀ s, Run (opening (run rounds config cardName)) s →
      Observed config.listen s) ∧
    ∀ (state : SessionState) (earlier later : List SessionState),
      (state.after earlier).rank ≤ (state.after (earlier ++ later)).rank ∧
      (∀ next, ((state.after earlier).advance next).2 = false →
        state.after (earlier ++ [next]) = state.after earlier) ∧
      (state.after earlier = .closed →
        state.after (earlier ++ later) = .closed) := by
  refine ⟨fun _ hrun => hrun.observed, fun state earlier later => ?_⟩
  rw [SessionState.after_append]
  refine ⟨SessionState.rank_le_after _ later, ?_, ?_⟩
  · intro next hrejected
    rw [SessionState.after_append]
    exact SessionState.advance_of_rejected hrejected
  · intro hclosed
    rw [hclosed]
    exact SessionState.after_closed later

/-- The reader ends the connection; a closed session stays closed. -/
theorem states_in_order_of_peer_closed :
    (∃ s, Run (opening (run 2 (.client "reader" 1) "card")) s ∧
      s.session = .done (.ended .peerClosed) ∧ Observed false s ∧
      (watchOf s.history).seen =
        [.idle, .connecting, .connected, .closing, .closed]) ∧
    SessionState.idle.after [.connecting, .closed] = .closed ∧
      SessionState.idle.after ([.connecting, .closed] ++ [.connected]) =
        .closed := by
  obtain ⟨hrun, hafter⟩ := states_in_order 2 (.client "reader" 1) "card"
  have hended := run_proceed (mildWorld (.ok []))
    24 (opening (run 2 (.client "reader" 1) "card"))
  refine ⟨⟨_, hended, rfl, hrun _ hended, rfl⟩, rfl, ?_⟩
  exact (hafter .idle [.connecting, .closed] [.connected]).2.2 rfl

/-- Nobody can be dialed, and the card takes the session with it when it is
ejected. -/
def ruinousWorld : (q : Ask) → Answer q
  | .network (.connect _ _) => .error (.ofKind .connectionRefused)
  | .card .eject => .unwound
  | q => mildWorld (.ok []) q

/-- The reader asks for power, and the card takes the session with it. -/
def powerlessWorld : (q : Ask) → Answer q
  | .socket (.stream (.receive size)) =>
    .ok (if size = 2 then [0x00, 0x01] else [0x01])
  | .card .powerOn => .unwound
  | q => mildWorld (.ok []) q

/-- Those who watch give up when they are told of a reader. -/
def blindWorld : (q : Ask) → Answer q
  | .emit (.connected _) => .unwound
  | q => mildWorld (.ok []) q

/-- A session whose card gives up, or those who watch it, does not come to the
last state, and is let go of in the state that it was in. -/
theorem unwound_not_closed :
    (∃ s, Run (opening (run 2 (.client "reader" 1) "card")) s ∧
      s.session = .done .unwound ∧
      (watchOf s.history).seen = [.idle, .connecting, .closing]) ∧
    (∃ s rest, Run (opening (run 3 (.client "reader" 1) "card")) s ∧
      s.session = .ask (.card .eject) rest ∧
      (watchOf s.history).state = .connected) ∧
    ∃ s, Run (opening (run 2 (.client "reader" 1) "card")) s ∧
      s.session = .done .unwound ∧ s.books.calls = [.eject] ∧
      (watchOf s.history).seen = [.idle, .connecting, .connected] :=
  ⟨⟨_, run_proceed ruinousWorld 24 _, rfl, rfl⟩,
    ⟨_, _, run_proceed powerlessWorld 16 _, rfl, rfl⟩,
    _, run_proceed blindWorld 24 _, rfl, rfl, rfl⟩

end Affair

end CardBridge.Session
