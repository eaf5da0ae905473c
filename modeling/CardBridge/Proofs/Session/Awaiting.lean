import CardBridge.Proofs.Session.Reception
import Mathlib.Data.Nat.Find

/-!
# How a session waits for readers

A session that listens asks whether it was told to stop and then polls for
one interval, by turns. A poll may give nothing, a reader or a failure of any
kind, and the session may be told to stop between any two of its questions.
What is first decides: a check that finds it told to stop, a reader, or a
failure other than those that pass (`sessions_await_clients`).
-/

namespace CardBridge.Session

open Dialogue

/-- A session that waits for readers, in surroundings that are otherwise of
any kind. -/
structure Lookout (ω : Type) where
  /-- What the polls give, in the order in which they are made. -/
  polls : Nat → Except IoError (Option (Option Address))
  /-- How many polls were made. -/
  made : Nat := 0
  /-- The session is told to stop once this many questions were answered. -/
  stop : Option Nat := none
  /-- How many questions were answered. -/
  time : Nat := 0
  /-- What those who watch were told. -/
  events : List Event := []
  others : ω

namespace Lookout

variable {ω : Type}

/-- Whether the session was told to stop by now. -/
def told (w : Lookout ω) : Bool :=
  w.stop.any (· ≤ w.time)

/-- One more question is answered. -/
def next (w : Lookout ω) : Lookout ω :=
  { w with time := w.time + 1 }

/-- One more poll is made. -/
def polled (w : Lookout ω) : Lookout ω :=
  { w.next with made := w.made + 1 }

/-- Something is asked that concerns the rest of the surroundings. -/
def consulted (others : Machine Session ω) (q : Ask) (w : Lookout ω) :
    Lookout ω :=
  { w.next with others := (others q w.others).2 }

/-- What the session is answered. A connection that was accepted can be made
to wait in its reads, and those who watch do not give up. -/
def machine (others : Machine Session ω) : Machine Session (Lookout ω)
  | .token .isCancelled, w => (w.told, w.next)
  | .token .register, w => (!w.told, w.next)
  | .network (.poll _), w => (w.polls w.made, w.polled)
  | .network .unpoll, w => (.ok (), w.next)
  | .emit event, w =>
    (.returned (), { w.next with events := w.events ++ [event] })
  | q, w => ((others q w.others).1, w.consulted others q)

/-- After `m` rounds in which the session looks whether it was told to stop
and then polls. -/
def passed (w : Lookout ω) (m : Nat) : Lookout ω :=
  { w with made := w.made + m, time := w.time + 2 * m }

/-- The kinds of failure that only mean that nobody can be accepted now. -/
def passing : List IoError.Kind :=
  [.wouldBlock, .connectionAborted, .interrupted]

/-- Nothing comes of a poll. -/
def Idle : Except IoError (Option (Option Address)) → Prop
  | .ok none => True
  | .ok (some _) => False
  | .error cause => cause.kind ∈ passing

instance : DecidablePred Idle
  | .ok none => isTrue trivial
  | .ok (some _) => isFalse id
  | .error cause => inferInstanceAs (Decidable (cause.kind ∈ passing))

variable {others : Machine Session ω} {w : Lookout ω} {interval : Duration}
  {rounds left k m n : Nat} {config : SessionConfig} {cardName : String}
  {peer : Option Address} {cause : IoError}

theorem polled_next_passed (w : Lookout ω) (m : Nat) :
    (w.passed m).next.polled = w.passed (m + 1) := rfl

/-- Whoever was told to stop stays told. -/
theorem told_passed_mono (hle : k ≤ n) (h : (w.passed k).told = true) :
    (w.passed n).told = true := by
  rw [told, Option.any_eq_true_iff_get] at h ⊢
  obtain ⟨hstop, ht⟩ := h
  refine ⟨hstop, ?_⟩
  rw [decide_eq_true_eq] at ht ⊢
  exact Nat.le_trans ht
    (Nat.add_le_add_left (Nat.mul_le_mul_left 2 hle) w.time)

theorem untold_passed_of_le (hle : k ≤ n) (h : (w.passed n).told = false) :
    (w.passed k).told = false := by
  cases hk : (w.passed k).told with
  | false => rfl
  | true =>
    rw [told_passed_mono hle hk] at h
    cases h

theorem isPassing_iff : Network.isPassing cause = true ↔
    cause.kind ∈ passing := by
  simp [Network.isPassing, passing]

/-! ## One round -/

theorem run_accept_of_idle (h : Idle (w.polls w.made)) :
    (onNetwork (Network.accept interval)).run.run (machine others).handler w =
      (some (.ok none), w.polled) := by
  apply Reception.run_onNetwork
  simp only [Network.accept, Network.ask, Dialogue.question, embed,
    Dialogue.run, Machine.handler, machine, Dialogue.ask_bind]
  rcases hpoll : w.polls w.made with cause | _ | peer
  · rw [hpoll] at h
    simp [isPassing_iff.mpr h, embed]
  · rfl
  · rw [hpoll] at h
    cases h

theorem run_accept_of_client (h : w.polls w.made = .ok (some peer)) :
    (onNetwork (Network.accept interval)).run.run (machine others).handler w =
      (some (.ok (some peer)), w.polled.next) := by
  apply Reception.run_onNetwork
  simp [Network.accept, Network.ask, Dialogue.question, embed, Dialogue.run,
    Machine.handler, machine, h]

theorem run_accept_of_failure (h : w.polls w.made = .error cause)
    (hkind : cause.kind ∉ passing) :
    (onNetwork (Network.accept interval)).run.run (machine others).handler w =
      (some (.error (.failure (.transport (.accept cause)))), w.polled) := by
  have haccept : ((Network.accept interval).embed Ask.network
      fun _ answer => answer : Dialogue Session _).run
        (machine others).handler w =
      (some (.error (.accept cause)), w.polled) := by
    have hpassing : ¬ Network.isPassing cause = true :=
      fun h => hkind (isPassing_iff.mp h)
    simp [Network.accept, Network.ask, Dialogue.question, embed, Dialogue.run,
      Machine.handler, machine, h, hpassing]
  rw [onNetwork, run_except_bind, ExceptT.run_lift, run_map, haccept]
  rfl

theorem run_awaitClient_of_told (h : w.told = true) :
    (awaitClient interval (rounds + 1)).run.run (machine others).handler w =
      (some (.ok none), w.next) := by
  have hask : (awaitClient interval (rounds + 1)).run.run
      (machine others).handler w =
    ((if w.told then pure none else _ : Serving _)).run.run
      (machine others).handler w.next := rfl
  rw [hask, h]
  rfl

/-- A session that was not told to stop polls. -/
theorem run_awaitClient_of_untold (h : w.told = false) :
    (awaitClient interval (rounds + 1)).run.run (machine others).handler w =
      match (onNetwork (Network.accept interval)).run.run
        (machine others).handler w.next with
      | (some (.ok (some peer)), w') => (some (.ok (some peer)), w')
      | (some (.ok none), w') =>
        (awaitClient interval rounds).run.run (machine others).handler w'
      | (some (.error e), w') => (some (.error e), w')
      | (none, w') => (none, w') := by
  have hask : (awaitClient interval (rounds + 1)).run.run
      (machine others).handler w =
    ((if w.told then pure none else _ : Serving _)).run.run
      (machine others).handler w.next := rfl
  rw [hask, h, if_neg Bool.false_ne_true, run_except_bind]
  rcases (onNetwork (Network.accept interval)).run.run
    (machine others).handler w.next with ⟨_ | _ | _ | peer, w'⟩ <;> rfl

/-! ## Any number of rounds -/

/-- Rounds of which nothing comes leave the session waiting. -/
theorem run_awaitClient_passed
    (hidle : ∀ j < m, Idle (w.polls (w.made + j)))
    (huntold : ∀ k < m, (w.passed k).told = false) :
    (awaitClient interval (rounds + m)).run.run (machine others).handler w =
      (awaitClient interval rounds).run.run (machine others).handler
        (w.passed m) := by
  induction m generalizing rounds with
  | zero => rfl
  | succ m ih =>
    have hbefore : (awaitClient interval (rounds + 1 + m)).run.run
        (machine others).handler w =
      (awaitClient interval (rounds + 1)).run.run (machine others).handler
        (w.passed m) :=
      ih (fun j hj => hidle j (by omega)) (fun k hk => huntold k (by omega))
    have hlast : Idle ((w.passed m).next.polls (w.passed m).next.made) :=
      hidle m (by omega)
    rw [show rounds + (m + 1) = rounds + 1 + m by omega, hbefore,
      run_awaitClient_of_untold (huntold m (by omega)),
      run_accept_of_idle hlast]
    rfl

theorem exists_run_awaitClient (others : Machine Session ω)
    (interval : Duration) (hrounds : m < rounds)
    (hidle : ∀ j < m, Idle (w.polls (w.made + j)))
    (huntold : ∀ k < m, (w.passed k).told = false) :
    ∃ left, (awaitClient interval rounds).run.run (machine others).handler w =
      (awaitClient interval (left + 1)).run.run (machine others).handler
        (w.passed m) := by
  refine ⟨rounds - 1 - m, ?_⟩
  rw [← run_awaitClient_passed hidle huntold]
  congr
  omega

/-- How a wait for a reader comes out whose first `n` polls give nothing. -/
structure Awaits (others : Machine Session ω) (w : Lookout ω)
    (rounds n : Nat) : Prop where
  /-- Nobody is accepted if the session is told to stop when it looks before
  the poll that follows, and it ends at the first look that finds it so. -/
  told : ∀ interval, n < rounds → (w.passed n).told = true →
    ∃ m ≤ n, (w.passed m).told = true ∧
      (∀ k < m, (w.passed k).told = false) ∧
      (awaitClient interval rounds).run.run (machine others).handler w =
        (some (.ok none), (w.passed m).next)
  /-- Otherwise a reader that the poll gives is accepted. -/
  client : ∀ interval peer, n < rounds → (w.passed n).told = false →
    w.polls (w.made + n) = .ok (some peer) →
      (awaitClient interval rounds).run.run (machine others).handler w =
        (some (.ok (some peer)), (w.passed n).next.polled.next)
  /-- Otherwise a failure that it gives ends the wait, unless it passes. -/
  failure : ∀ interval cause, n < rounds → (w.passed n).told = false →
    w.polls (w.made + n) = .error cause → cause.kind ∉ passing →
      (awaitClient interval rounds).run.run (machine others).handler w =
        (some (.error (.failure (.transport (.accept cause)))),
          (w.passed n).next.polled)
  /-- As long as nothing comes, the session goes on waiting. -/
  waiting : ∀ interval, rounds ≤ n →
    (∀ k < rounds, (w.passed k).told = false) →
      (awaitClient interval rounds).run.run (machine others).handler w =
        (none, w.passed rounds)

theorem awaits (hidle : ∀ j < n, Idle (w.polls (w.made + j))) :
    Awaits others w rounds n where
  told interval hrounds htold := by
    -- the first look that finds it told
    have hex : ∃ m, (w.passed m).told = true := ⟨n, htold⟩
    have hle : Nat.find hex ≤ n := Nat.find_min' hex htold
    have huntold : ∀ k < Nat.find hex, (w.passed k).told = false := by
      intro k hk
      exact Bool.eq_false_iff.mpr (Nat.find_min hex hk)
    refine ⟨Nat.find hex, hle, Nat.find_spec hex, huntold, ?_⟩
    obtain ⟨left, hrun⟩ := exists_run_awaitClient others interval
      (Nat.lt_of_le_of_lt hle hrounds)
      (fun j hj => hidle j (Nat.lt_of_lt_of_le hj hle)) huntold
    rw [hrun, run_awaitClient_of_told (Nat.find_spec hex)]
  client interval peer hrounds huntold hpoll := by
    obtain ⟨left, hrun⟩ := exists_run_awaitClient others interval hrounds
      hidle fun k hk => untold_passed_of_le (by omega) huntold
    have hlast : (w.passed n).next.polls (w.passed n).next.made =
        .ok (some peer) := hpoll
    rw [hrun, run_awaitClient_of_untold huntold, run_accept_of_client hlast]
  failure interval cause hrounds huntold hpoll hkind := by
    obtain ⟨left, hrun⟩ := exists_run_awaitClient others interval hrounds
      hidle fun k hk => untold_passed_of_le (by omega) huntold
    have hlast : (w.passed n).next.polls (w.passed n).next.made =
        .error cause := hpoll
    rw [hrun, run_awaitClient_of_untold huntold,
      run_accept_of_failure hlast hkind]
  waiting interval hrounds huntold := by
    have hpassed : (awaitClient interval (0 + rounds)).run.run
        (machine others).handler w =
      (awaitClient interval 0).run.run (machine others).handler
        (w.passed rounds) :=
      run_awaitClient_passed (fun j hj => hidle j (by omega)) huntold
    rwa [Nat.zero_add] at hpassed

/-! ## The session around it -/

/-- The session says that it listens. -/
def listening (others : Machine Session ω) (w : Lookout ω) : Lookout ω :=
  w.consulted others (.advance .listening)

/-- Begins to listen. -/
def startListening (config : SessionConfig) : Serving Unit := do
  advance .connecting
  let port ← onNetwork (Network.bind config.listenAddress config.port)
  emit (.listening port (← localAddresses))

/-- What is left of a session that is about to wait for a reader. -/
def awaiting (rounds : Nat) (config : SessionConfig) (cardName : String)
    (left : Nat) : Dialogue Session Outcome :=
  (serveClients rounds config left).run >>= concluding cardName

theorem run_eject (heject : ∀ v, (others (.card .eject) v).1 ≠ .unwound)
    (cardName : String) (w : Lookout ω) :
    ∃ w', (eject cardName false).run.run (machine others).handler w =
        (some (.ok ()), w') ∧ w'.events = w.events ∧ w'.made = w.made := by
  have hcall : (liftM (ask (.card .eject)) :
      Serving (Attempt (Card.Answer .eject))).run.run
        (machine others).handler w =
      (some (.ok (others (.card .eject) w.others).1),
        w.consulted others (.card .eject)) := rfl
  rw [eject, run_except_bind, hcall]
  cases hreply : (others (.card .eject) w.others).1 with
  | returned result => cases result <;> exact ⟨_, rfl, rfl, rfl⟩
  | unwound => exact absurd hreply (heject w.others)

theorem run_conclude (heject : ∀ v, (others (.card .eject) v).1 ≠ .unwound)
    (cardName : String) (reason : ExitReason) (w : Lookout ω) :
    ∃ w', (conclude cardName reason).run (machine others).handler w =
        (some (.ended reason), w') ∧
      w'.events = w.events ++ [.disconnected reason] ∧ w'.made = w.made := by
  let w₁ := (w.consulted others (.advance .closing)).consulted others
    (.token .clear)
  have hwindUp : (windUp cardName reason).run.run (machine others).handler w =
    (eject cardName false >>= fun _ => do
      emit (.disconnected reason)
      advance .closed).run.run (machine others).handler w₁ := rfl
  obtain ⟨w₂, hrun, hevents, hmade⟩ := run_eject heject cardName w₁
  rw [conclude, Dialogue.run_bind, hwindUp, run_except_bind, hrun]
  refine ⟨_, rfl, ?_, hmade⟩
  exact congrArg (· ++ [Event.disconnected reason]) hevents

/-- An error is reported unless the session was told to stop. -/
theorem run_complain (heject : ∀ v, (others (.card .eject) v).1 ≠ .unwound)
    (cardName : String) (e : SessionError) (w : Lookout ω) :
    ∃ w', (concluding cardName (.error (.failure e))).run
          (machine others).handler w =
        (some (.ended (if w.told then .cancelled else .failed e.kind)), w') ∧
      w'.events = w.events ++
        (if w.told then [.disconnected .cancelled]
          else [.error e.message, .disconnected (.failed e.kind)]) ∧
      w'.made = w.made := by
  have hread : isCancelled.run (machine others).handler w =
      (some w.told, w.next) := rfl
  rw [concluding, Dialogue.run_bind, hread]
  cases w.told with
  | true => exact run_conclude heject cardName .cancelled w.next
  | false =>
    obtain ⟨w', hrun, hevents, hmade⟩ :=
      run_conclude heject cardName (.failed e.kind)
        { w.next.next with events := w.events ++ [.error e.message] }
    refine ⟨w', hrun, ?_, hmade⟩
    rw [hevents]
    simp

/-- A wait that ends without a reader ends the session, or is cut with it. -/
theorem run_awaiting {result : Option (Except Stop (Option (Option Address)))}
    {w' : Lookout ω} :
    (awaitClient config.pollInterval rounds).run.run
        (machine others).handler (w.listening others) = (result, w') →
      (∀ peer, result ≠ some (.ok (some peer))) →
        (awaiting rounds config cardName (left + 1)).run
            (machine others).handler w =
          match result with
          | some (.ok _) =>
            (concluding cardName (.ok .cancelled)).run
              (machine others).handler w'
          | some (.error stop) =>
            (concluding cardName (.error stop)).run
              (machine others).handler w'
          | none => (none, w') := by
  intro h hnobody
  have hrun : (serveClients rounds config (left + 1)).run.run
      (machine others).handler w =
    (awaitClient config.pollInterval rounds >>= _).run.run
      (machine others).handler (w.listening others) := rfl
  rw [awaiting, Dialogue.run_bind, hrun, run_except_bind, h]
  rcases result with _ | stop | _ | peer
  · rfl
  · rfl
  · rfl
  · exact absurd rfl (hnobody peer)

theorem message_accept (cause : IoError) :
    (SessionError.transport (.accept cause)).message =
      "transport error: failed to accept connection: " ++ cause.text := by
  have hsplit : "transport error: failed to accept connection: " =
      "transport error: " ++ "failed to accept connection: " := by decide
  rw [hsplit, String.append_assoc]
  rfl

/-- A failure that does not pass ends the session, which then asks once more
whether it was told to stop. -/
theorem run_awaiting_of_failure
    (heject : ∀ v, (others (.card .eject) v).1 ≠ .unwound)
    (hidle : ∀ j < n, Idle (w.polls (w.made + j)))
    (config : SessionConfig) (cardName : String) (left : Nat)
    (hrounds : n < rounds)
    (huntold : ((w.listening others).passed n).told = false)
    (hpoll : w.polls (w.made + n) = .error cause)
    (hkind : cause.kind ∉ passing) :
    let overtaken := ((w.listening others).passed (n + 1)).told
    ∃ w', (awaiting rounds config cardName (left + 1)).run
          (machine others).handler w =
        (some (.ended (if overtaken then .cancelled
          else .failed "transport error")), w') ∧
      w'.events = w.events ++
        (if overtaken then [.disconnected .cancelled]
          else
            [.error ("transport error: failed to accept connection: " ++
                cause.text),
              .disconnected (.failed "transport error")]) ∧
      w'.made = w.made + n + 1 := by
  intro overtaken
  have hawaits : Awaits others (w.listening others) rounds n := awaits hidle
  have hrun := hawaits.failure config.pollInterval cause hrounds huntold
    hpoll hkind
  obtain ⟨w', hend, hevents, hmade⟩ := run_complain heject cardName
    (.transport (.accept cause)) ((w.listening others).passed n).next.polled
  rw [polled_next_passed] at hend hevents
  refine ⟨w', ?_, ?_, hmade⟩
  · rw [run_awaiting hrun nofun]
    exact hend
  · rw [hevents, message_accept]
    rfl

/-- How a session that listens comes out of a wait whose first `n` polls give
nothing. -/
structure Reports (others : Machine Session ω) (w : Lookout ω)
    (rounds n : Nat) : Prop where
  /-- So a session comes to its first wait. -/
  begun : ∀ config cardName w₀, config.listen = true →
    (startListening config).run.run (machine others).handler w₀ =
      (some (.ok ()), w) →
        (run rounds config cardName).run (machine others).handler w₀ =
          (awaiting rounds config cardName rounds).run
            (machine others).handler w
  /-- A session that is told to stop before it makes the poll that follows
  was cancelled. -/
  cancelled : ∀ config cardName left, n < rounds →
    ((w.listening others).passed n).told = true →
      ∃ w', (awaiting rounds config cardName (left + 1)).run
            (machine others).handler w = (some (.ended .cancelled), w') ∧
        w'.events = w.events ++ [.disconnected .cancelled] ∧
        w'.made ≤ w.made + n
  /-- So was one that is told to stop while it makes that poll, even if the
  poll fails. -/
  overtaken : ∀ config cardName left cause, n < rounds →
    ((w.listening others).passed n).told = false →
    ((w.listening others).passed (n + 1)).told = true →
    w.polls (w.made + n) = .error cause → cause.kind ∉ passing →
      ∃ w', (awaiting rounds config cardName (left + 1)).run
            (machine others).handler w = (some (.ended .cancelled), w') ∧
        w'.events = w.events ++ [.disconnected .cancelled] ∧
        w'.made = w.made + n + 1
  /-- Otherwise a failure that does not pass is reported as one of the
  transport. -/
  reported : ∀ config cardName left cause, n < rounds →
    ((w.listening others).passed (n + 1)).told = false →
    w.polls (w.made + n) = .error cause → cause.kind ∉ passing →
      ∃ w', (awaiting rounds config cardName (left + 1)).run
            (machine others).handler w =
          (some (.ended (.failed "transport error")), w') ∧
        w'.events = w.events ++
          [.error ("transport error: failed to accept connection: " ++
              cause.text),
            .disconnected (.failed "transport error")] ∧
        w'.made = w.made + n + 1
  /-- As long as nothing comes, the session does not end. -/
  waiting : ∀ config cardName left, rounds ≤ n →
    (∀ k < rounds, ((w.listening others).passed k).told = false) →
      (awaiting rounds config cardName (left + 1)).run
          (machine others).handler w =
        (none, (w.listening others).passed rounds)

theorem serve_eq (h : config.listen = true) :
    serve rounds config =
      startListening config >>= fun _ =>
        serveClients rounds config rounds := by
  rw [serve, if_pos h, serveListening, startListening]
  simp only [bind_assoc]

theorem reports (heject : ∀ v, (others (.card .eject) v).1 ≠ .unwound)
    (hidle : ∀ j < n, Idle (w.polls (w.made + j))) :
    Reports others w rounds n where
  begun config cardName w₀ hlisten hstart := by
    rw [run_eq_concluding, serve_eq hlisten, Dialogue.run_bind,
      run_except_bind, hstart, awaiting, Dialogue.run_bind]
  cancelled config cardName left hrounds htold := by
    have hawaits : Awaits others (w.listening others) rounds n := awaits hidle
    obtain ⟨m, hm, -, -, hrun⟩ :=
      hawaits.told config.pollInterval hrounds htold
    obtain ⟨w', hend, hevents, hmade⟩ := run_conclude heject cardName
      .cancelled ((w.listening others).passed m).next
    refine ⟨w', ?_, hevents, ?_⟩
    · rw [run_awaiting hrun nofun]
      exact hend
    · rw [hmade]
      exact Nat.add_le_add_left hm w.made
  overtaken config cardName left cause hrounds huntold htold hpoll hkind := by
    have hend := run_awaiting_of_failure heject hidle config cardName left
      hrounds huntold hpoll hkind
    rwa [htold] at hend
  reported config cardName left cause hrounds huntold hpoll hkind := by
    have hend := run_awaiting_of_failure heject hidle config cardName left
      hrounds (untold_passed_of_le (Nat.le_succ n) huntold) hpoll hkind
    rwa [huntold] at hend
  waiting config cardName left hrounds huntold := by
    have hawaits : Awaits others (w.listening others) rounds n := awaits hidle
    rw [run_awaiting (hawaits.waiting config.pollInterval hrounds huntold)
      nofun]

/-- Whatever the polls of a session give and whenever it is told to stop, what
is first decides how a wait for a reader comes out: a look that finds it told
to stop, a reader, or a failure other than those that pass. Polls of which
nothing comes, in any number, neither end the session nor take anything from
what follows them. -/
theorem sessions_await_clients {ω : Type} (others : Machine Session ω)
    (w : Lookout ω) (rounds n : Nat)
    (hidle : ∀ j < n, Idle (w.polls (w.made + j))) :
    Awaits others w rounds n ∧
      ((∀ v, (others (.card .eject) v).1 ≠ .unwound) →
        Reports others w rounds n) :=
  ⟨awaits hidle, fun heject => reports heject hidle⟩

/-- Surroundings that grant everything. -/
def obliging : Machine Session Unit
  | .network q, _ => openNetwork "peer" q ()
  | .socket (.stream (.receive _)), _ => (.ok [], ())
  | .socket (.stream (.send offered)), _ => (.ok offered.length, ())
  | .socket (.stream .flush), _ => (.ok (), ())
  | .socket (.noDelay _), _ => (.ok (), ())
  | .socket (.readTimeout _), _ => (.ok (), ())
  | .socket (.writeTimeout _), _ => (.ok (), ())
  | .socket .duplicate, _ => (.ok (), ())
  | .socket .shutdown, _ => (.ok (), ())
  | .card op, _ => (.returned (steadyCard [0x3b] [] op ()).1, ())
  | .token .isCancelled, _ => (false, ())
  | .token .register, _ => (true, ())
  | .token .clear, _ => ((), ())
  | .localAddresses, _ => (.ok ["host"], ())
  | .emit _, _ => (.returned (), ())
  | .advance _, _ => ((), ())
  | .log _, _ => ((), ())

/-- Four polls of which nothing comes, each for a reason of its own, and then
a reader or a failure that stays. The reader is accepted even if the session
is told to stop while it polls, but not if it is told just before. -/
theorem sessions_await_clients_of_mixed :
    let idle : List (Except IoError (Option (Option Address))) :=
      [.ok none, .error ⟨.wouldBlock, "not yet"⟩,
        .error ⟨.connectionAborted, "gone"⟩, .error ⟨.interrupted, "signal"⟩]
    let reader : Lookout Unit :=
      { polls := fun j => idle.getD j (.ok (some (some "reader"))),
        stop := some 9, others := () }
    let early : Lookout Unit := { reader with stop := some 8 }
    let broken : Lookout Unit :=
      { polls := fun j => idle.getD j (.error ⟨.other, "no descriptors"⟩),
        others := () }
    (awaitClient ⟨1⟩ 65600).run.run (machine obliging).handler reader =
        (some (.ok (some (some "reader"))),
          { reader with made := 5, time := 11 }) ∧
      (awaitClient ⟨1⟩ 65600).run.run (machine obliging).handler early =
        (some (.ok none), { early with made := 4, time := 9 }) ∧
      ∃ w', (run 65600 (.listener 1) "card").run
            (machine obliging).handler broken =
          (some (.ended (.failed "transport error")), w') ∧
        w'.events =
          [.listening 0 ["host"],
            .error
              "transport error: failed to accept connection: no descriptors",
            .disconnected (.failed "transport error")] ∧
        w'.made = 5 := by
  intro idle reader early broken
  obtain ⟨hreader, -⟩ :=
    sessions_await_clients obliging reader 65600 4 (by decide)
  obtain ⟨hearly, -⟩ :=
    sessions_await_clients obliging early 65600 4 (by decide)
  let listens : Lookout Unit :=
    { broken with time := 5, events := [.listening 0 ["host"]] }
  obtain ⟨-, hbroken⟩ :=
    sessions_await_clients obliging listens 65600 4 (by decide)
  refine ⟨?_, ?_, ?_⟩
  · exact hreader.client ⟨1⟩ (some "reader") (by decide) (by decide) rfl
  · obtain ⟨m, hm, htold, -, hrun⟩ := hearly.told ⟨1⟩ (by decide) (by decide)
    obtain rfl : m = 4 := by
      have hbefore : ∀ k < 4, (early.passed k).told = false := by decide
      refine Nat.le_antisymm hm (Nat.le_of_not_lt fun hlt => ?_)
      rw [hbefore m hlt] at htold
      cases htold
    exact hrun
  · have hreports : Reports obliging listens 65600 4 := hbroken fun _ => nofun
    rw [hreports.begun (.listener 1) "card" broken rfl rfl]
    exact hreports.reported (.listener 1) "card" 65599 _ (by decide)
      (by decide) rfl (by decide)

end Lookout

end CardBridge.Session
