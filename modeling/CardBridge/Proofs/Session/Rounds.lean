import CardBridge.Proofs.Frame.Rounds
import CardBridge.Proofs.Session.Affair

/-!
# Sessions with larger bounds

A session with a larger bound goes on where the same session is cut, and does
nothing else in another way (`continued_run`). Whoever cancels it meanwhile,
every run of the one is therefore one of the other (`Affair.Run.continued`),
and a session is not cut before as many of its questions are answered as it
has rounds (`Affair.Run.le_answers`).
-/

namespace CardBridge.Session

open Dialogue

variable {α ε : Type} {n rounds rounds' left left' : Nat}

/-! ## What has no rounds of its own -/

theorem continued_liftM {d d' : Dialogue Session α} (h : d.ContinuedBy n d') :
    (liftM d : Serving α).run.ContinuedBy n (liftM d' : Serving α).run :=
  h.run_lift

theorem continued_ask (q : Ask) :
    (liftM (ask q) : Serving (Answer q)).run.ContinuedBy n
      (liftM (ask q) : Serving (Answer q)).run :=
  continued_liftM (.ask fun _ => .done _ _)

theorem continued_orFail {wrap : ε → SessionError} (result : Except ε α) :
    (orFail wrap result).run.ContinuedBy n (orFail wrap result).run := by
  cases result <;> exact .done _ _

theorem continued_onNetwork {d : Dialogue Network (Except TransportError α)}
    (h : d.ContinuedBy n d) :
    (onNetwork d).run.ContinuedBy n (onNetwork d).run :=
  h.embed.run_lift.run_bind fun r => continued_orFail r

theorem continued_onSocket {d d' : Dialogue Socket α}
    (h : d.ContinuedBy n d') :
    (onSocket d).run.ContinuedBy n (onSocket d').run :=
  h.embed.run_lift

theorem continued_onCard (op : Card.Operation) :
    (onCard op).run.ContinuedBy n (onCard op).run := by
  refine (continued_ask (.card op)).run_bind fun r => ?_
  cases r with
  | returned result => exact continued_orFail result
  | unwound => exact .done _ _

theorem continued_emit (event : Event) :
    (emit event).run.ContinuedBy n (emit event).run := by
  refine (continued_ask (.emit event)).run_bind fun r => ?_
  cases r <;> exact .done _ _

theorem continued_setUp (config : SessionConfig) :
    (setUp config).run.ContinuedBy n (setUp config).run := by
  have hset (q : Socket.Ask)
      (f : Socket.Answer q → Except TransportError Unit) :
      (onSocket (return f (← Socket.ask q))).run.ContinuedBy n
        (onSocket (return f (← Socket.ask q))).run :=
    continued_onSocket (Socket.continued_ask q f)
  refine (hset (.noDelay true) _).run_bind fun r => ?_
  refine (continued_orFail r).run_bind fun _ => ?_
  refine (hset .duplicate _).run_bind fun r => ?_
  refine (continued_orFail r).run_bind fun _ => ?_
  refine (hset (.readTimeout config.ioTimeout) _).run_bind fun r => ?_
  refine (continued_orFail r).run_bind fun _ => ?_
  refine (hset .duplicate _).run_bind fun r => ?_
  refine (continued_orFail r).run_bind fun _ => ?_
  refine (hset (.writeTimeout config.ioTimeout) _).run_bind fun r => ?_
  exact continued_orFail r

theorem continued_control (command : ControlCommand) :
    (control command).run.ContinuedBy n (control command).run := by
  cases command with
  | powerOff =>
    refine (continued_onCard .powerOff).run_bind fun _ => ?_
    exact (continued_emit .poweredOff).run_bind fun _ => .done _ _
  | powerOn =>
    refine ContinuedBy.run_bind ?_ fun _ => .done _ _
    refine (continued_onCard .powerOn).run_bind fun _ => ?_
    refine (continued_emit .poweredOn).run_bind fun _ => ?_
    refine (continued_onCard .atr).run_bind fun atr => ?_
    exact continued_emit (.atr (Hex.upper atr))
  | reset =>
    refine (continued_onCard .reset).run_bind fun _ => ?_
    exact (continued_emit .reset).run_bind fun _ => .done _ _
  | getAtr => exact (continued_onCard .atr).run_bind fun _ => .done _ _

theorem continued_transmit (apdu : Bytes) :
    (transmit apdu).run.ContinuedBy n (transmit apdu).run := by
  refine (continued_emit (.commandApdu (Hex.upper apdu))).run_bind
    fun _ => ?_
  refine (continued_onCard (.transmit apdu)).run_bind fun response => ?_
  exact (continued_emit (.responseApdu (Hex.upper response))).run_bind
    fun _ => .done _ _

theorem continued_dispatch (payload : Bytes) :
    (dispatch payload).run.ContinuedBy n (dispatch payload).run := by
  refine (continued_orFail _).run_bind fun r => ?_
  cases r with
  | control command => exact continued_control command
  | apdu apdu => exact (continued_transmit apdu).run_bind fun _ => .done _ _

/-- Nothing is carried out without a question. -/
theorem dispatch_ne_done (payload : Bytes) (answer : Option Bytes) :
    (dispatch payload).run ≠ .done (.ok answer) := by
  rw [dispatch]
  cases Request.ofPayload payload with
  | error e => nofun
  | ok r =>
    cases r with
    | control command => cases command <;> nofun
    | apdu apdu => nofun

theorem continued_takeOn (address : Address) :
    (takeOn address).run.ContinuedBy n (takeOn address).run := by
  refine (continued_onSocket (Socket.continued_ask .duplicate _)).run_bind
    fun r => ?_
  refine (continued_orFail r).run_bind fun _ => ?_
  refine (continued_ask (.token .register)).run_bind fun taken => ?_
  cases taken with
  | false => exact .done _ _
  | true =>
    refine (continued_ask (.advance .connected)).run_bind fun _ => ?_
    exact (continued_emit (.connected address)).run_bind fun _ => .done _ _

theorem continued_localAddresses :
    localAddresses.ContinuedBy n localAddresses := by
  refine .ask fun r => ?_
  cases r with
  | ok addresses => exact .done _ _
  | error cause => exact .ask fun _ => .done _ _

theorem continued_eject (cardName : String) (ejected : Bool) :
    (eject cardName ejected).run.ContinuedBy n
      (eject cardName ejected).run := by
  cases ejected with
  | true => exact .done _ _
  | false =>
    refine .ask fun r => ?_
    match r with
    | .returned (.ok ()) | .unwound => exact .done _ _
    | .returned (.error e) => exact .ask fun _ => .done _ _

theorem continued_windUp (cardName : String) (reason : ExitReason) :
    (windUp cardName reason).run.ContinuedBy n
      (windUp cardName reason).run := by
  refine (continued_ask (.advance .closing)).run_bind fun _ => ?_
  refine (continued_ask (.token .clear)).run_bind fun _ => ?_
  refine (continued_eject cardName false).run_bind fun _ => ?_
  refine (continued_emit (.disconnected reason)).run_bind fun _ => ?_
  exact continued_ask (.advance .closed)

theorem continued_abandon (cardName : String) :
    (abandon cardName).ContinuedBy n (abandon cardName) :=
  (continued_eject cardName false).bind fun _ => .done _ _

theorem continued_conclude (cardName : String) (reason : ExitReason) :
    (conclude cardName reason).ContinuedBy n (conclude cardName reason) := by
  refine (continued_windUp cardName reason).bind fun woundUp => ?_
  cases woundUp <;> exact .done _ _

theorem continued_concluding (cardName : String)
    (worked : Except Stop ExitReason) :
    (concluding cardName worked).ContinuedBy n
      (concluding cardName worked) := by
  match worked with
  | .ok reason => exact continued_conclude cardName reason
  | .error .unwound =>
    exact (continued_abandon cardName).bind fun _ => .done _ _
  | .error (.failure e) =>
    refine .ask fun flag => ?_
    cases flag with
    | true => exact continued_conclude cardName .cancelled
    | false =>
      refine (continued_emit (.error e.message)).bind fun r => ?_
      cases r with
      | ok _ => exact continued_conclude cardName (.failed e.kind)
      | error _ => exact (continued_abandon cardName).bind fun _ => .done _ _

/-! ## Rounds -/

theorem continued_answer (hmore : rounds ≤ rounds') (response : Bytes) :
    (answer rounds response).run.ContinuedBy rounds
      (answer rounds' response).run := by
  have hsend : (onSocket (Socket.talk
      (Frame.send rounds response))).run.ContinuedBy rounds
        (onSocket (Socket.talk (Frame.send rounds' response))).run :=
    continued_onSocket (Frame.continued_send hmore response).embed
  rw [answer, answer]
  split
  · exact .done _ _
  · exact hsend.run_bind fun r => continued_orFail r

/-- In every round but the last something is asked: the card is called, or
those who watch are told. -/
theorem continued_exchange (hmore : rounds ≤ rounds') (hle : left ≤ rounds)
    (hleft : left ≤ left') (buffer : Bytes) :
    (exchange rounds left buffer).run.ContinuedBy left
      (exchange rounds' left' buffer).run := by
  induction left generalizing left' buffer with
  | zero => exact .cut _
  | succ left ih =>
    obtain ⟨more, rfl, hrest⟩ := exists_eq_succ hleft
    have hreceive : (onSocket (Socket.talk
        (Frame.receive rounds buffer))).run.ContinuedBy rounds
          (onSocket (Socket.talk (Frame.receive rounds' buffer))).run :=
      continued_onSocket (Frame.continued_receive hmore buffer).embed
    refine (hreceive.mono hle).run_bind fun r => ?_
    obtain ⟨e | payload, kept⟩ := r
    · cases e with
      | connectionClosed => exact .done _ _
      | _ =>
        refine (continued_ask (.token .isCancelled)).run_bind fun flag => ?_
        cases flag <;> exact .done _ _
    · refine (continued_dispatch payload).run_bind_succ
        (dispatch_ne_done payload) fun response => ?_
      have hless := Nat.le_of_succ_le hle
      cases response with
      | none => exact ih hless hrest kept
      | some response =>
        refine ((continued_answer hmore response).mono hless).run_bind
          fun _ => ?_
        exact ih hless hrest kept

theorem continued_serveConnection (hmore : rounds ≤ rounds')
    (config : SessionConfig) :
    (serveConnection rounds config).run.ContinuedBy rounds
      (serveConnection rounds' config).run := by
  have hclose (result : Except Stop Unit) :
      (do ask (.token .clear)
          let _ ← onSocket Socket.shutdown
          MonadExcept.ofExcept result : Serving Unit).run.ContinuedBy rounds
      (do ask (.token .clear)
          let _ ← onSocket Socket.shutdown
          MonadExcept.ofExcept result : Serving Unit).run := by
    refine (continued_ask (.token .clear)).run_bind fun _ => ?_
    refine (continued_onSocket Socket.continued_shutdown).run_bind fun _ => ?_
    cases result <;> exact .done _ _
  have hserving :
      (setUp config >>= fun _ => exchange rounds rounds []).run.ContinuedBy
        rounds
        (setUp config >>= fun _ => exchange rounds' rounds' []).run :=
    (continued_setUp config).run_bind fun _ =>
      continued_exchange hmore (Nat.le_refl _) hmore []
  refine ContinuedBy.run_bind hserving.run_lift fun result => ?_
  match result with
  | .ok () => exact hclose (.ok ())
  | .error (.failure e) => exact hclose (.error (.failure e))
  | .error .unwound => exact .done _ _

theorem continued_serveReader (hmore : rounds ≤ rounds')
    (config : SessionConfig) :
    (serveReader rounds config).run.ContinuedBy rounds
      (serveReader rounds' config).run := by
  refine (continued_ask (.token .isCancelled)).run_bind fun flag => ?_
  cases flag with
  | true => exact .done _ _
  | false =>
    refine (continued_onNetwork (Network.continued_dial _ _ _)).run_bind
      fun peer => ?_
    refine (continued_takeOn _).run_bind fun taken => ?_
    cases taken with
    | false => exact .done _ _
    | true =>
      refine (continued_serveConnection hmore config).run_bind fun _ => ?_
      exact (continued_ask (.token .isCancelled)).run_bind
        fun flag => .done _ _

theorem continued_awaitClient (interval : Duration)
    (hmore : rounds ≤ rounds') :
    (awaitClient interval rounds).run.ContinuedBy rounds
      (awaitClient interval rounds').run := by
  induction rounds generalizing rounds' with
  | zero => exact .cut _
  | succ rounds ih =>
    obtain ⟨more, rfl, hleft⟩ := exists_eq_succ hmore
    refine (continued_ask (.token .isCancelled)).run_bind_succ nofun
      fun flag => ?_
    cases flag with
    | true => exact .done _ _
    | false =>
      refine (continued_onNetwork (Network.continued_accept interval)).run_bind
        fun peer => ?_
      cases peer with
      | none => exact ih hleft
      | some peer => exact .done _ _

theorem continued_serveClients (hmore : rounds ≤ rounds')
    (config : SessionConfig) (hle : left ≤ rounds) (hleft : left ≤ left') :
    (serveClients rounds config left).run.ContinuedBy left
      (serveClients rounds' config left').run := by
  induction left generalizing left' with
  | zero => exact .cut _
  | succ left ih =>
    obtain ⟨more, rfl, hrest⟩ := exists_eq_succ hleft
    have hless := Nat.le_of_succ_le hle
    refine (continued_ask (.advance .listening)).run_bind_succ nofun
      fun _ => ?_
    refine ((continued_awaitClient config.pollInterval hmore).mono
      hless).run_bind fun client => ?_
    cases client with
    | none => exact .done _ _
    | some peer =>
      refine (continued_takeOn _).run_bind fun taken => ?_
      cases taken with
      | false => exact .done _ _
      | true =>
        refine ((continued_serveConnection hmore config).mono hless).run_bind
          fun _ => ?_
        refine (continued_ask (.token .isCancelled)).run_bind fun flag => ?_
        cases flag with
        | true => exact .done _ _
        | false =>
          exact (continued_emit _).run_bind fun _ => ih hless hrest

theorem continued_serve (hmore : rounds ≤ rounds') (config : SessionConfig) :
    (serve rounds config).run.ContinuedBy rounds
      (serve rounds' config).run := by
  refine (continued_ask (.advance .connecting)).run_bind fun _ => ?_
  split
  · refine (continued_onNetwork (Network.continued_bind _ _)).run_bind
      fun port => ?_
    refine (continued_liftM continued_localAddresses).run_bind
      fun addresses => ?_
    refine (continued_emit _).run_bind fun _ => ?_
    exact continued_serveClients hmore config (Nat.le_refl _) hmore
  · exact continued_serveReader hmore config

/-- A larger bound only continues a session where it was cut. -/
theorem continued_run (hmore : rounds ≤ rounds') (config : SessionConfig)
    (cardName : String) :
    (run rounds config cardName).ContinuedBy rounds
      (run rounds' config cardName) := by
  rw [run_eq_concluding, run_eq_concluding]
  exact (continued_serve hmore config).bind (continued_concluding cardName)

/-! ## In company -/

/-- The session asked something and was answered. -/
def Occurrence.isAnswer : Occurrence → Bool
  | .asked _ => true
  | _ => false

/-- How many questions were answered. -/
def answers (history : List Occurrence) : Nat :=
  history.countP Occurrence.isAnswer

theorem answers_asked (history : List Occurrence) (e : Exchange Session) :
    answers (history ++ [.asked e]) = answers history + 1 := by
  rw [answers, List.countP_append]
  rfl

theorem answers_le_concat (history : List Occurrence) (o : Occurrence) :
    answers history ≤ answers (history ++ [o]) := by
  rw [answers, answers, List.countP_append]
  exact Nat.le_add_right _ _

namespace Affair

variable {s s' : Affair α} {rest : Dialogue Session α}

/-- A step is also one of whatever continues the session. -/
theorem Step.continued (hstep : Step s s')
    (h : s.session.ContinuedBy n rest) :
    ∃ m rest', Step (s.continuing rest) (s'.continuing rest') ∧
      s'.session.ContinuedBy m rest' ∧
      n + answers s.history ≤ m + answers s'.history := by
  cases hstep with
  | answer hsession ha =>
    rw [hsession] at h
    obtain ⟨next, rfl, hnext⟩ := h.exists_ask
    refine ⟨n - 1, _, .answer rfl ha, hnext _, ?_⟩
    simp only [Affair.answer, answers_asked]
    omega
  | cancel hcall =>
    refine ⟨n, rest, .cancel hcall, h, ?_⟩
    exact Nat.add_le_add_left (answers_le_concat _ _) n
  | shut hcall =>
    refine ⟨n, rest, .shut hcall, h, ?_⟩
    exact Nat.add_le_add_left (answers_le_concat _ _) n

theorem Run.continued (hrun : Run s s') (h : s.session.ContinuedBy n rest) :
    ∃ m rest', Run (s.continuing rest) (s'.continuing rest') ∧
      s'.session.ContinuedBy m rest' ∧
      n + answers s.history ≤ m + answers s'.history := by
  induction hrun with
  | start => exact ⟨n, rest, .start, h, Nat.le_refl _⟩
  | next _ hstep ih =>
    obtain ⟨m, rest', hbefore, hsession, hanswers⟩ := ih
    obtain ⟨m', rest'', hnext, hsession', hanswers'⟩ :=
      hstep.continued hsession
    exact ⟨m', rest'', hbefore.next hnext, hsession',
      Nat.le_trans hanswers hanswers'⟩

/-- A session is not cut before as many of its questions are answered as it
has rounds. -/
theorem Run.le_answers {s : Affair Outcome} {config : SessionConfig}
    {cardName : String} (hrun : Run (opening (run rounds config cardName)) s)
    (hcut : s.session = .cut) : rounds ≤ answers s.history := by
  obtain ⟨m, rest, -, hsession, hanswers⟩ :=
    hrun.continued (continued_run (Nat.le_refl rounds) config cardName)
  rw [hcut] at hsession
  obtain rfl := hsession.eq_zero
  have hnone : answers (opening (run rounds config cardName)).history = 0 :=
    rfl
  omega

/-- What happens to a session happens to it with a larger bound as well. It
waits for the same answer then, or has come to the same end, unless it was
cut. -/
theorem Run.with_more {s : Affair Outcome} {config : SessionConfig}
    {cardName : String} (hrun : Run (opening (run rounds config cardName)) s)
    (hmore : rounds ≤ rounds') :
    ∃ rest, Run (opening (run rounds' config cardName)) (s.continuing rest) ∧
      (∀ q next, s.session = .ask q next → ∃ next', rest = .ask q next') ∧
      ∀ outcome, s.session = .done outcome → rest = .done outcome := by
  obtain ⟨m, rest, hrun', hsession, -⟩ :=
    hrun.continued (continued_run hmore config cardName)
  refine ⟨rest, hrun', ?_, ?_⟩
  · intro q next hasks
    rw [hasks] at hsession
    obtain ⟨next', hrest, -⟩ := hsession.exists_ask
    exact ⟨next', hrest⟩
  · intro outcome hdone
    rw [hdone] at hsession
    exact hsession.eq_done

end Affair

end CardBridge.Session
