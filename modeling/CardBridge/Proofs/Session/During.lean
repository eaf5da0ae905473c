import CardBridge.Proofs.Frame.Transfer
import CardBridge.Proofs.Session.Rules

/-!
# What is asked while a connection is served

Between the moment when the token takes a connection and the moment when it
is taken back, a session uses the connection, calls the card, tells what
happens and reads the flag. It does nothing else, whatever it is answered.
-/

namespace CardBridge.Session

open Dialogue

variable {α ε : Type}

/-- An event that says neither that the session failed nor that it is
over. -/
def Ordinary : Event → Prop
  | .error _ => False
  | .disconnected _ => False
  | _ => True

/-- What is asked while a connection is served. -/
def During : Ask → Prop
  | .socket .shutdown => False
  | .socket _ => True
  | .card op => op ≠ .eject
  | .token .isCancelled => True
  | .emit event => Ordinary event
  | _ => False

/-- What is asked once a connection is set up: of the connection itself
nothing but its octets. -/
def Exchanging : Ask → Prop
  | .socket (.stream _) => True
  | .card op => op ≠ .eject
  | .token .isCancelled => True
  | .emit event => Ordinary event
  | _ => False

theorem Exchanging.during {q : Ask} (h : Exchanging q) : During q := by
  match q, h with
  | .socket (.stream _), _ | .token .isCancelled, _ => trivial
  | .card _, h => exact h
  | .emit _, h => exact h

section

variable {S : Ask → Prop}

theorem asks_ask {q : Ask} (h : S q) : (ask q).Asks S :=
  ⟨h, fun _ => trivial⟩

theorem asks_liftM {d : Dialogue Session α} (h : d.Asks S) :
    (liftM d : Serving α).run.Asks S :=
  h.run_lift

theorem asks_question {q : Ask} (h : S q) :
    (liftM (ask q) : Serving (Answer q)).run.Asks S :=
  asks_liftM (asks_ask h)

theorem asks_orFail {wrap : ε → SessionError} (result : Except ε α) :
    (orFail wrap result).run.Asks S := by
  cases result <;> trivial

theorem asks_onNetwork {d : Dialogue Network (Except TransportError α)}
    (h : d.Asks fun q => S (.network q)) : (onNetwork d).run.Asks S :=
  h.embed.run_lift.run_bind fun r => asks_orFail r

theorem asks_onSocket {d : Dialogue Socket α}
    (h : d.Asks fun q => S (.socket q)) : (onSocket d).run.Asks S :=
  h.embed.run_lift

theorem asks_onCard {op : Card.Operation} (h : S (.card op)) :
    (onCard op).run.Asks S := by
  refine (asks_question h).run_bind ?_
  intro r
  rcases r with result | _
  · exact asks_orFail result
  · trivial

theorem asks_emit (event : Event) (h : S (.emit event)) :
    (emit event).run.Asks S := by
  refine (asks_question h).run_bind ?_
  intro r
  cases r <;> trivial

theorem asks_localAddresses (hask : S .localAddresses)
    (hlog : ∀ record, S (.log record)) : localAddresses.Asks S := by
  refine (asks_ask hask).bind fun r => ?_
  cases r with
  | ok addresses => trivial
  | error cause => exact ⟨hlog _, fun _ => trivial⟩

theorem asks_talk {d : Dialogue Stream α}
    {S : Socket.Ask → Prop} (h : d.Asks fun q => S (.stream q)) :
    (Socket.talk d).Asks S :=
  h.embed

theorem asks_awaitClient {interval : Duration}
    (hflag : S (.token .isCancelled))
    (haccept : (Network.accept interval).Asks fun q => S (.network q))
    (rounds : Nat) : (awaitClient interval rounds).run.Asks S := by
  induction rounds with
  | zero => trivial
  | succ rounds ih =>
    refine (asks_question hflag).run_bind fun flag => ?_
    cases flag with
    | true => trivial
    | false =>
      refine (asks_onNetwork haccept).run_bind ?_
      intro peer
      cases peer with
      | none => exact ih
      | some peer => trivial

end

theorem asks_setUp {S : Ask → Prop} (config : SessionConfig)
    (hdelay : S (.socket (.noDelay true)))
    (hduplicate : S (.socket .duplicate))
    (hread : S (.socket (.readTimeout config.ioTimeout)))
    (hwrite : S (.socket (.writeTimeout config.ioTimeout))) :
    (setUp config).run.Asks S := by
  have hset (q : Socket.Ask) (h : S (.socket q))
      (f : Socket.Answer q → Except TransportError Unit) :
      (onSocket (Socket.ask q >>= fun a => pure (f a))).run.Asks S :=
    asks_onSocket (Asks.bind ⟨h, fun _ => trivial⟩ fun _ => trivial)
  refine (hset (.noDelay true) hdelay _).run_bind fun r => ?_
  refine (asks_orFail r).run_bind fun _ => ?_
  refine (hset .duplicate hduplicate _).run_bind fun r => ?_
  refine (asks_orFail r).run_bind fun _ => ?_
  refine (hset (.readTimeout config.ioTimeout) hread _).run_bind fun r => ?_
  refine (asks_orFail r).run_bind fun _ => ?_
  refine (hset .duplicate hduplicate _).run_bind fun r => ?_
  refine (asks_orFail r).run_bind fun _ => ?_
  refine (hset (.writeTimeout config.ioTimeout) hwrite _).run_bind
    fun r => ?_
  exact asks_orFail r

theorem asks_control (command : ControlCommand) :
    (control command).run.Asks Exchanging := by
  have hcall (op : Card.Operation) (h : op ≠ .eject) :
      (onCard op).run.Asks Exchanging := asks_onCard h
  cases command with
  | powerOff =>
    refine (hcall .powerOff nofun).run_bind fun _ => ?_
    exact (asks_emit .poweredOff trivial).run_bind fun _ => trivial
  | powerOn =>
    refine Asks.run_bind ?_ fun _ => trivial
    refine (hcall .powerOn nofun).run_bind fun _ => ?_
    refine (asks_emit .poweredOn trivial).run_bind fun _ => ?_
    refine (hcall .atr nofun).run_bind fun atr => ?_
    exact asks_emit (.atr (Hex.upper atr)) trivial
  | reset =>
    refine (hcall .reset nofun).run_bind fun _ => ?_
    exact (asks_emit .reset trivial).run_bind fun _ => trivial
  | getAtr => exact (hcall .atr nofun).run_bind fun _ => trivial

theorem asks_transmit (apdu : Bytes) :
    (transmit apdu).run.Asks Exchanging := by
  refine (asks_emit (.commandApdu (Hex.upper apdu)) trivial).run_bind
    fun _ => ?_
  have hcall : (onCard (.transmit apdu)).run.Asks Exchanging :=
    asks_onCard nofun
  refine hcall.run_bind fun response => ?_
  exact (asks_emit (.responseApdu (Hex.upper response)) trivial).run_bind
    fun _ => trivial

theorem asks_dispatch (payload : Bytes) :
    (dispatch payload).run.Asks Exchanging := by
  refine (asks_orFail _).run_bind ?_
  intro r
  rcases r with command | apdu
  · exact asks_control command
  · exact (asks_transmit apdu).run_bind fun _ => trivial

theorem asks_answer (rounds : Nat) (response : Bytes) :
    (answer rounds response).run.Asks Exchanging := by
  have hsend : (onSocket (Socket.talk
      (Frame.send rounds response))).run.Asks Exchanging :=
    asks_onSocket (asks_talk (Frame.asks_send (fun _ => trivial) trivial _ _))
  rw [answer]
  split
  · exact trivial
  · exact hsend.run_bind fun r => asks_orFail r

theorem asks_exchange (rounds left : Nat) (buffer : Bytes) :
    (exchange rounds left buffer).run.Asks Exchanging := by
  induction left generalizing buffer with
  | zero => trivial
  | succ left ih =>
    refine (asks_onSocket (asks_talk (Frame.asks_receive
      (fun _ => trivial) rounds buffer))).run_bind ?_
    intro r
    obtain ⟨e | payload, kept⟩ := r
    · cases e with
      | connectionClosed => trivial
      | _ =>
        refine (asks_question (q := .token .isCancelled)
          trivial).run_bind fun flag => ?_
        cases flag <;> trivial
    · refine (asks_dispatch payload).run_bind ?_
      intro a
      rcases a with _ | response
      · exact ih kept
      · exact (asks_answer rounds response).run_bind fun _ => ih kept

/-- Nothing else is asked between the moment when the token takes a
connection and the moment when it is taken back. -/
theorem asks_served (rounds : Nat) (config : SessionConfig) :
    (setUp config >>= fun _ => exchange rounds rounds []).run.Asks During :=
  (asks_setUp config trivial trivial trivial trivial).run_bind fun _ =>
    (asks_exchange rounds rounds []).mono fun _ => Exchanging.during

/-- The connection is served, and then it is taken back and shut down. -/
theorem asks_serveConnection {S : Ask → Prop} {rounds : Nat}
    {config : SessionConfig}
    (hserved :
      (setUp config >>= fun _ => exchange rounds rounds []).run.Asks S)
    (hclear : S (.token .clear)) (hshutdown : S (.socket .shutdown)) :
    (serveConnection rounds config).run.Asks S := by
  have hclose (result : Except Stop Unit) :
      (do ask (.token .clear)
          let _ ← onSocket Socket.shutdown
          MonadExcept.ofExcept result : Serving Unit).run.Asks S := by
    refine (asks_question hclear).run_bind fun _ => ?_
    refine (asks_onSocket ?_).run_bind fun _ => ?_
    · refine ⟨hshutdown, fun a => ?_⟩
      cases a <;> trivial
    · cases result <;> trivial
  refine Asks.run_bind hserved.run_lift ?_
  intro result
  match result with
  | .ok () => exact hclose (.ok ())
  | .error (.failure e) => exact hclose (.error (.failure e))
  | .error .unwound => trivial

end CardBridge.Session
