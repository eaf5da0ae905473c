import CardBridge.Card.Remote
import CardBridge.Proofs.Session.During

/-!
# The time bounds that the network and a connection are given

A bound of zero is none that a connection can be given. What a session asks
has only other bounds in it (`asks_run`), as long as its settings have no
bound of zero, and so has what is asked on behalf of a remote card.
-/

namespace CardBridge

open Dialogue

/-- A bound that is not zero, or none at all. -/
def Lasts (bound : Option Duration) : Prop :=
  ∀ d ∈ bound, 0 < d.nanoseconds

theorem lasts_none : Lasts none :=
  nofun

theorem lasts_some {d : Duration} (h : 0 < d.nanoseconds) :
    Lasts (some d) := by
  rintro _ ⟨⟩
  exact h

/-! ## The network -/

namespace Network

/-- The network is given no bound of zero. -/
def Ask.Lasting : Ask → Prop
  | .connect _ bound => Lasts bound
  | .poll interval => 0 < interval.nanoseconds
  | _ => True

theorem asks_ask {q : Ask} (h : q.Lasting) :
    (Network.ask q).Asks Ask.Lasting :=
  ⟨h, fun _ => trivial⟩

theorem asks_resolve (host : String) (port : UInt16) :
    (resolve host port).Asks Ask.Lasting := by
  refine (asks_ask (q := .resolve host port) trivial).bind ?_
  rintro (cause | _ | _) <;> trivial

theorem asks_tryEach {bound : Option Duration} (h : Lasts bound)
    (last : IoError) (addresses : List Address) :
    (tryEach bound last addresses).Asks Ask.Lasting := by
  induction addresses generalizing last with
  | nil => trivial
  | cons address rest ih =>
    refine (asks_ask (q := .connect address bound) h).bind ?_
    rintro (cause | peer)
    · exact ih cause
    · trivial

theorem asks_dial {bound : Option Duration} (h : Lasts bound)
    (host : String) (port : UInt16) :
    (dial host port bound).Asks Ask.Lasting := by
  refine (asks_resolve host port).bind ?_
  rintro (e | addresses)
  · trivial
  · exact (asks_tryEach h _ addresses).bind fun _ => trivial

theorem asks_bind (host : String) (port : UInt16) :
    (Network.bind host port).Asks Ask.Lasting := by
  refine (asks_resolve host port).bind ?_
  rintro (e | addresses)
  · trivial
  · exact (asks_ask (q := .listen addresses) trivial).bind fun _ => trivial

theorem asks_accept {interval : Duration} (h : 0 < interval.nanoseconds) :
    (accept interval).Asks Ask.Lasting := by
  refine (asks_ask (q := .poll interval) h).bind ?_
  rintro (cause | _ | peer)
  · trivial
  · trivial
  · exact (asks_ask (q := .unpoll) trivial).bind fun _ => trivial

end Network

/-! ## A connection -/

namespace Socket

/-- The connection is given no bound of zero. -/
def Ask.Lasting : Ask → Prop
  | .readTimeout bound => Lasts bound
  | .writeTimeout bound => Lasts bound
  | _ => True

theorem asks_ask {q : Ask} (h : q.Lasting) :
    (Socket.ask q).Asks Ask.Lasting :=
  ⟨h, fun _ => trivial⟩

theorem asks_talk {α : Type} (d : Dialogue Stream α) :
    (talk d).Asks Ask.Lasting :=
  Asks.embed (asks_of_forall fun _ => trivial)

theorem asks_setReadTimeout {bound : Option Duration} (h : Lasts bound) :
    (setReadTimeout bound).Asks Ask.Lasting :=
  (asks_ask (q := .readTimeout bound) h).bind fun _ => trivial

theorem asks_setWriteTimeout {bound : Option Duration} (h : Lasts bound) :
    (setWriteTimeout bound).Asks Ask.Lasting :=
  (asks_ask (q := .writeTimeout bound) h).bind fun _ => trivial

theorem asks_duplicate : duplicate.Asks Ask.Lasting :=
  (asks_ask (q := .duplicate) trivial).bind fun _ => trivial

theorem asks_shutdown : shutdown.Asks Ask.Lasting := by
  refine (asks_ask (q := .shutdown) trivial).bind ?_
  rintro (cause | _) <;> trivial

end Socket

namespace Remote

theorem asks_attach : attach.Asks Socket.Ask.Lasting := by
  refine Asks.bind (d := Socket.setNoDelay)
    ((Socket.asks_ask (q := .noDelay true) trivial).bind fun _ => trivial) ?_
  rintro (e | _)
  · trivial
  refine Socket.asks_duplicate.bind ?_
  rintro (e | _)
  · trivial
  refine Socket.asks_duplicate.bind ?_
  rintro (e | _) <;> trivial

theorem asks_tell (send : Dialogue Stream (Except FrameError Unit)) :
    (tell send).Asks Socket.Ask.Lasting :=
  (Socket.asks_talk send).bind fun _ => trivial

theorem asks_converse (rounds : Nat)
    (send : Dialogue Stream (Except FrameError Unit)) (card : Remote) :
    (converse rounds send card).Asks Socket.Ask.Lasting := by
  refine (asks_tell send).bind ?_
  rintro (e | _)
  · trivial
  · exact (Socket.asks_talk _).bind fun _ => trivial

theorem asks_command (rounds : Nat) (c : ControlCommand) (card : Remote) :
    (command rounds c card).Asks Socket.Ask.Lasting :=
  (asks_tell _).bind fun _ => trivial

/-- A remote card gives its connection no bound at all. -/
theorem asks_perform (rounds : Nat) (op : Card.Operation) (card : Remote) :
    (perform rounds op card).Asks Socket.Ask.Lasting := by
  obtain ⟨buffer, ejected⟩ := card
  cases ejected with
  | true => cases op <;> trivial
  | false =>
    cases op with
    | powerOn => exact asks_command rounds .powerOn _
    | powerOff => exact asks_command rounds .powerOff _
    | reset => exact asks_command rounds .reset _
    | atr => exact asks_converse rounds _ _
    | transmit apdu => exact asks_converse rounds _ _
    | eject => exact Socket.asks_shutdown.bind fun _ => trivial

end Remote

/-! ## A session -/

/-- Settings without a bound of zero. -/
structure SessionConfig.Lasting (config : SessionConfig) : Prop where
  connectTimeout : Lasts config.connectTimeout
  pollInterval : 0 < config.pollInterval.nanoseconds
  ioTimeout : Lasts config.ioTimeout

namespace Session

variable {config : SessionConfig}

/-- A session gives neither the network nor a connection a bound of zero. -/
def Ask.Lasting : Ask → Prop
  | .network q => q.Lasting
  | .socket q => q.Lasting
  | _ => True

theorem Exchanging.lasting {q : Ask} (h : Exchanging q) : q.Lasting := by
  match q, h with
  | .socket (.stream _), _ | .card _, _ | .token _, _ | .emit _, _ => trivial

theorem asks_isCancelled :
    (liftM isCancelled : Serving Bool).run.Asks Ask.Lasting :=
  asks_question (q := .token .isCancelled) trivial

theorem asks_connection (h : config.Lasting) (rounds : Nat) :
    (serveConnection rounds config).run.Asks Ask.Lasting := by
  refine asks_serveConnection ?_ trivial trivial
  refine (asks_setUp config trivial trivial h.ioTimeout h.ioTimeout).run_bind
    fun _ => ?_
  exact (asks_exchange rounds rounds []).mono fun _ => Exchanging.lasting

theorem asks_takeOn (address : Address) :
    (takeOn address).run.Asks Ask.Lasting := by
  refine (asks_onSocket Socket.asks_duplicate).run_bind fun r => ?_
  refine (asks_orFail r).run_bind fun _ => ?_
  refine (asks_question (q := .token .register) trivial).run_bind
    fun taken => ?_
  cases taken with
  | false => trivial
  | true =>
    refine (asks_question (q := .advance .connected) trivial).run_bind
      fun _ => ?_
    exact (asks_emit (.connected address) trivial).run_bind fun _ => trivial

theorem asks_serveReader (h : config.Lasting) (rounds : Nat) :
    (serveReader rounds config).run.Asks Ask.Lasting := by
  refine asks_isCancelled.run_bind fun flag => ?_
  cases flag with
  | true => trivial
  | false =>
    refine (asks_onNetwork (Network.asks_dial h.connectTimeout _ _)).run_bind
      fun peer => ?_
    refine (asks_takeOn _).run_bind fun taken => ?_
    cases taken with
    | false => trivial
    | true =>
      refine (asks_connection h rounds).run_bind fun _ => ?_
      exact asks_isCancelled.run_bind fun _ => trivial

theorem asks_serveClients (h : config.Lasting) (rounds left : Nat) :
    (serveClients rounds config left).run.Asks Ask.Lasting := by
  induction left with
  | zero => trivial
  | succ left ih =>
    refine (asks_question (q := .advance .listening) trivial).run_bind
      fun _ => ?_
    have hwait : (awaitClient config.pollInterval rounds).run.Asks
        Ask.Lasting :=
      asks_awaitClient trivial (Network.asks_accept h.pollInterval) rounds
    refine hwait.run_bind ?_
    rintro (_ | peer)
    · trivial
    refine (asks_takeOn _).run_bind fun taken => ?_
    cases taken with
    | false => trivial
    | true =>
      refine (asks_connection h rounds).run_bind fun _ => ?_
      refine asks_isCancelled.run_bind fun flag => ?_
      cases flag with
      | true => trivial
      | false =>
        exact (asks_emit (.clientDisconnected _) trivial).run_bind
          fun _ => ih

theorem asks_serveListening (h : config.Lasting) (rounds : Nat) :
    (serveListening rounds config).run.Asks Ask.Lasting := by
  have haddresses : localAddresses.Asks Ask.Lasting :=
    asks_localAddresses trivial fun _ => trivial
  refine (asks_onNetwork (Network.asks_bind _ _)).run_bind fun port => ?_
  refine (asks_liftM haddresses).run_bind fun addresses => ?_
  exact (asks_emit (.listening port addresses) trivial).run_bind
    fun _ => asks_serveClients h rounds rounds

theorem asks_serve (h : config.Lasting) (rounds : Nat) :
    (serve rounds config).run.Asks Ask.Lasting := by
  refine (asks_question (q := .advance .connecting) trivial).run_bind
    fun _ => ?_
  split
  · exact asks_serveListening h rounds
  · exact asks_serveReader h rounds

/-! ### Its end -/

theorem asks_eject (cardName : String) (ejected : Bool) :
    (eject cardName ejected).run.Asks Ask.Lasting := by
  cases ejected with
  | true => trivial
  | false =>
    refine (asks_question (q := .card .eject) trivial).run_bind ?_
    rintro ((e | _) | _)
    · exact ⟨trivial, fun _ => trivial⟩
    · trivial
    · trivial

theorem asks_drop (cardName : String) (ejected : Bool) :
    (drop cardName ejected).Asks Ask.Lasting :=
  (asks_eject cardName ejected).bind fun _ => trivial

theorem asks_conclude (cardName : String) (reason : ExitReason) :
    (conclude cardName reason).Asks Ask.Lasting := by
  have hwindUp : (windUp cardName reason).run.Asks Ask.Lasting := by
    refine (asks_question (q := .advance .closing) trivial).run_bind
      fun _ => ?_
    refine (asks_question (q := .token .clear) trivial).run_bind fun _ => ?_
    refine (asks_eject cardName false).run_bind fun _ => ?_
    refine (asks_emit (.disconnected reason) trivial).run_bind fun _ => ?_
    exact asks_question (q := .advance .closed) trivial
  refine hwindUp.bind fun r => ?_
  refine (asks_drop cardName true).bind fun _ => ?_
  cases r <;> trivial

/-- Whatever it is answered, a session whose settings have no bound of zero
gives none to anything. -/
theorem asks_run (h : config.Lasting) (rounds : Nat) (cardName : String) :
    (run rounds config cardName).Asks Ask.Lasting := by
  refine (asks_serve h rounds).bind ?_
  rintro ((e | _) | reason)
  · refine (asks_ask (q := .token .isCancelled) trivial).bind fun flag => ?_
    cases flag with
    | true => exact asks_conclude cardName .cancelled
    | false =>
      refine (asks_emit (.error e.message) trivial).bind ?_
      rintro (_ | _)
      · exact (asks_drop cardName false).bind fun _ => trivial
      · exact asks_conclude cardName _
  · exact (asks_drop cardName false).bind fun _ => trivial
  · exact asks_conclude cardName reason

end Session

end CardBridge
