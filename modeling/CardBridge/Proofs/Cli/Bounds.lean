import CardBridge.Cli.Serve
import CardBridge.Proofs.Cli.ReaderRules
import CardBridge.Proofs.Cli.Spans
import CardBridge.Proofs.Session.Bounds

/-!
# The time bounds that the commands ask for

The spans on the command line, together with what becomes of them
(`spans_are_bounds`): neither command asks for a bound of zero, whatever its
arguments are and whatever it is answered.
-/

namespace CardBridge.Cli

open Dialogue

variable {α β ε : Type}

/-- What succeeds consists of parts that do. -/
theorem exists_of_bind {part : Except ε α} {next : α → Except ε β} {b : β}
    (h : part >>= next = .ok b) : ∃ a, part = .ok a ∧ next a = .ok b := by
  cases part with
  | error e => cases h
  | ok a => exact ⟨a, rfl, h⟩

theorem lasts_of_timeout {text : String} {d : Duration}
    (h : timeout text = .ok d) : Lasts (some d) :=
  lasts_some (means_of_timeout h).nanoseconds_pos

theorem lasts_of_timeout? {text : Option String} {bound : Option Duration}
    (h : timeout? text = .ok bound) : Lasts bound := by
  cases text with
  | none =>
    cases h
    exact lasts_none
  | some text =>
    cases hd : timeout text with
    | error e =>
      rw [timeout?, hd] at h
      cases h
    | ok d =>
      rw [timeout?, hd] at h
      cases h
      exact lasts_of_timeout hd

/-! ## Serving a card -/

namespace Serve

/-- What is done at a question of the command gives no bound of zero to
anything: a remote card is connected to and used, a session is run. -/
def Ask.Lasting : Ask → Prop
  | .openRemote host port bound =>
    (Network.dial host port bound).Asks Network.Ask.Lasting ∧
      Remote.attach.Asks Socket.Ask.Lasting ∧
      ∀ rounds op card,
        (Remote.perform rounds op card).Asks Socket.Ask.Lasting
  | .start config => ∀ rounds cardName,
    (Session.run rounds config cardName).Asks Session.Ask.Lasting
  | _ => True

theorem lasting_of_settings {args : Args} {config : SessionConfig}
    (h : settings args = .ok config) : config.Lasting := by
  -- how long one wait lasts is not on the command line
  have hrest (place : SessionConfig)
      (hpoll : place.pollInterval = defaultPollInterval)
      (h : (do
        let connectTimeout ← timeout args.connectTimeout
        let ioTimeout ← timeout? args.ioTimeout
        return { place with connectTimeout := some connectTimeout, ioTimeout })
          = Except.ok config) : config.Lasting := by
    obtain ⟨connectTimeout, hconnect, h⟩ := exists_of_bind h
    obtain ⟨ioTimeout, hio, h⟩ := exists_of_bind h
    cases h
    refine ⟨lasts_of_timeout hconnect, ?_, lasts_of_timeout? hio⟩
    show 0 < place.pollInterval.nanoseconds
    rw [hpoll]
    decide
  rw [settings] at h
  split at h
  · exact hrest { SessionConfig.listener args.port with
      listenAddress := args.listenAddress } rfl h
  split at h
  · cases h
  · exact hrest (.client args.host args.port) rfl h

variable {S : Ask → Prop}

theorem asks_ask {q : Ask} (h : S q) : (ask q).Asks S :=
  ⟨h, fun _ => trivial⟩

theorem asks_orFail {wrap : ε → Failure} (result : Except ε α) :
    (orFail wrap result).run.Asks S := by
  cases result <;> trivial

theorem asks_openCard {bound : Option Duration} (h : Lasts bound)
    (args : Args) : (openCard args bound).run.Asks Ask.Lasting := by
  rw [openCard]
  split
  · exact Asks.run_lift (asks_ask (q := .openDummy) trivial)
  · trivial
  · rename_i host _ _
    refine Asks.run_bind (Asks.run_lift (asks_ask (q := .openRemote ..) ?_))
      fun r => asks_orFail r
    exact ⟨Network.asks_dial h _ _, Remote.asks_attach, Remote.asks_perform⟩

theorem asks_printEvents (rounds : Nat) :
    (printEvents rounds).Asks Ask.Lasting := by
  induction rounds with
  | zero => trivial
  | succ rounds ih =>
    refine (asks_ask (q := .nextEvent) trivial).bind ?_
    rintro (_ | event)
    · trivial
    refine (asks_ask (q := .print (.status event)) trivial).bind fun _ => ?_
    split
    · trivial
    · exact ih

theorem asks_follow (rounds : Nat) : (follow rounds).run.Asks Ask.Lasting := by
  have hfinish : finish.Asks Ask.Lasting := by
    refine (asks_ask (q := .wait) trivial).bind ?_
    rintro (_ | reason)
    · exact (asks_ask (q := .log _) trivial).bind fun _ => trivial
    · trivial
  refine (Asks.run_lift (asks_ask (q := .catchInterrupts) trivial)).run_bind ?_
  rintro (text | _)
  · exact (Asks.run_lift (asks_ask (q := .cancel) trivial)).run_bind
      fun _ => trivial
  · refine (Asks.run_lift (asks_printEvents rounds)).run_bind fun _ => ?_
    exact (Asks.run_lift hfinish).run_bind fun _ => trivial

theorem asks_run (rounds : Nat) (args : Args) :
    (run rounds args).run.Asks Ask.Lasting := by
  rw [run]
  cases hsettings : settings args with
  | error e => trivial
  | ok config =>
    have hlasting := lasting_of_settings hsettings
    refine (asks_openCard hlasting.connectTimeout args).run_bind fun _ => ?_
    refine (Asks.run_lift (asks_ask (q := .start config) ?_)).run_bind
      fun r => ?_
    · exact Session.asks_run hlasting
    · exact (asks_orFail r).run_bind fun _ => asks_follow rounds

end Serve

/-! ## Playing the reader -/

namespace Reader

/-- The command gives neither the network nor a connection a bound of
zero. -/
def Ask.Lasting : Ask → Prop
  | .network q => q.Lasting
  | .socket q => q.Lasting
  | _ => True

theorem asks_ask {q : Ask} (h : q.Lasting) : (ask q).Asks Ask.Lasting :=
  ⟨h, fun _ => trivial⟩

theorem asks_lift {q : Ask} (h : q.Lasting) :
    (liftM (ask q) : Reading (Answer q)).run.Asks Ask.Lasting :=
  (asks_ask h).run_lift

theorem asks_orFail {wrap : ε → Failure} (result : Except ε α) :
    (orFail wrap result).run.Asks Ask.Lasting := by
  cases result <;> trivial

theorem asks_onNetwork {context : String}
    {d : Dialogue Network (Except TransportError α)}
    (h : d.Asks Network.Ask.Lasting) :
    (onNetwork context d).run.Asks Ask.Lasting := by
  have hd : d.Asks fun q => Ask.Lasting (.network q) := h
  exact hd.embed.run_lift.run_bind fun r => asks_orFail r

theorem asks_onSocket {d : Dialogue Socket α} (h : d.Asks Socket.Ask.Lasting) :
    (onSocket d).run.Asks Ask.Lasting := by
  have hd : d.Asks fun q => Ask.Lasting (.socket q) := h
  exact hd.embed.run_lift

theorem asks_deadline (timeout : Option Duration) :
    (deadline timeout).run.Asks Ask.Lasting := by
  cases timeout with
  | none => trivial
  | some d =>
    refine (asks_lift (q := .now) trivial).run_bind fun t => ?_
    split <;> trivial

theorem asks_checkDeadline (timeout : Option Duration)
    (last : Option Instant) :
    (checkDeadline timeout last).run.Asks Ask.Lasting := by
  cases last with
  | none => trivial
  | some last =>
    refine (asks_lift (q := .now) trivial).run_bind fun t => ?_
    split <;> trivial

theorem asks_awaitCard (timeout : Option Duration) (last : Option Instant)
    (rounds : Nat) : (awaitCard timeout last rounds).run.Asks Ask.Lasting := by
  induction rounds with
  | zero => trivial
  | succ rounds ih =>
    refine (asks_lift (q := .interrupted) trivial).run_bind fun flag => ?_
    cases flag with
    | true => trivial
    | false =>
      refine (asks_onNetwork (Network.asks_accept (by decide))).run_bind ?_
      rintro (_ | peer)
      · exact (asks_checkDeadline timeout last).run_bind fun _ => ih
      · trivial

theorem asks_attach : attach.run.Asks Ask.Lasting := by
  have hbound : Lasts (some exchangeTimeout) := lasts_some (by decide)
  refine (asks_onSocket (Socket.asks_setReadTimeout hbound)).run_bind
    fun r => ?_
  refine (asks_orFail r).run_bind fun _ => ?_
  refine (asks_onSocket (Socket.asks_setWriteTimeout hbound)).run_bind
    fun r => ?_
  refine (asks_orFail r).run_bind fun _ => ?_
  exact (asks_onSocket Remote.asks_attach).run_bind fun r => asks_orFail r

theorem asks_onCard (rounds : Nat) (context : String) (op : Card.Operation)
    (card : Remote) :
    ((onCard rounds context op).run card).run.Asks Ask.Lasting := by
  rw [run_onCard]
  refine (asks_onSocket (Remote.asks_perform rounds op card)).run_bind
    fun r => ?_
  exact (asks_orFail r.1).run_bind fun _ => trivial

theorem asks_exchanges (rounds : Nat) (apdus : List Bytes) (card : Remote) :
    ((apdus.forM (exchange rounds)).run card).run.Asks Ask.Lasting := by
  induction apdus generalizing card with
  | nil => trivial
  | cons apdu apdus ih =>
    rw [run_exchanges_cons, run_exchange]
    refine Asks.run_bind ?_ fun r => ih r.2
    refine (asks_onCard _ _ _ _).run_bind fun r => ?_
    exact (asks_lift (q := .print _) trivial).run_bind fun _ => trivial

theorem asks_useCard (rounds : Nat) (apdus : List Bytes) (card : Remote) :
    ((useCard rounds apdus).run card).run.Asks Ask.Lasting := by
  rw [run_useCard]
  refine (asks_onCard _ _ _ _).run_bind fun r => ?_
  refine (asks_onCard _ _ _ _).run_bind fun r => ?_
  refine (asks_lift (q := .print _) trivial).run_bind fun _ => ?_
  refine (asks_exchanges _ _ _).run_bind fun r => ?_
  exact asks_onCard _ _ _ _

theorem asks_eject (rounds : Nat) (card : Remote) :
    (eject rounds card).run.Asks Ask.Lasting := by
  refine (asks_onSocket (Remote.asks_perform rounds .eject card)).run_bind ?_
  rintro ⟨e | _, card⟩
  · exact asks_lift (q := .log _) trivial
  · trivial

theorem asks_serveCard (rounds : Nat) (apdus : List Bytes)
    (peer : Option Address) :
    (serveCard rounds apdus peer).run.Asks Ask.Lasting := by
  refine asks_attach.run_bind fun card => ?_
  refine (asks_lift (q := .print _) trivial).run_bind fun _ => ?_
  refine (asks_useCard rounds apdus card).run_lift.run_bind fun r => ?_
  refine (asks_eject rounds card).run_bind fun _ => ?_
  cases r <;> trivial

theorem asks_run (rounds : Nat) (args : Args) :
    (run rounds args).run.Asks Ask.Lasting := by
  refine (asks_orFail _).run_bind fun apdus => ?_
  refine (asks_orFail _).run_bind fun timeout => ?_
  refine (asks_onNetwork (Network.asks_bind _ _)).run_bind fun port => ?_
  refine (asks_lift (q := .print _) trivial).run_bind fun _ => ?_
  refine (asks_lift (q := .catchInterrupts) trivial).run_bind fun r => ?_
  refine (asks_orFail r).run_bind fun _ => ?_
  refine (asks_deadline timeout).run_bind fun last => ?_
  refine (asks_awaitCard timeout last rounds).run_bind ?_
  rintro (_ | peer)
  · trivial
  · exact asks_serveCard rounds apdus peer

end Reader

/-- Exactly the texts that stand for a span are read as one; any other is an
error of usage. So neither command gives the network or a connection a bound
of zero. -/
theorem spans_are_bounds :
    (∀ text d, timeout text = .ok d ↔ Means text.toList d) ∧
    (∀ text, (¬ ∃ d, Means text.toList d) ↔
      ∃ e, timeout text = .error e ∧ e.code = 64) ∧
    (∀ rounds args, (Serve.run rounds args).run.Asks Serve.Ask.Lasting) ∧
    ∀ rounds args, (Reader.run rounds args).run.Asks Reader.Ask.Lasting := by
  refine ⟨fun _ _ => timeout_eq_ok_iff, fun text => ?_, Serve.asks_run,
    Reader.asks_run⟩
  cases h : timeout text with
  | ok d =>
    simp only [reduceCtorEq, false_and, exists_false, iff_false, not_not]
    exact ⟨d, means_of_timeout h⟩
  | error e =>
    refine iff_of_true ?_ ⟨e, rfl, code_of_timeout h⟩
    rintro ⟨d, hd⟩
    rw [hd.timeout_eq] at h
    cases h

end CardBridge.Cli
