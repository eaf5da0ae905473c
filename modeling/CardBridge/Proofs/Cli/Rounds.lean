import CardBridge.Cli.Serve
import CardBridge.Proofs.Cli.ReaderRules
import CardBridge.Proofs.Frame.Rounds

/-!
# Commands with larger bounds

A command with a larger bound goes on where the same command is cut, and does
nothing else in another way. So what it comes to does not depend on the
bound.
-/

namespace CardBridge.Cli

open Dialogue

variable {α ε ω : Type} {n rounds rounds' : Nat}

/-! ## Printing what a session tells -/

namespace Serve

theorem continued_ask (q : Ask) :
    (liftM (ask q) : Serving (Answer q)).run.ContinuedBy n
      (liftM (ask q) : Serving (Answer q)).run :=
  ContinuedBy.run_lift (.ask fun _ => .done _ _)

theorem continued_orFail (wrap : ε → Failure) (result : Except ε α) :
    (orFail wrap result).run.ContinuedBy n (orFail wrap result).run := by
  cases result <;> exact .done _ _

theorem continued_openCard (args : Args) (bound : Option Duration) :
    (openCard args bound).run.ContinuedBy n (openCard args bound).run := by
  rw [openCard]
  split
  · exact continued_ask .openDummy
  · exact .done _ _
  · exact (continued_ask _).run_bind fun r => continued_orFail _ r

theorem continued_printEvents (hmore : rounds ≤ rounds') :
    (printEvents rounds).ContinuedBy rounds (printEvents rounds') := by
  induction rounds generalizing rounds' with
  | zero => exact .cut _
  | succ rounds ih =>
    obtain ⟨more, rfl, hleft⟩ := exists_eq_succ hmore
    refine .ask fun event => ?_
    cases event with
    | none => exact .done _ _
    | some event =>
      refine .ask fun _ => ?_
      cases event.isTerminal with
      | true => exact .done _ _
      | false => exact (ih hleft).mono (Nat.sub_le _ _)

theorem continued_finish : finish.ContinuedBy n finish := by
  refine .ask fun reason => ?_
  cases reason with
  | some reason => exact .done _ _
  | none => exact .ask fun _ => .done _ _

theorem continued_follow (hmore : rounds ≤ rounds') :
    (follow rounds).run.ContinuedBy rounds (follow rounds').run := by
  refine (continued_ask .catchInterrupts).run_bind fun r => ?_
  cases r with
  | error text =>
    exact (continued_ask .cancel).run_bind fun _ => .done _ _
  | ok _ =>
    refine (continued_printEvents hmore).run_lift.run_bind fun _ => ?_
    exact continued_finish.run_lift.run_bind fun _ => .done _ _

/-- A larger bound only continues the command where it was cut. -/
theorem continued_run (hmore : rounds ≤ rounds') (args : Args) :
    (run rounds args).run.ContinuedBy rounds (run rounds' args).run := by
  refine (continued_orFail id _).run_bind fun config => ?_
  refine (continued_openCard args _).run_bind fun _ => ?_
  refine (continued_ask (.start config)).run_bind fun r => ?_
  refine (continued_orFail _ r).run_bind fun _ => ?_
  exact continued_follow hmore

/-- What the command comes to does not depend on the bound. -/
theorem run_with_more (hmore : rounds ≤ rounds') {args : Args}
    {handle : Handler Surroundings ω} {w w' : ω}
    {result : Except Failure ExitCode}
    (h : (run rounds args).run.run handle w = (some result, w')) :
    (run rounds' args).run.run handle w = (some result, w') :=
  (continued_run hmore args).run_eq h

end Serve

/-! ## Playing the reader -/

namespace Reader

theorem continued_liftM {d d' : Dialogue Surroundings α}
    (h : d.ContinuedBy n d') :
    (liftM d : Reading α).run.ContinuedBy n (liftM d' : Reading α).run :=
  h.run_lift

theorem continued_ask (q : Ask) :
    (liftM (ask q) : Reading (Answer q)).run.ContinuedBy n
      (liftM (ask q) : Reading (Answer q)).run :=
  continued_liftM (.ask fun _ => .done _ _)

theorem continued_orFail (wrap : ε → Failure) (result : Except ε α) :
    (orFail wrap result).run.ContinuedBy n (orFail wrap result).run := by
  cases result <;> exact .done _ _

theorem continued_onNetwork (context : String)
    {d : Dialogue Network (Except TransportError α)}
    (h : d.ContinuedBy n d) :
    (onNetwork context d).run.ContinuedBy n (onNetwork context d).run :=
  h.embed.run_lift.run_bind fun r => continued_orFail _ r

theorem continued_onSocket {d d' : Dialogue Socket α}
    (h : d.ContinuedBy n d') :
    (onSocket d).run.ContinuedBy n (onSocket d').run :=
  h.embed.run_lift

theorem continued_deadline (timeout : Option Duration) :
    (deadline timeout).run.ContinuedBy n (deadline timeout).run := by
  cases timeout with
  | none => exact .done _ _
  | some d =>
    refine (continued_ask .now).run_bind fun t => ?_
    cases t.later? d <;> exact .done _ _

theorem continued_checkDeadline (timeout : Option Duration)
    (last : Option Instant) :
    (checkDeadline timeout last).run.ContinuedBy n
      (checkDeadline timeout last).run := by
  cases last with
  | none => exact .done _ _
  | some last =>
    refine (continued_ask .now).run_bind fun t => ?_
    split <;> exact .done _ _

theorem continued_awaitCard (timeout : Option Duration)
    (last : Option Instant) (hmore : rounds ≤ rounds') :
    (awaitCard timeout last rounds).run.ContinuedBy rounds
      (awaitCard timeout last rounds').run := by
  induction rounds generalizing rounds' with
  | zero => exact .cut _
  | succ rounds ih =>
    obtain ⟨more, rfl, hleft⟩ := exists_eq_succ hmore
    refine (continued_ask .interrupted).run_bind_succ nofun fun flag => ?_
    cases flag with
    | true => exact .done _ _
    | false =>
      refine (continued_onNetwork _ (Network.continued_accept _)).run_bind
        fun peer => ?_
      cases peer with
      | some peer => exact .done _ _
      | none =>
        exact (continued_checkDeadline timeout last).run_bind
          fun _ => ih hleft

theorem continued_attach : attach.run.ContinuedBy n attach.run := by
  refine (continued_onSocket
    (Socket.continued_ask (.readTimeout _) _)).run_bind fun r => ?_
  refine (continued_orFail _ r).run_bind fun _ => ?_
  refine (continued_onSocket
    (Socket.continued_ask (.writeTimeout _) _)).run_bind fun r => ?_
  refine (continued_orFail _ r).run_bind fun _ => ?_
  refine (continued_onSocket Remote.continued_attach).run_bind fun r => ?_
  exact continued_orFail _ r

theorem continued_onCard (hmore : rounds ≤ rounds') (context : String)
    (op : Card.Operation) (card : Remote) :
    ((onCard rounds context op).run card).run.ContinuedBy rounds
      ((onCard rounds' context op).run card).run := by
  rw [run_onCard, run_onCard]
  refine (continued_onSocket
    (Remote.continued_perform hmore op card)).run_bind fun r => ?_
  obtain ⟨result, card⟩ := r
  exact (continued_orFail _ result).run_bind fun _ => .done _ _

theorem continued_exchange (hmore : rounds ≤ rounds') (apdu : Bytes)
    (card : Remote) :
    ((exchange rounds apdu).run card).run.ContinuedBy rounds
      ((exchange rounds' apdu).run card).run := by
  rw [run_exchange, run_exchange]
  refine (continued_onCard hmore _ _ card).run_bind fun r => ?_
  exact (continued_ask (.print _)).run_bind fun _ => .done _ _

theorem continued_exchanges (hmore : rounds ≤ rounds') (apdus : List Bytes)
    (card : Remote) :
    ((apdus.forM (exchange rounds)).run card).run.ContinuedBy rounds
      ((apdus.forM (exchange rounds')).run card).run := by
  induction apdus generalizing card with
  | nil => exact .done _ _
  | cons apdu apdus ih =>
    rw [run_exchanges_cons, run_exchanges_cons]
    exact (continued_exchange hmore apdu card).run_bind fun r => ih r.2

theorem continued_useCard (hmore : rounds ≤ rounds') (apdus : List Bytes)
    (card : Remote) :
    ((useCard rounds apdus).run card).run.ContinuedBy rounds
      ((useCard rounds' apdus).run card).run := by
  rw [run_useCard, run_useCard]
  refine (continued_onCard hmore _ .powerOn card).run_bind fun r => ?_
  refine (continued_onCard hmore _ .atr r.2).run_bind fun r => ?_
  refine (continued_ask (.print _)).run_bind fun _ => ?_
  refine (continued_exchanges hmore apdus r.2).run_bind fun r => ?_
  exact continued_onCard hmore _ .powerOff r.2

theorem continued_eject (hmore : rounds ≤ rounds') (card : Remote) :
    (eject rounds card).run.ContinuedBy rounds (eject rounds' card).run := by
  refine (continued_onSocket
    (Remote.continued_perform hmore .eject card)).run_bind fun r => ?_
  match r with
  | (.ok (), _) => exact .done _ _
  | (.error e, _) => exact continued_ask (.log _)

theorem continued_serveCard (hmore : rounds ≤ rounds') (apdus : List Bytes)
    (peer : Option Address) :
    (serveCard rounds apdus peer).run.ContinuedBy rounds
      (serveCard rounds' apdus peer).run := by
  refine continued_attach.run_bind fun card => ?_
  refine (continued_ask (.print _)).run_bind fun _ => ?_
  refine (continued_useCard hmore apdus card).run_lift.run_bind
    fun result => ?_
  refine (continued_eject hmore card).run_bind fun _ => ?_
  cases result <;> exact .done _ _

theorem continued_listen (hmore : rounds ≤ rounds') (args : Args)
    (apdus : List Bytes) (timeout : Option Duration) :
    (listen rounds args apdus timeout).run.ContinuedBy rounds
      (listen rounds' args apdus timeout).run := by
  refine (continued_onNetwork _ (Network.continued_bind _ _)).run_bind
    fun port => ?_
  refine (continued_ask (.print _)).run_bind fun _ => ?_
  refine (continued_ask .catchInterrupts).run_bind fun r => ?_
  refine (continued_orFail _ r).run_bind fun _ => ?_
  refine (continued_deadline timeout).run_bind fun last => ?_
  refine (continued_awaitCard timeout last hmore).run_bind fun peer => ?_
  cases peer with
  | none => exact .done _ _
  | some peer => exact continued_serveCard hmore apdus peer

/-- A larger bound only continues the command where it was cut. -/
theorem continued_run (hmore : rounds ≤ rounds') (args : Args) :
    (run rounds args).run.ContinuedBy rounds (run rounds' args).run := by
  refine (continued_orFail id _).run_bind fun apdus => ?_
  refine (continued_orFail id _).run_bind fun timeout => ?_
  exact continued_listen hmore args apdus timeout

/-- What the command comes to does not depend on the bound. -/
theorem run_with_more (hmore : rounds ≤ rounds') {args : Args}
    {handle : Handler Surroundings ω} {w w' : ω}
    {result : Except Stop ExitCode}
    (h : (run rounds args).run.run handle w = (some result, w')) :
    (run rounds' args).run.run handle w = (some result, w') :=
  (continued_run hmore args).run_eq h

/-- Where it is always answered, the command is not cut before it has asked as
many questions as it has rounds. -/
theorem le_length_of_cut {args : Args} {machine : Machine Surroundings ω}
    {w w' : ω} {said : List (Exchange Surroundings)}
    (h : (run rounds args).run.run machine.handler.noted (w, []) =
      (none, w', said)) : rounds ≤ said.length := by
  have hlength :=
    (continued_run (Nat.le_refl rounds) args).le_length_notes h
  simpa using hlength

end Reader

end CardBridge.Cli
