import CardBridge.Cli.Rehearsal
import CardBridge.Proofs.Cli.ReaderRules

/-!
# Waiting for a card up to a last moment

A reader that is given a time counts from the moment when it begins to wait.
It ends its wait in due form (`Concludes`) exactly if the clock can count to
the last moment, and gives up at once if it cannot
(`waits_end_within_clock`).
-/

namespace CardBridge.Cli.Reader

open Dialogue

variable {α β ε ω : Type}

/-! ## Parts that do not give up -/

/-- A part of the command that does not give up. -/
def Persistent (part : Reading α) : Prop :=
  ∀ said, part.run.Keeps noting (fun _ _ => True)
    (fun r _ => r ≠ .error .unwound) said

theorem Persistent.bind {part : Reading α} {next : α → Reading β}
    (h : Persistent part) (hnext : ∀ a, Persistent (next a)) :
    Persistent (part >>= next) := by
  intro said
  refine (h said).run_bind ?_
  intro r said' hr
  cases r with
  | ok a => exact hnext a said'
  | error stop =>
    intro heq
    cases heq
    exact hr rfl

theorem persistent_pure (a : α) : Persistent (pure a) :=
  fun _ => nofun

theorem persistent_lift (d : Dialogue Surroundings α) :
    Persistent (ExceptT.lift d) := by
  intro said
  exact keeps_run_lift.mpr
    (keeps_of_forall (fun _ _ => trivial) fun _ _ => nofun)

theorem persistent_orFail {wrap : ε → Failure} (result : Except ε α) :
    Persistent (orFail wrap result) := by
  cases result with
  | ok a => exact persistent_pure a
  | error e => exact fun _ => nofun

theorem persistent_onCard (rounds : Nat) (context : String)
    (op : Card.Operation) (card : Remote) :
    Persistent ((onCard rounds context op).run card) := by
  rw [run_onCard]
  refine (persistent_lift _).bind fun r => ?_
  exact (persistent_orFail r.1).bind fun _ => persistent_pure _

theorem persistent_exchanges (rounds : Nat) (apdus : List Bytes)
    (card : Remote) :
    Persistent ((apdus.forM (exchange rounds)).run card) := by
  induction apdus generalizing card with
  | nil => exact persistent_pure _
  | cons apdu apdus ih =>
    rw [run_exchanges_cons, run_exchange]
    refine Persistent.bind ?_ fun r => ih r.2
    refine (persistent_onCard _ _ _ _).bind fun r => ?_
    exact (persistent_lift _).bind fun _ => persistent_pure _

theorem persistent_useCard (rounds : Nat) (apdus : List Bytes)
    (card : Remote) : Persistent ((useCard rounds apdus).run card) := by
  rw [run_useCard]
  refine (persistent_onCard _ _ _ _).bind fun r => ?_
  refine (persistent_onCard _ _ _ _).bind fun r => ?_
  refine (persistent_lift _).bind fun _ => ?_
  refine (persistent_exchanges _ _ _).bind fun r => ?_
  exact persistent_onCard _ _ _ _

theorem persistent_attach : Persistent attach := by
  refine (persistent_lift _).bind fun r => ?_
  refine (persistent_orFail r).bind fun _ => ?_
  refine (persistent_lift _).bind fun r => ?_
  refine (persistent_orFail r).bind fun _ => ?_
  exact (persistent_lift _).bind fun r => persistent_orFail r

theorem persistent_eject (rounds : Nat) (card : Remote) :
    Persistent (eject rounds card) := by
  refine (persistent_lift _).bind fun r => ?_
  obtain ⟨result, card⟩ := r
  cases result with
  | ok _ => exact persistent_pure _
  | error e => exact persistent_lift _

/-- A card that was heard of is served without giving up. -/
theorem persistent_serveCard (rounds : Nat) (apdus : List Bytes)
    (peer : Option Address) : Persistent (serveCard rounds apdus peer) := by
  refine persistent_attach.bind fun card => ?_
  refine (persistent_lift _).bind fun _ => ?_
  intro said
  -- what came of the card is kept until it was let go of
  rw [keeps_run_bind, keeps_run_lift]
  refine (persistent_useCard rounds apdus card said).imp ?_
  intro r said hr
  refine (persistent_eject rounds card).bind (fun _ => ?_) said
  cases r with
  | ok _ => exact persistent_pure _
  | error stop =>
    intro said heq
    cases heq
    exact hr rfl

/-! ## One wait -/

/-- A poll for a card, and what it finds. -/
def polled (answer : Except IoError (Option (Option Address))) :
    Exchange Surroundings :=
  ⟨.network (.poll pollInterval), answer⟩

/-- What a wait comes to. -/
inductive Waited where
  | card (peer : Option Address)
  | interrupted
  | failed (e : TransportError)
  | late
  | cut

/-- The course of a wait up to a last moment: which exchanges it consists
of, and what it comes to. -/
inductive Waits (last : Instant) :
    Nat → List (Exchange Surroundings) → Waited → Prop
  | cut : Waits last 0 [] .cut
  | interrupted (rounds : Nat) :
    Waits last (rounds + 1) [⟨.interrupted, true⟩] .interrupted
  | card (rounds : Nat) (peer : Option Address) :
    Waits last (rounds + 1) [⟨.interrupted, false⟩, polled (.ok (some peer)),
      ⟨.network .unpoll, .ok ()⟩] (.card peer)
  | lost (rounds : Nat) (peer : Option Address) (cause : IoError) :
    Waits last (rounds + 1) [⟨.interrupted, false⟩, polled (.ok (some peer)),
      ⟨.network .unpoll, .error cause⟩] (.failed (.io cause))
  | failed (rounds : Nat) {cause : IoError}
    (h : Network.isPassing cause = false) :
    Waits last (rounds + 1) [⟨.interrupted, false⟩, polled (.error cause)]
      (.failed (.accept cause))
  | late (rounds : Nat) {answer : Except IoError (Option (Option Address))}
    {t : Instant} (hidle : Idle answer)
    (ht : last.nanoseconds ≤ t.nanoseconds) :
    Waits last (rounds + 1) [⟨.interrupted, false⟩, polled answer, ⟨.now, t⟩]
      .late
  | idle {rounds : Nat} {answer : Except IoError (Option (Option Address))}
    {t : Instant} {said : List (Exchange Surroundings)} {outcome : Waited}
    (hidle : Idle answer) (ht : t.nanoseconds < last.nanoseconds)
    (hrest : Waits last rounds said outcome) :
    Waits last (rounds + 1)
      (⟨.interrupted, false⟩ :: polled answer :: ⟨.now, t⟩ :: said) outcome

/-- What a wait that was not cut leaves the command with. -/
def Waited.result? (timeout : Option Duration) :
    Waited → Option (Except Stop (Option (Option Address)))
  | .card peer => some (.ok (some peer))
  | .interrupted => some (.ok none)
  | .failed e => some (.error (.failure (.ofTransport "accept failed" e)))
  | .late => some (.error (.failure (nobody timeout)))
  | .cut => none

/-- What was exchanged since the wait began was a wait that comes to
this. -/
def WaitsSince (before : List (Exchange Surroundings))
    (timeout : Option Duration) (last : Instant) (rounds : Nat)
    (result : Option (Except Stop (Option (Option Address))))
    (said : List (Exchange Surroundings)) : Prop :=
  ∃ rest outcome, said = before ++ rest ∧ Waits last rounds rest outcome ∧
    outcome.result? timeout = result

/-- A round that has found nobody looks at the clock. -/
theorem keeps_idle {timeout : Option Duration} {last : Instant}
    {rounds : Nat} {answer : Except IoError (Option (Option Address))}
    (before : List (Exchange Surroundings)) (hidle : Idle answer)
    (hrest : ∀ before',
      (awaitCard timeout (some last) rounds).run.Keeps noting
        (fun q said => q = none →
          WaitsSince before' timeout last rounds none said)
        (fun r => WaitsSince before' timeout last rounds (some r)) before') :
    (do checkDeadline timeout (some last)
        awaitCard timeout (some last) rounds).run.Keeps noting
      (fun q said => q = none →
        WaitsSince before timeout last (rounds + 1) none said)
      (fun r => WaitsSince before timeout last (rounds + 1) (some r))
      (before ++ [(⟨.interrupted, false⟩ : Exchange Surroundings),
        polled answer]) := by
  rw [keeps_run_bind, keeps_checkDeadline]
  refine ⟨nofun, ?_⟩
  intro t _ hsaid
  subst hsaid
  by_cases ht : last.nanoseconds ≤ t.nanoseconds
  · rw [if_pos ht]
    exact ⟨_, _, List.append_assoc .., .late rounds hidle ht, rfl⟩
  · rw [if_neg ht]
    have hlonger (result said)
        (h : WaitsSince (before ++ [(⟨.interrupted, false⟩ :
          Exchange Surroundings), polled answer] ++ [⟨.now, t⟩])
          timeout last rounds result said) :
        WaitsSince before timeout last (rounds + 1) result said := by
      obtain ⟨rest, outcome, rfl, hrest, hresult⟩ := h
      exact ⟨_, outcome, by simp,
        .idle hidle (Nat.lt_of_not_le ht) hrest, hresult⟩
    exact (hrest _).mono (fun _ _ hcut hq => hlonger _ _ (hcut hq))
      fun _ _ => hlonger _ _

theorem keeps_awaitCard (timeout : Option Duration) (last : Instant)
    (rounds : Nat) (before : List (Exchange Surroundings)) :
    (awaitCard timeout (some last) rounds).run.Keeps noting
      (fun q said => q = none →
        WaitsSince before timeout last rounds none said)
      (fun r => WaitsSince before timeout last rounds (some r)) before := by
  induction rounds generalizing before with
  | zero => exact fun _ => ⟨[], _, by simp, .cut, rfl⟩
  | succ rounds ih =>
    refine keeps_awaitCard_succ nofun ?_ ?_
    · rintro _ rfl
      exact ⟨_, _, rfl, .interrupted rounds, rfl⟩
    · rintro _ rfl
      refine ⟨nofun, ?_⟩
      rintro answer _ rfl
      rw [List.append_assoc]
      rcases answer with cause | _ | peer
      · refine ⟨fun hidle => keeps_idle before hidle ih, ?_⟩
        rintro _ ⟨⟩ hpassing
        exact ⟨_, _, rfl, .failed rounds hpassing, rfl⟩
      · exact ⟨fun hidle => keeps_idle before hidle ih, nofun⟩
      · refine ⟨nofun, ?_, ?_⟩
        · rintro _ rfl
          exact ⟨_, _, List.append_assoc .., .card rounds peer, rfl⟩
        · rintro cause _ rfl
          exact ⟨_, _, List.append_assoc .., .lost rounds peer cause, rfl⟩

/-! ## The whole command -/

/-- The exchanges that come before a wait. -/
def opening (args : Args) (addresses : List Address) (port : UInt16) :
    List (Exchange Surroundings) :=
  [⟨.network (.resolve args.bind args.port), .ok addresses⟩,
    ⟨.network (.listen addresses), .ok port⟩,
    ⟨.print (.waitingForCard port), ()⟩, ⟨.catchInterrupts, .ok ()⟩]

/-- What a wait that came to this leads to, and after which exchanges. -/
def Waited.Leads (timeout : Duration) :
    Waited → Option (Except Stop ExitCode) → List (Exchange Surroundings) → Prop
  | .card _, result, _ => result ≠ some (.error .unwound)
  | .interrupted, result, later => result = some (.ok .success) ∧ later = []
  | .failed e, result, later =>
    result = some (.error (.failure (.ofTransport "accept failed" e))) ∧
      later = []
  | .late, result, later =>
    result = some (.error (.failure (nobody (some timeout)))) ∧ later = []
  | .cut, result, later => result = none ∧ later = []

/-- How the command ends that is given a time to wait. -/
inductive Concludes (rounds : Nat) (args : Args) (timeout : Duration) :
    Option (Except Stop ExitCode) → List (Exchange Surroundings) → Prop
  /-- It fails before it looks at the clock. -/
  | unready {e : Failure} {said : List (Exchange Surroundings)}
    (hsaid : ∀ t, ⟨.now, t⟩ ∉ said) :
    Concludes rounds args timeout (some (.error (.failure e))) said
  /-- The clock cannot count to the last moment. -/
  | beyond {addresses : List Address} {port : UInt16} {t : Instant}
    (ht : Instant.endOfSeconds * 1000000000 ≤
      t.nanoseconds + timeout.nanoseconds) :
    Concludes rounds args timeout (some (.error .unwound))
      (opening args addresses port ++ [⟨.now, t⟩])
  | waited {addresses : List Address} {port : UInt16} {t : Instant}
    {said later : List (Exchange Surroundings)} {outcome : Waited}
    {result : Option (Except Stop ExitCode)}
    (ht : t.nanoseconds + timeout.nanoseconds <
      Instant.endOfSeconds * 1000000000)
    (hwait : Waits ⟨t.nanoseconds + timeout.nanoseconds⟩ rounds said outcome)
    (hresult : outcome.Leads timeout result later) :
    Concludes rounds args timeout result
      (opening args addresses port ++ ⟨.now, t⟩ :: said ++ later)

theorem later?_eq (t : Instant) (d : Duration) :
    t.later? d =
      if t.nanoseconds + d.nanoseconds < Instant.endOfSeconds * 1000000000
      then some ⟨t.nanoseconds + d.nanoseconds⟩ else none := by
  rw [Instant.later?]
  simp only [Nat.div_lt_iff_lt_mul (Nat.zero_lt_succ 999999999)]

/-- A wait that came to its end is the end of the command, or leads to a
card. -/
theorem keeps_waited {rounds : Nat} {args : Args} {timeout : Duration}
    {addresses : List Address} {port : UInt16} {t : Instant}
    (apdus : List Bytes)
    (ht : t.nanoseconds + timeout.nanoseconds <
      Instant.endOfSeconds * 1000000000) :
    (do match ← awaitCard (some timeout)
            (some ⟨t.nanoseconds + timeout.nanoseconds⟩) rounds with
        | none => return .success
        | some peer => serveCard rounds apdus peer :
        Reading ExitCode).run.Keeps noting
      (fun q said => q = none → Concludes rounds args timeout none said)
      (fun r => Concludes rounds args timeout (some r))
      (opening args addresses port ++
        [(⟨.now, t⟩ : Exchange Surroundings)]) := by
  have hconcludes {said : List (Exchange Surroundings)} {outcome : Waited}
      {result : Option (Except Stop ExitCode)}
      (later : List (Exchange Surroundings))
      (hwait : Waits ⟨t.nanoseconds + timeout.nanoseconds⟩ rounds said outcome)
      (hresult : outcome.Leads timeout result later) :
      Concludes rounds args timeout result
        (opening args addresses port ++ [⟨.now, t⟩] ++ said ++ later) := by
    simpa using Concludes.waited ht hwait hresult
  rw [keeps_run_bind]
  refine (keeps_awaitCard _ _ rounds _).mono ?_ ?_
  · intro q said hcut hq
    obtain ⟨rest, outcome, rfl, hwait, hnone⟩ := hcut hq
    cases outcome with
    | cut => simpa using hconcludes [] hwait ⟨rfl, rfl⟩
    | _ => cases hnone
  · rintro r said ⟨rest, outcome, rfl, hwait, hr⟩
    cases outcome with
    | cut => cases hr
    | interrupted =>
      cases hr
      simpa using hconcludes [] hwait ⟨rfl, rfl⟩
    | failed e =>
      cases hr
      simpa using hconcludes [] hwait ⟨rfl, rfl⟩
    | late =>
      cases hr
      simpa using hconcludes [] hwait ⟨rfl, rfl⟩
    | card peer =>
      cases hr
      -- whatever the card does now, the command does not give up
      refine ((keeps_extending _ _).and
        (persistent_serveCard rounds apdus peer _)).mono ?_ ?_
      · rintro _ _ ⟨⟨later, rfl⟩, -⟩ -
        exact hconcludes later hwait nofun
      · rintro r _ ⟨⟨later, rfl⟩, hr⟩
        exact hconcludes later hwait fun heq => hr (Option.some.inj heq)

theorem keeps_run {rounds : Nat} {args : Args} {text : String} {d : Duration}
    (htext : args.timeout = some text) (hd : timeout text = .ok d) :
    (run rounds args).run.Keeps noting
      (fun q said => q = none → Concludes rounds args d none said)
      (fun r => Concludes rounds args d (some r)) [] := by
  rw [run, keeps_run_bind, keeps_orFail]
  cases apdus args.apdus with
  | error e => exact .unready (by simp)
  | ok apdus =>
    have htimeout : timeout? args.timeout = .ok (some d) := by
      rw [htext, timeout?, hd]
      rfl
    rw [htimeout]
    show (listen rounds args apdus (some d)).run.Keeps _ _ _ _
    rw [listen, keeps_run_bind, keeps_onNetwork]
    rw [keeps_networkBind]
    refine ⟨nofun, ?_⟩
    intro addresses _ hsaid
    subst hsaid
    rcases addresses with cause | _ | ⟨address, addresses⟩
    · exact .unready (by simp)
    · exact .unready (by simp)
    refine ⟨nofun, ?_⟩
    intro port _ hsaid
    subst hsaid
    cases port with
    | error cause => exact .unready (by simp)
    | ok port =>
      refine ⟨nofun, ?_⟩
      intro _ _ hsaid
      subst hsaid
      refine ⟨nofun, ?_⟩
      intro caught _ hsaid
      subst hsaid
      cases caught with
      | error text => exact .unready (by simp)
      | ok _ =>
        refine keeps_run_bind.mpr (keeps_orFail.mpr
          (keeps_run_bind.mpr (keeps_deadline.mpr ⟨nofun, ?_⟩)))
        intro t _ hsaid
        subst hsaid
        by_cases ht : t.nanoseconds + d.nanoseconds <
          Instant.endOfSeconds * 1000000000
        · rw [later?_eq, if_pos ht]
          exact keeps_waited apdus ht
        · rw [later?_eq, if_neg ht]
          exact .beyond (Nat.le_of_not_lt ht)

/-- A command that is given a time to wait, in a form that it accepts, ends
in due form: it gives up if and only if the clock cannot count to the last
moment, and otherwise ends its wait with a card, a failure of the transport,
after an interrupt, or when its time is over. -/
theorem waits_end_within_clock {args : Args} {text : String} {d : Duration}
    (htext : args.timeout = some text) (hd : timeout text = .ok d)
    (rounds : Nat) (machine : Machine Surroundings ω) (w : ω) :
    ∃ result w' said,
      (run rounds args).run.run machine.handler.noted (w, []) =
        (result, w', said) ∧ Concludes rounds args d result said := by
  obtain ⟨result, w', said, hrun, -, hend⟩ :=
    (keeps_run htext hd).run_noted machine w
  refine ⟨result, w', said, hrun, ?_⟩
  cases result with
  | none => exact hend rfl
  | some r => exact hend

/-- At a desk to which nobody comes, a wait of five seconds ends with the
report that no card has connected within five seconds. -/
theorem unattended_wait_is_late :
    timeout " 5 s" = .ok (.ofSeconds 5) ∧
    ∃ w' said,
      (run 30 { timeout := some " 5 s" }).run.run Desk.machine.handler.noted
          ({}, []) =
        (some (.error (.failure
          ⟨.timeout, "no card connected within 5s"⟩)), w', said) ∧
        Concludes 30 { timeout := some " 5 s" } (.ofSeconds 5)
          (some (.error (.failure
            ⟨.timeout, "no card connected within 5s"⟩))) said := by
  have hargs : ({ timeout := some " 5 s" } : Args).timeout = some " 5 s" := rfl
  have htimeout : timeout " 5 s" = .ok (.ofSeconds 5) := rfl
  refine ⟨htimeout, ?_⟩
  obtain ⟨result, w', said, hrun, hend⟩ :=
    waits_end_within_clock hargs htimeout 30 Desk.machine {}
  have hresult : result = some (.error (.failure
      ⟨.timeout, "no card connected within 5s"⟩)) :=
    (congrArg Prod.fst hrun).symm.trans rfl
  subst hresult
  exact ⟨w', said, hrun, hend⟩

/-- The largest time that is accepted lies beyond every clock. -/
theorem accepted_time_beyond_clock :
    timeout "18446744073709551615" = .ok (.ofSeconds 18446744073709551615) ∧
    ((run 30 { timeout := some "18446744073709551615" }).run.run
      Desk.machine.handler {}).1 = some (.error .unwound) := by
  exact ⟨rfl, rfl⟩

end CardBridge.Cli.Reader
