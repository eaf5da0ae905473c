import CardBridge.Cli.Reader
import CardBridge.Proofs.Promises
import CardBridge.Transport.Site

/-!
# The parts of playing the reader, one rule each

What a part of the command `reader` keeps to, in terms of what the
surroundings answer to the questions it consists of.
-/

namespace CardBridge.Cli.Reader

open Dialogue

variable {α ε ω : Type} {R : Dialogue.Surroundings Surroundings ω}
  {P : Option Ask → ω → Prop} {w : ω}

theorem keeps_ask {q : Ask} {Q : Answer q → ω → Prop} :
    (ask q).Keeps R P Q w ↔
      P (some q) w ∧ ∀ a w', R q w a w' → Q a w' := Iff.rfl

section

variable {Q : Except Stop α → ω → Prop}

@[simp] theorem keeps_throw {stop : Stop} :
    (throw stop : Reading α).run.Keeps R P Q w ↔ Q (.error stop) w := Iff.rfl

@[simp] theorem keeps_pure {a : α} :
    (pure a : Reading α).run.Keeps R P Q w ↔ Q (.ok a) w := Iff.rfl

/-- What a failure means for the command. -/
def failing (wrap : ε → Failure) (result : Except ε α) : Except Stop α :=
  result.mapError fun e => .failure (wrap e)

theorem keeps_orFail {wrap : ε → Failure} {result : Except ε α} :
    (orFail wrap result).run.Keeps R P Q w ↔ Q (failing wrap result) w := by
  cases result <;> rfl

theorem keeps_onSocket {d : Dialogue Socket α} :
    (onSocket d).run.Keeps R P Q w ↔
      d.Keeps (fun q w a w' => R (.socket q) w a w')
        (fun q w => P (q.map .socket) w) (fun a w => Q (.ok a) w) w := by
  rw [onSocket, keeps_run_lift, keeps_embed]
  simp only [exists_eq_left]

theorem keeps_onNetwork {context : String}
    {d : Dialogue Network (Except TransportError α)} :
    (onNetwork context d).run.Keeps R P Q w ↔
      d.Keeps (fun q w a w' => R (.network q) w a w')
        (fun q w => P (q.map .network) w)
        (fun a w => Q (failing (.ofTransport context) a) w) w := by
  rw [onNetwork, keeps_run_bind, keeps_run_lift, keeps_embed]
  simp only [exists_eq_left, keeps_orFail]

end

/-! ## How a card is waited for -/

/-- What listening on a host comes to. -/
theorem keeps_networkBind {host : String} {port : UInt16}
    {R : Dialogue.Surroundings Network ω} {P : Option Network.Ask → ω → Prop}
    {Q : Except TransportError UInt16 → ω → Prop} :
    (Network.bind host port).Keeps R P Q w ↔
      P (some (.resolve host port)) w ∧
      ∀ answer w', R (.resolve host port) w answer w' →
        match answer with
        | .error cause => Q (.error (.resolve host port cause)) w'
        | .ok [] =>
          Q (.error (.resolve host port ⟨.notFound, "no addresses found"⟩)) w'
        | .ok addresses => P (some (.listen addresses)) w' ∧
          ∀ answer w'', R (.listen addresses) w' answer w'' →
            Q (answer.mapError (.bind (Network.place host port))) w'' := by
  refine and_congr_right fun _ => ?_
  refine forall_congr' fun answer => forall_congr' fun w' => ?_
  refine imp_congr_right fun _ => ?_
  rcases answer with cause | _ | ⟨address, addresses⟩ <;> exact Iff.rfl

/-- Nobody can be taken now. -/
def Idle (answer : Except IoError (Option (Option Address))) : Prop :=
  answer = .ok none ∨ ∃ cause, answer = .error cause ∧ Network.isPassing cause

/-- What one poll for a card comes to. -/
theorem keeps_accept {interval : Duration}
    {R : Dialogue.Surroundings Network ω} {P : Option Network.Ask → ω → Prop}
    {Q : Except TransportError (Option (Option Address)) → ω → Prop} :
    (Network.accept interval).Keeps R P Q w ↔
      P (some (.poll interval)) w ∧
      ∀ answer w', R (.poll interval) w answer w' →
        match answer with
        | .ok none => Q (.ok none) w'
        | .ok (some peer) => P (some .unpoll) w' ∧
          ∀ answer w'', R .unpoll w' answer w'' →
            Q ((answer.map fun _ => some peer).mapError .io) w''
        | .error cause =>
          Q (bif Network.isPassing cause then .ok none
            else .error (.accept cause)) w' := by
  refine and_congr_right fun _ => ?_
  refine forall_congr' fun answer => forall_congr' fun w' => ?_
  refine imp_congr_right fun _ => ?_
  rcases answer with cause | _ | peer
  · show Q (if Network.isPassing cause then _ else _) w' ↔ Q _ w'
    cases Network.isPassing cause <;> rfl
  · exact Iff.rfl
  · refine and_congr_right fun _ => ?_
    refine forall_congr' fun answer => forall_congr' fun w' => ?_
    cases answer <;> exact Iff.rfl

/-- What the last moment of a wait comes to. The clock counts only so far. -/
theorem keeps_deadline {d : Duration}
    {Q : Except Stop (Option Instant) → ω → Prop} :
    (deadline (some d)).run.Keeps R P Q w ↔
      P (some .now) w ∧ ∀ t w', R .now w t w' →
        (t.later? d).elim (Q (.error .unwound) w')
          fun last => Q (.ok (some last)) w' := by
  rw [deadline, keeps_run_bind, keeps_run_liftM, keeps_ask]
  refine and_congr_right fun _ => ?_
  refine forall_congr' fun t => forall_congr' fun w' => ?_
  refine imp_congr_right fun _ => ?_
  dsimp only
  cases t.later? d <;> rfl

theorem keeps_checkDeadline {timeout : Option Duration} {last : Instant}
    {Q : Except Stop Unit → ω → Prop} :
    (checkDeadline timeout (some last)).run.Keeps R P Q w ↔
      P (some .now) w ∧ ∀ t w', R .now w t w' →
        Q (if last.nanoseconds ≤ t.nanoseconds then
            .error (.failure (nobody timeout))
          else .ok ()) w' := by
  refine and_congr_right fun _ => ?_
  refine forall_congr' fun t => forall_congr' fun w' => ?_
  refine imp_congr_right fun _ => ?_
  show Keeps R P Q (ExceptT.run (if _ then _ else _)) w' ↔ _
  split
  · exact Iff.rfl
  · exact Iff.rfl

/-- One round of a wait for a card. If it finds nobody, it goes on once it
has looked at the clock. -/
theorem keeps_awaitCard_succ {timeout : Option Duration}
    {last : Option Instant} {rounds : Nat}
    {Q : Except Stop (Option (Option Address)) → ω → Prop}
    (hlook : P (some .interrupted) w)
    (hinterrupted : ∀ w₁, R .interrupted w true w₁ → Q (.ok none) w₁)
    (hpoll : ∀ w₁, R .interrupted w false w₁ →
      P (some (.network (.poll pollInterval))) w₁ ∧
      ∀ answer w₂, R (.network (.poll pollInterval)) w₁ answer w₂ →
        match answer with
        | .ok (some peer) => P (some (.network .unpoll)) w₂ ∧
          (∀ w₃, R (.network .unpoll) w₂ (.ok ()) w₃ →
            Q (.ok (some peer)) w₃) ∧
          ∀ cause w₃, R (.network .unpoll) w₂ (.error cause) w₃ →
            Q (.error (.failure (.ofTransport "accept failed" (.io cause))))
              w₃
        | answer =>
          (Idle answer →
            (do
              checkDeadline timeout last
              awaitCard timeout last rounds).run.Keeps R P Q w₂) ∧
          ∀ cause, answer = .error cause → Network.isPassing cause = false →
            Q (.error (.failure (.ofTransport "accept failed"
              (.accept cause)))) w₂) :
    (awaitCard timeout last (rounds + 1)).run.Keeps R P Q w := by
  refine ⟨hlook, ?_⟩
  intro interrupted w₁ hr
  cases interrupted with
  | true => exact hinterrupted w₁ hr
  | false =>
    obtain ⟨hp, hanswer⟩ := hpoll w₁ hr
    show Keeps R P Q (ExceptT.run (onNetwork "accept failed"
      (Network.accept pollInterval) >>= _)) _
    rw [keeps_run_bind, keeps_onNetwork, keeps_accept]
    refine ⟨hp, ?_⟩
    intro answer w₂ hr
    have hnext := hanswer answer w₂ hr
    rcases answer with cause | _ | peer
    · cases hpassing : Network.isPassing cause with
      | true =>
        simp only [hpassing, cond_true]
        exact hnext.1 (.inr ⟨cause, rfl, hpassing⟩)
      | false =>
        simp only [hpassing, cond_false]
        exact hnext.2 cause rfl hpassing
    · exact hnext.1 (.inl rfl)
    · obtain ⟨hunpoll, hok, herror⟩ := hnext
      refine ⟨hunpoll, ?_⟩
      intro answer w₃ hr
      cases answer with
      | ok _ => exact hok w₃ hr
      | error cause => exact herror cause w₃ hr

/-! ## Parts that keep a card -/

theorem run_onCard (rounds : Nat) (context : String) (op : Card.Operation)
    (card : Remote) :
    (onCard rounds context op).run card = (do
      let (result, card) ← onSocket (Remote.perform rounds op card)
      return (← orFail (.ofCard context) result, card)) := by
  simp [onCard]

theorem run_exchange (rounds : Nat) (apdu : Bytes) (card : Remote) :
    (exchange rounds apdu).run card = (do
      let (response, card) ←
        (onCard rounds "transmit failed" (.transmit apdu)).run card
      print (.exchange (Hex.upper apdu) (Hex.upper response))
      return ((), card)) := by
  simp [exchange]

theorem run_exchanges_cons (rounds : Nat) (apdu : Bytes)
    (apdus : List Bytes) (card : Remote) :
    ((apdu :: apdus).forM (exchange rounds)).run card = (do
      let (_, card) ← (exchange rounds apdu).run card
      (apdus.forM (exchange rounds)).run card) := by
  simp [List.forM]

theorem run_useCard (rounds : Nat) (apdus : List Bytes) (card : Remote) :
    (useCard rounds apdus).run card = (do
      let (_, card) ← (onCard rounds "power on failed" .powerOn).run card
      let (atr, card) ← (onCard rounds "ATR request failed" .atr).run card
      print (.atr (Hex.upper atr))
      let (_, card) ← (apdus.forM (exchange rounds)).run card
      (onCard rounds "power off failed" .powerOff).run card) := by
  simp [useCard]

/-- What an operation on the card comes to. -/
theorem keeps_onCard {rounds : Nat} {context : String} {op : Card.Operation}
    {card : Remote} {Q : Except Stop (Card.Reply op × Remote) → ω → Prop} :
    ((onCard rounds context op).run card).run.Keeps R P Q w ↔
      (Remote.perform rounds op card).Keeps
        (fun q w a w' => R (.socket q) w a w')
        (fun q w => P (q.map .socket) w)
        (fun r w => Q ((failing (.ofCard context) r.1).map (·, r.2)) w) w := by
  rw [run_onCard, keeps_run_bind, keeps_onSocket]
  refine keeps_congr ?_
  intro r w
  obtain ⟨result, card⟩ := r
  cases result <;> rfl

/-! ## A desk with a reader -/

/-- A desk to which somebody comes with a card, or nobody. -/
structure Desk where
  visitor : Option Address := none
  /-- The connection to the card. -/
  stream : Stream.Scripted := {}
  /-- A clock that runs while the desk is waited at. -/
  clock : Instant := ⟨0⟩

def Desk.machine : Machine Surroundings Desk
  | .network (.resolve host port), s => (.ok [Network.place host port], s)
  | .network (.connect ..), s => (.error Transport.Site.unreachable, s)
  | .network (.listen _), s => (.ok defaultPort, s)
  | .network (.poll interval), s =>
    (.ok (s.visitor.map some),
      { s with
        clock.nanoseconds := s.clock.nanoseconds + interval.nanoseconds })
  | .network .unpoll, s => (.ok (), s)
  | .socket (.stream q), s =>
    let (answer, stream) := Stream.Scripted.machine q s.stream
    (answer, { s with stream })
  | .socket (.noDelay _), s => (.ok (), s)
  | .socket (.readTimeout _), s => (.ok (), s)
  | .socket (.writeTimeout _), s => (.ok (), s)
  | .socket .duplicate, s => (.ok (), s)
  | .socket .shutdown, s => (.ok (), s)
  | .print _, s => ((), s)
  | .catchInterrupts, s => (.ok (), s)
  | .interrupted, s => (false, s)
  | .now, s => (s.clock, s)
  | .log _, s => ((), s)

end CardBridge.Cli.Reader
