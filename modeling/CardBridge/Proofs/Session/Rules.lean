import CardBridge.Proofs.Promises
import CardBridge.Session.Run

/-!
# The parts of a session, one rule each

What a part of a session keeps to, in terms of what the surroundings answer
to the questions it consists of.
-/

namespace CardBridge.Session

open Dialogue

variable {α ε ω : Type} {R : Surroundings Session ω}
  {P : Option Ask → ω → Prop} {w : ω}

theorem keeps_ask {q : Ask} {Q : Answer q → ω → Prop} :
    (ask q).Keeps R P Q w ↔
      P (some q) w ∧ ∀ a w', R q w a w' → Q a w' := Iff.rfl

section

variable {Q : Except Stop α → ω → Prop}

@[simp] theorem keeps_fail {e : SessionError} :
    (fail e : Serving α).run.Keeps R P Q w ↔ Q (.error (.failure e)) w :=
  Iff.rfl

@[simp] theorem keeps_throw {stop : Stop} :
    (throw stop : Serving α).run.Keeps R P Q w ↔ Q (.error stop) w := Iff.rfl

@[simp] theorem keeps_pure {a : α} :
    (pure a : Serving α).run.Keeps R P Q w ↔ Q (.ok a) w := Iff.rfl

theorem keeps_orFail {wrap : ε → SessionError} {result : Except ε α} :
    (orFail wrap result).run.Keeps R P Q w ↔
      Q (result.mapError fun e => .failure (wrap e)) w := by
  cases result <;> rfl

theorem keeps_onSocket {d : Dialogue Socket α} :
    (onSocket d).run.Keeps R P Q w ↔
      d.Keeps (fun q w a w' => R (.socket q) w a w')
        (fun q w => P (q.map .socket) w) (fun a w => Q (.ok a) w) w := by
  rw [onSocket, keeps_run_lift, keeps_embed]
  simp only [exists_eq_left]

theorem keeps_onNetwork {d : Dialogue Network (Except TransportError α)} :
    (onNetwork d).run.Keeps R P Q w ↔
      d.Keeps (fun q w a w' => R (.network q) w a w')
        (fun q w => P (q.map .network) w)
        (fun a w => Q (a.mapError fun e => .failure (.transport e)) w) w := by
  rw [onNetwork, keeps_run_bind, keeps_run_lift, keeps_embed]
  simp only [exists_eq_left, keeps_orFail]

end

theorem keeps_talk {R : Surroundings Socket ω}
    {P : Option Socket.Ask → ω → Prop} {Q : α → ω → Prop}
    {d : Dialogue Stream α} :
    (Socket.talk d).Keeps R P Q w ↔
      d.Keeps (fun q w a w' => R (.stream q) w a w')
        (fun q w => P (q.map .stream) w) Q w := by
  rw [Socket.talk, keeps_embed]
  simp only [exists_eq_left]

/-- What a call to the card means for whoever made it. -/
def Attempt.verdict : Attempt (Except CardError α) → Except Stop α
  | .returned result => result.mapError fun e => .failure (.card e)
  | .unwound => .error .unwound

theorem keeps_onCard {op : Card.Operation}
    {Q : Except Stop (Card.Reply op) → ω → Prop} :
    (onCard op).run.Keeps R P Q w ↔
      P (some (.card op)) w ∧ ∀ a w', R (.card op) w a w' →
        Q (Attempt.verdict a) w' := by
  rw [onCard, keeps_run_bind, keeps_run_liftM, keeps_ask]
  refine and_congr_right fun _ => forall₂_congr fun a w' => ?_
  refine imp_congr_right fun _ => ?_
  cases a with
  | returned result => exact keeps_orFail
  | unwound => exact keeps_throw

/-- What a call to those who watch means for whoever made it. -/
def Attempt.passed : Attempt Unit → Except Stop Unit
  | .returned () => .ok ()
  | .unwound => .error .unwound

theorem keeps_emit {event : Event} {Q : Except Stop Unit → ω → Prop} :
    (emit event).run.Keeps R P Q w ↔
      P (some (.emit event)) w ∧ ∀ a w', R (.emit event) w a w' →
        Q (Attempt.passed a) w' := by
  rw [emit, keeps_run_bind, keeps_run_liftM, keeps_ask]
  refine and_congr_right fun _ => forall₂_congr fun a w' => ?_
  refine imp_congr_right fun _ => ?_
  cases a with
  | returned _ => exact keeps_pure
  | unwound => exact keeps_throw

/-- Whether the shutdown of a connection fails makes no difference. -/
theorem keeps_shutdown {R : Surroundings Socket ω}
    {P : Option Socket.Ask → ω → Prop} {Q : ω → Prop} :
    Socket.shutdown.Keeps R P (fun _ => Q) w ↔
      P (some .shutdown) w ∧ ∀ a w', R .shutdown w a w' → Q w' := by
  rw [Socket.shutdown, keeps_bind]
  refine and_congr_right fun _ => forall₂_congr fun a w' => ?_
  cases a <;> rfl

/-- A connection is served, and then taken back and shut down, unless a call
gave up. -/
theorem keeps_serveConnection {rounds : Nat}
    {config : SessionConfig} {Q : Except Stop Unit → ω → Prop} :
    (serveConnection rounds config).run.Keeps R P Q w ↔
      (setUp config >>= fun _ => exchange rounds rounds []).run.Keeps R P
        (fun r w => (r = .error .unwound → Q r w) ∧
          (r ≠ .error .unwound →
            P (some (.token .clear)) w ∧ ∀ a w', R (.token .clear) w a w' →
              P (some (.socket .shutdown)) w' ∧
                ∀ a w'', R (.socket .shutdown) w' a w'' → Q r w'')) w := by
  have hclose (r : Except Stop Unit) (w : ω) :
      (do ask (.token .clear)
          let _ ← onSocket Socket.shutdown
          MonadExcept.ofExcept r : Serving Unit).run.Keeps R P Q w ↔
        P (some (.token .clear)) w ∧ ∀ a w', R (.token .clear) w a w' →
          P (some (.socket .shutdown)) w' ∧
            ∀ a w'', R (.socket .shutdown) w' a w'' → Q r w'' := by
    rw [keeps_run_bind, keeps_run_liftM]
    refine keeps_ask.trans ?_
    refine and_congr_right fun _ => forall₂_congr fun a w' => ?_
    rw [keeps_run_bind, keeps_onSocket]
    refine imp_congr_right fun _ => ?_
    cases r <;> exact keeps_shutdown (Q := Q _)
  rw [serveConnection, keeps_run_bind, keeps_run_lift]
  refine keeps_congr fun r w => ?_
  match r with
  | .ok () => simpa using hclose (.ok ()) w
  | .error (.failure e) => simpa using hclose (.error (.failure e)) w
  | .error .unwound => simp

/-! ## The end of a run -/

/-- How the run of a session goes on once its work has stopped. -/
def concluding (cardName : String) :
    Except Stop ExitReason → Dialogue Session Outcome
  | .ok reason => conclude cardName reason
  | .error (.failure e) => do
    if ← isCancelled then
      conclude cardName .cancelled
    else
      match ← (emit (.error e.message)).run with
      | .ok () => conclude cardName (.failed e.kind)
      | .error _ =>
        abandon cardName
        return .unwound
  | .error .unwound => do
    abandon cardName
    return .unwound

theorem run_eq_concluding (rounds : Nat) (config : SessionConfig)
    (cardName : String) :
    run rounds config cardName =
      ((serve rounds config).run >>= concluding cardName) := rfl

end CardBridge.Session
