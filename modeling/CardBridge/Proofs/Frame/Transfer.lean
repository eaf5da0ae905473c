import CardBridge.Frame.Send
import CardBridge.Proofs.Frame.Wire
import CardBridge.Proofs.Promises

/-!
# Receiving and sending, round by round

The loops that receive and send a frame, each as a rule: an invariant of the
octets in hand that every answer of the stream preserves. Each answer moves
at least one octet, so as many rounds as a frame has octets are enough.
-/

namespace CardBridge.Frame

open Dialogue

variable {ω : Type} {R : Surroundings Stream ω}
  {P : Option Stream.Ask → ω → Prop} {w : ω} {rounds : Nat}

/-- What a wait for a frame comes to: `J` is kept by every piece that
arrives, and gives the result once the frame is there. -/
theorem keeps_receive {Q : Except FrameError Bytes × Bytes → ω → Prop}
    {buffer : Bytes} (J : Bytes → ω → Prop)
    (hask : ∀ buffer w, J buffer w → decode? buffer = none →
      P (some (.receive (wanted buffer))) w)
    (hanswer : ∀ buffer w a w', J buffer w → decode? buffer = none →
      R (.receive (wanted buffer)) w a w' →
      match a with
      | .ok [] => Q (.error .connectionClosed, []) w'
      | .ok (octet :: octets) => J (buffer ++ octet :: octets) w'
      | .error cause => cause.isInterrupted = false ∧
          Q (.error (.io cause), buffer) w')
    (hdone : ∀ buffer w payload rest, J buffer w →
      decode? buffer = some (payload, rest) → Q (.ok payload, rest) w)
    (hJ : J buffer w) (hpos : 0 < rounds)
    (hrounds : headerSize + maxPayload < buffer.length + rounds) :
    (receive rounds buffer).Keeps R P Q w := by
  -- each piece shortens what is missing, so the rounds are enough
  induction rounds generalizing buffer w with
  | zero => omega
  | succ rounds ih =>
    rw [receive]
    split
    · rename_i payload rest hd
      exact hdone buffer w payload rest hJ hd
    · rename_i hd
      refine ⟨hask buffer w hJ hd, ?_⟩
      intro a w' hr
      have hlt := length_lt_of_unfinished hd
      have hnext := hanswer buffer w a w' hJ hd hr
      match a, hnext with
      | .ok [], hnext => exact hnext
      | .ok (octet :: octets), hnext =>
        refine ih hnext (by omega) ?_
        simp only [List.length_append, List.length_cons]
        omega
      | .error cause, ⟨hcause, hnext⟩ =>
        simp only [hcause, Bool.false_eq_true, if_false]
        exact hnext

theorem keeps_flush {Q : Except FrameError Unit → ω → Prop}
    (hask : P (some .flush) w)
    (hanswer : ∀ a w', R .flush w a w' →
      match a with
      | .ok () => Q (.ok ()) w'
      | .error cause => cause.isInterrupted = false ∧
          Q (.error (.io cause)) w')
    (hpos : 0 < rounds) :
    (flush rounds).Keeps R P Q w := by
  obtain ⟨rounds, rfl⟩ : ∃ n, rounds = n + 1 := ⟨rounds - 1, by omega⟩
  refine ⟨hask, ?_⟩
  intro a w' hr
  match a, hanswer a w' hr with
  | .ok (), hnext => exact hnext
  | .error cause, ⟨hcause, hnext⟩ =>
    simp only [hcause, Bool.false_eq_true, if_false]
    exact hnext

/-- What an offer of octets comes to: `J` is kept while they are accepted,
and gives the result of the flush behind them. -/
theorem keeps_write {Q : Except FrameError Unit → ω → Prop}
    {pending : Bytes} (J : Bytes → ω → Prop)
    (hask : ∀ octet octets w, J (octet :: octets) w →
      P (some (.send (octet :: octets))) w)
    (hanswer : ∀ octet octets w a w', J (octet :: octets) w →
      R (.send (octet :: octets)) w a w' →
      match a with
      | .ok accepted => 0 < accepted ∧
          J ((octet :: octets).drop accepted) w'
      | .error cause => cause.isInterrupted = false ∧
          Q (.error (.io cause)) w')
    (hflush : ∀ w, J [] w → P (some .flush) w ∧ ∀ a w', R .flush w a w' →
      match a with
      | .ok () => Q (.ok ()) w'
      | .error cause => cause.isInterrupted = false ∧
          Q (.error (.io cause)) w')
    (hJ : J pending w) (hrounds : pending.length < rounds) :
    (write rounds pending).Keeps R P Q w := by
  induction rounds generalizing pending w with
  | zero => omega
  | succ rounds ih =>
    cases pending with
    | nil =>
      obtain ⟨hp, ha⟩ := hflush w hJ
      exact keeps_flush hp ha (Nat.succ_pos rounds)
    | cons octet octets =>
      refine ⟨hask octet octets w hJ, ?_⟩
      intro a w' hr
      match a, hanswer octet octets w a w' hJ hr with
      | .ok 0, ⟨hpos, _⟩ => omega
      | .ok (accepted + 1), ⟨_, hnext⟩ =>
        refine ih hnext ?_
        simp only [List.length_drop, List.length_cons] at hrounds ⊢
        omega
      | .error cause, ⟨hcause, hnext⟩ =>
        simp only [hcause, Bool.false_eq_true, if_false]
        exact hnext

theorem asks_receive {S : Stream.Ask → Prop}
    (h : ∀ size, S (.receive size)) (rounds : Nat) (buffer : Bytes) :
    (receive rounds buffer).Asks S := by
  induction rounds generalizing buffer with
  | zero => trivial
  | succ rounds ih =>
    rw [receive]
    split
    · trivial
    · refine ⟨h _, ?_⟩
      intro a
      dsimp only
      split
      · trivial
      · exact ih _
      · split
        · exact ih _
        · trivial

theorem asks_flush {S : Stream.Ask → Prop} (h : S .flush) (rounds : Nat) :
    (flush rounds).Asks S := by
  induction rounds with
  | zero => trivial
  | succ rounds ih =>
    refine ⟨h, ?_⟩
    intro a
    dsimp only
    split
    · trivial
    · split
      · exact ih
      · trivial

theorem asks_write {S : Stream.Ask → Prop} (hsend : ∀ octets, S (.send octets))
    (hflush : S .flush) (rounds : Nat) (pending : Bytes) :
    (write rounds pending).Asks S := by
  induction rounds generalizing pending with
  | zero => trivial
  | succ rounds ih =>
    cases pending with
    | nil => exact asks_flush hflush (rounds + 1)
    | cons octet octets =>
      refine ⟨hsend _, ?_⟩
      intro a
      dsimp only
      split
      · trivial
      · exact ih _
      · split
        · exact ih _
        · trivial

theorem asks_send {S : Stream.Ask → Prop} (hsend : ∀ octets, S (.send octets))
    (hflush : S .flush) (rounds : Nat) (payload : Bytes) :
    (send rounds payload).Asks S := by
  rw [send]
  split
  · exact asks_write hsend hflush rounds _
  · trivial

/-- A payload that fits is offered in its wire form. -/
theorem send_of_fits {payload : Bytes} (h : payload.length ≤ maxPayload) :
    send rounds payload = write rounds (wire payload) := by
  simp [send, encode, h]

end CardBridge.Frame
