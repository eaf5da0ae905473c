import CardBridge.Card.Remote
import CardBridge.Frame.Writer
import CardBridge.Proofs.Rounds
import CardBridge.Transport.Network

/-!
# Frames and connections with larger bounds

A frame is sent and received in the same way with a larger bound, and a remote
card is asked the same. What has to do with connections as such has no bound,
and is never cut.
-/

namespace CardBridge

open Dialogue

variable {n rounds rounds' : Nat}

/-- There is one more round where there is more than one. -/
theorem exists_eq_succ (h : rounds + 1 ≤ rounds') :
    ∃ more, rounds' = more + 1 ∧ rounds ≤ more :=
  ⟨rounds' - 1, by omega, by omega⟩

namespace Frame

theorem continued_flush (hmore : rounds ≤ rounds') :
    (flush rounds).ContinuedBy rounds (flush rounds') := by
  induction rounds generalizing rounds' with
  | zero => exact .cut _
  | succ rounds ih =>
    obtain ⟨more, rfl, hleft⟩ := exists_eq_succ hmore
    refine .ask fun r => ?_
    cases r with
    | ok _ => exact .done _ _
    | error cause =>
      dsimp only
      split
      · exact ih hleft
      · exact .done _ _

theorem continued_write (hmore : rounds ≤ rounds') (pending : Bytes) :
    (write rounds pending).ContinuedBy rounds (write rounds' pending) := by
  induction rounds generalizing rounds' pending with
  | zero => exact .cut _
  | succ rounds ih =>
    obtain ⟨more, rfl, hleft⟩ := exists_eq_succ hmore
    cases pending with
    | nil => exact continued_flush hmore
    | cons octet pending =>
      refine .ask fun r => ?_
      match r with
      | .ok 0 => exact .done _ _
      | .ok (accepted + 1) => exact ih hleft _
      | .error cause =>
        dsimp only
        split
        · exact ih hleft _
        · exact .done _ _

theorem continued_send (hmore : rounds ≤ rounds') (payload : Bytes) :
    (send rounds payload).ContinuedBy rounds (send rounds' payload) := by
  rw [send, send]
  cases encode payload [] with
  | ok encoded => exact continued_write hmore encoded
  | error refusal => exact .done _ _

theorem continued_sendApdu (hmore : rounds ≤ rounds') (apdu : Bytes) :
    (sendApdu rounds apdu).ContinuedBy rounds (sendApdu rounds' apdu) := by
  rw [sendApdu, sendApdu]
  split
  · exact .done _ _
  · exact continued_send hmore apdu

theorem continued_order (hmore : rounds ≤ rounds') (order : Order) :
    (order.perform rounds).ContinuedBy rounds (order.perform rounds') := by
  cases order with
  | payload octets | frame octets => exact continued_send hmore octets
  | control command => exact continued_send hmore [command.code]
  | apdu octets => exact continued_sendApdu hmore octets
  | flush => exact continued_flush hmore

theorem continued_receive (hmore : rounds ≤ rounds') (buffer : Bytes) :
    (receive rounds buffer).ContinuedBy rounds (receive rounds' buffer) := by
  induction rounds generalizing rounds' buffer with
  | zero => exact .cut _
  | succ rounds ih =>
    obtain ⟨more, rfl, hleft⟩ := exists_eq_succ hmore
    rw [receive, receive]
    cases decode? buffer with
    | some received => exact .done _ _
    | none =>
      refine .ask fun r => ?_
      match r with
      | .ok [] => exact .done _ _
      | .ok (octet :: received) => exact ih hleft _
      | .error cause =>
        dsimp only
        split
        · exact ih hleft _
        · exact .done _ _

end Frame

namespace Socket

theorem continued_shutdown : shutdown.ContinuedBy n shutdown := by
  refine .ask fun r => ?_
  cases r <;> exact .done _ _

/-- One question and what is made of its answer. -/
theorem continued_ask {α : Type} (q : Ask) (f : Answer q → α) :
    (return f (← ask q)).ContinuedBy n (return f (← ask q)) :=
  .ask fun _ => .done _ _

end Socket

namespace Network

theorem continued_resolve (host : String) (port : UInt16) :
    (resolve host port).ContinuedBy n (resolve host port) := by
  refine .ask fun r => ?_
  match r with
  | .error _ | .ok [] | .ok (_ :: _) => exact .done _ _

theorem continued_tryEach (bound : Option Duration) (last : IoError)
    (addresses : List Address) :
    (tryEach bound last addresses).ContinuedBy n
      (tryEach bound last addresses) := by
  induction addresses generalizing last n with
  | nil => exact .done _ _
  | cons address rest ih =>
    refine .ask fun r => ?_
    cases r with
    | ok peer => exact .done _ _
    | error cause => exact ih cause

theorem continued_dial (host : String) (port : UInt16)
    (bound : Option Duration) :
    (dial host port bound).ContinuedBy n (dial host port bound) := by
  refine (continued_resolve host port).bind fun r => ?_
  cases r with
  | error e => exact .done _ _
  | ok addresses =>
    exact (continued_tryEach bound _ addresses).bind fun _ => .done _ _

theorem continued_bind (host : String) (port : UInt16) :
    (bind host port).ContinuedBy n (bind host port) := by
  refine (continued_resolve host port).bind fun r => ?_
  cases r with
  | error e => exact .done _ _
  | ok addresses => exact .ask fun _ => .done _ _

theorem continued_accept (interval : Duration) :
    (accept interval).ContinuedBy n (accept interval) := by
  refine .ask fun r => ?_
  match r with
  | .ok (some peer) =>
    refine .ask fun r => ?_
    cases r <;> exact .done _ _
  | .ok none | .error cause => exact .done _ _

end Network

namespace Remote

theorem continued_attach : attach.ContinuedBy n attach := by
  refine (Socket.continued_ask (.noDelay true) _).bind fun r => ?_
  cases r with
  | error e => exact .done _ _
  | ok _ =>
    refine (Socket.continued_ask .duplicate _).bind fun r => ?_
    cases r with
    | error e => exact .done _ _
    | ok _ =>
      refine (Socket.continued_ask .duplicate _).bind fun r => ?_
      cases r <;> exact .done _ _

theorem continued_tell {send send' : Dialogue Stream (Except FrameError Unit)}
    (h : send.ContinuedBy n send') :
    (tell send).ContinuedBy n (tell send') :=
  h.embed.bind fun _ => .done _ _

theorem continued_converse
    {send send' : Dialogue Stream (Except FrameError Unit)}
    (h : send.ContinuedBy rounds send') (hmore : rounds ≤ rounds')
    (card : Remote) :
    (converse rounds send card).ContinuedBy rounds
      (converse rounds' send' card) := by
  refine (continued_tell h).bind fun r => ?_
  cases r with
  | error e => exact .done _ _
  | ok _ =>
    refine (Frame.continued_receive hmore card.buffer).embed.bind ?_
    exact fun _ => .done _ _

/-- A larger bound only continues what a remote card was asked. -/
theorem continued_perform (hmore : rounds ≤ rounds') (op : Card.Operation)
    (card : Remote) :
    (perform rounds op card).ContinuedBy rounds (perform rounds' op card) := by
  have hcommand (code : ControlCommand) :
      (command rounds code card).ContinuedBy rounds
        (command rounds' code card) :=
    (continued_tell (Frame.continued_send hmore _)).bind fun _ => .done _ _
  obtain ⟨buffer, ejected⟩ := card
  cases ejected with
  | true => cases op <;> exact .done _ _
  | false =>
    cases op with
    | powerOn => exact hcommand .powerOn
    | powerOff => exact hcommand .powerOff
    | reset => exact hcommand .reset
    | atr => exact continued_converse (Frame.continued_send hmore _) hmore _
    | transmit apdu =>
      exact continued_converse (Frame.continued_sendApdu hmore apdu) hmore _
    | eject => exact Socket.continued_shutdown.bind fun _ => .done _ _

end Remote

end CardBridge
