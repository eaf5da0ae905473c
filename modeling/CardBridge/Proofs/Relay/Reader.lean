import CardBridge.Card.Remote
import CardBridge.Proofs.Frame.Transfer
import CardBridge.Proofs.Relay.Errands
import CardBridge.Proofs.Session.Rules

/-!
# A reader that uses a remote card

The reader takes over a connection, carries out operations on the card at its
other end, and ejects it. What it may be answered is what a session would
answer that serves the other end: nothing but the octets that are due for
what was written, and no sign of an end before there is a fault
(`Outpost.surroundings`). In return the reader never waits for octets that
are not to come (`Outpost.Prudent`), and what its operations come to is what
they come to on the card itself (`keeps_use`).
-/

namespace CardBridge

open Dialogue Session Session.Account

namespace Remote

/-- Carries out operations on a remote card, one after the other. -/
def performAll (rounds : Nat) : List Card.Operation → Remote →
    Dialogue Socket (List (Exchange Card) × Remote)
  | [], card => return ([], card)
  | op :: ops, card => do
    let (answer, card) ← perform rounds op card
    let (results, card) ← performAll rounds ops card
    return (⟨op, answer⟩ :: results, card)

/-- Takes over an established connection to a card, carries out operations on
it, and ejects it. Gives what the operations came to. -/
def use (rounds : Nat) (ops : List Card.Operation) :
    Dialogue Socket (Except CardError (List (Exchange Card))) := do
  match ← attach with
  | .error e => return .error e
  | .ok card =>
    let (results, card) ← performAll rounds ops card
    let _ ← perform rounds .eject card
    return .ok results

end Remote

namespace Relay

/-- A reader at its end of a connection. -/
structure Outpost where
  /-- The octets that the connection accepted and did not lose. -/
  written : Bytes := []
  /-- The octets that were received. -/
  heard : Bytes := []
  /-- The other end was found to have hung up. -/
  gone : Bool := false
  /-- This end was shut down. -/
  left : Bool := false

namespace Outpost

variable {σ : Type}

section

variable (machine : Machine Card σ) (card : σ)

/-- The octets that are sent back for what was written. -/
def due (written : Bytes) : Bytes :=
  sentOf (ofStream machine card written).deeds

/-- There is a fault in what was written. -/
def Failing (written : Bytes) : Prop :=
  (ofStream machine card written).fault ≠ none

/-- What a reader is answered while a session serves the other end. A session
that has met a fault hangs up, and then the connection may lose what is
written, or fail. -/
def surroundings : Surroundings Socket Outpost
  | .stream (.receive size), w, a, w' =>
    (∃ octets, octets ≠ [] ∧ octets.length ≤ size ∧
      w.heard ++ octets <+: due machine card w.written ∧ a = .ok octets ∧
      w' = { w with heard := w.heard ++ octets }) ∨
    (Failing machine card w.written ∧ w' = w ∧
      (a = .ok [] ∨ ∃ cause, cause.isInterrupted = false ∧ a = .error cause))
  | .stream (.send offered), w, a, w' =>
    (w.gone = false ∧ ∃ accepted, 0 < accepted ∧ accepted ≤ offered.length ∧
      a = .ok accepted ∧
      w' = { w with written := w.written ++ offered.take accepted }) ∨
    (Failing machine card w.written ∧ w' = { w with gone := true } ∧
      ((∃ accepted, 0 < accepted ∧ a = .ok accepted) ∨
        ∃ cause, cause.isInterrupted = false ∧ a = .error cause))
  | .stream .flush, w, a, w' => a = .ok () ∧ w' = w
  | .noDelay _, w, a, w' => a = .ok () ∧ w' = w
  | .readTimeout _, w, a, w' => a = .ok () ∧ w' = w
  | .writeTimeout _, w, a, w' => a = .ok () ∧ w' = w
  | .duplicate, w, a, w' => a = .ok () ∧ w' = w
  | .shutdown, w, _, w' => w' = { w with left := true }

/-- Nothing is asked after this end was shut down, nothing empty is asked for
or offered, nothing is written but a part of `all`, and nothing is waited for
that is not to come, except for the end. -/
def Prudent (all : Bytes) : Option Socket.Ask → Outpost → Prop
  | none, _ => False
  | some (.stream (.receive size)), w =>
    w.left = false ∧ 0 < size ∧
      (Failing machine card w.written ↔
        w.heard = due machine card w.written)
  | some (.stream (.send offered)), w =>
    w.left = false ∧ offered ≠ [] ∧
      (w.gone = false → w.written ++ offered <+: all)
  | some _, w => w.left = false

/-- All octets for some operations were written, but for the last ones
`pending`, unless the other end hung up. -/
structure Wrote (ops : List Card.Operation) (pending : Bytes) (w : Outpost) :
    Prop where
  left : w.left = false
  part : w.written <+: requests ops
  written : w.gone = false → w.written ++ pending = requests ops
  gone : w.gone = true → Failing machine card w.written

/-- Between two operations, after those in `ops`: they were written, and all
that is due for them was heard. -/
structure Poised (ops : List Card.Operation) (w : Outpost) : Prop
    extends Wrote machine card ops [] w where
  heard : w.heard = due machine card (requests ops)

/-- What one more operation comes to: what the card itself gives, and an
error from the first failure on. -/
structure Faithful (ops : List Card.Operation) (op : Card.Operation)
    (answer : Card.Answer op) : Prop where
  of_ok : ∀ reply card', (tally machine card ops).fault = none →
    Card.afar machine op (tally machine card ops).card = (.ok reply, card') →
      answer = .ok reply
  of_fault : (tally machine card (ops ++ [op])).fault ≠ none →
    op.isAwaited = true → ∃ e, answer = .error e

end

variable {machine : Machine Card σ} {card : σ} {w : Outpost} {all : Bytes}
  {rounds : Nat} {ops : List Card.Operation} {op : Card.Operation}
  {pending : Bytes}

theorem Prudent.left {q : Socket.Ask}
    (h : Prudent machine card all (some q) w) : w.left = false := by
  match q, h with
  | .stream (.receive _), h => exact h.1
  | .stream (.send _), h => exact h.1
  | .stream .flush, h | .noDelay _, h | .readTimeout _, h
  | .writeTimeout _, h | .duplicate, h | .shutdown, h => exact h

/-! ## Writing -/

theorem Wrote.accept (h : Wrote machine card ops pending w)
    (hgone : w.gone = false) (accepted : Nat) :
    Wrote machine card ops (pending.drop accepted)
      { w with written := w.written ++ pending.take accepted } := by
  have hwritten : (w.written ++ pending.take accepted) ++
      pending.drop accepted = requests ops := by
    rw [List.append_assoc, List.take_append_drop, h.written hgone]
  refine ⟨h.left, ⟨_, hwritten⟩, fun _ => hwritten, fun h => ?_⟩
  exact absurd (hgone.symm.trans h) Bool.false_ne_true

theorem Wrote.lose (h : Wrote machine card ops pending w) (left : Bytes)
    (hfailing : Failing machine card w.written) :
    Wrote machine card ops left { w with gone := true } :=
  ⟨h.left, h.part, fun h => absurd h.symm Bool.false_ne_true,
    fun _ => hfailing⟩

theorem Wrote.failing_iff (h : Wrote machine card ops [] w)
    (hops : ∀ op ∈ ops, op.Relayable) :
    Failing machine card w.written ↔ (tally machine card ops).fault ≠ none := by
  rw [← ofStream_requests hops]
  constructor
  · intro hfailing hfault
    exact hfailing (fault_of_part h.part hfault)
  · intro hfault
    cases hgone : w.gone with
    | true => exact h.gone hgone
    | false =>
      have hwritten := h.written hgone
      rw [List.append_nil] at hwritten
      rw [Failing, hwritten]
      exact hfault

/-- What is due for the operations is due for what was written, also where
some of it was lost. -/
theorem Wrote.due_eq (h : Wrote machine card ops [] w) :
    due machine card w.written = due machine card (requests ops) := by
  cases hgone : w.gone with
  | true => rw [due, due, ofStream_of_fault h.part (h.gone hgone)]
  | false =>
    have hwritten := h.written hgone
    rw [List.append_nil] at hwritten
    rw [hwritten]

/-- The frame of one more operation is written, unless there is a fault. -/
theorem keeps_tell (h : Poised machine card ops w)
    (hfits : op.payload.length ≤ Frame.maxPayload)
    (hall : requests (ops ++ [op]) <+: all)
    (hrounds : Frame.headerSize + Frame.maxPayload < rounds) :
    (Remote.tell (Frame.send rounds op.payload)).Keeps
      (surroundings machine card) (Prudent machine card all)
      (fun r w' => Wrote machine card (ops ++ [op]) [] w' ∧
        w'.heard = w.heard ∧
        ((∃ e, r = .error e) → Failing machine card w'.written) ∧
        (r = .ok () ∨ ∃ e, r = .error e)) w := by
  rw [Remote.tell, keeps_bind, keeps_talk, Frame.send_of_fits hfits]
  -- what is pending is what is missing from the requests
  refine Frame.keeps_write (fun pending w' =>
    Wrote machine card (ops ++ [op]) pending w' ∧ w'.heard = w.heard)
    ?_ ?_ ?_ ?_ ?_
  · intro octet octets w' hJ
    refine ⟨hJ.1.left, List.cons_ne_nil _ _, fun hgone => ?_⟩
    rw [hJ.1.written hgone]
    exact hall
  · intro octet octets w' a w'' hJ hr
    rcases hr with ⟨hgone, accepted, hpos, -, rfl, rfl⟩ |
      ⟨hfailing, rfl, ⟨accepted, hpos, rfl⟩ | ⟨cause, hcause, rfl⟩⟩
    · exact ⟨hpos, hJ.1.accept hgone accepted, hJ.2⟩
    · exact ⟨hpos, hJ.1.lose _ hfailing, hJ.2⟩
    · exact ⟨hcause, hJ.1.lose _ hfailing, hJ.2, fun _ => hfailing,
        .inr ⟨_, rfl⟩⟩
  · intro w' hJ
    refine ⟨hJ.1.left, ?_⟩
    intro a w'' hr
    obtain ⟨rfl, rfl⟩ := hr
    exact ⟨hJ.1, hJ.2, nofun, .inl rfl⟩
  · refine ⟨⟨h.left, ?_, fun hgone => ?_, h.gone⟩, rfl⟩
    · rw [requests_append]
      exact h.part.trans (List.prefix_append _ _)
    · have hwritten := h.written hgone
      rw [List.append_nil] at hwritten
      rw [hwritten, requests_append, requests_singleton]
  · rw [Frame.length_wire]
    simp only [Frame.headerSize] at hrounds
    omega

/-! ## Waiting for an answer -/

/-- No answer comes once there is a fault: the wait ends in an error. -/
theorem keeps_hear_failing (h : Wrote machine card ops [] w)
    (hops : ∀ op ∈ ops, op.Relayable)
    (hheard : w.heard = due machine card (requests ops))
    (hfault : (tally machine card ops).fault ≠ none)
    (hrounds : Frame.headerSize + Frame.maxPayload < rounds) :
    (Socket.talk (Frame.receive rounds [])).Keeps
      (surroundings machine card) (Prudent machine card all)
      (fun r w' => (∃ e, r = (.error e, [])) ∧ w' = w) w := by
  have hfailing := (h.failing_iff hops).mpr hfault
  rw [keeps_talk]
  -- nothing arrives, so the buffer stays empty
  refine Frame.keeps_receive (fun buffer w' => buffer = [] ∧ w' = w)
    ?_ ?_ ?_ ⟨rfl, rfl⟩ (by omega) (by rw [List.length_nil]; omega)
  · intro buffer w' hJ hbuffer
    obtain ⟨rfl, rfl⟩ := hJ
    refine ⟨h.left, Frame.wanted_pos [], fun _ => ?_, fun _ => hfailing⟩
    rw [hheard, h.due_eq]
  · intro buffer w' a w'' hJ hbuffer hr
    obtain ⟨rfl, hw'⟩ := hJ
    rw [hw'] at hr
    rcases hr with
      ⟨octets, hne, -, hpart, -, -⟩ | ⟨-, rfl, rfl | ⟨cause, hcause, rfl⟩⟩
    · -- all that is due was heard
      rw [hheard, ← h.due_eq] at hpart
      have hlength := hpart.length_le
      have hpos := List.length_pos_iff.mpr hne
      rw [List.length_append] at hlength
      omega
    · exact ⟨⟨_, rfl⟩, rfl⟩
    · exact ⟨hcause, ⟨_, rfl⟩, rfl⟩
  · intro buffer w' payload rest hJ hdecode
    rw [hJ.1] at hdecode
    cases hdecode

/-- The frame that is due is heard. -/
theorem keeps_hear {response heard : Bytes}
    (h : Wrote machine card ops [] w)
    (hops : ∀ op ∈ ops, op.Relayable) (hheard : w.heard = heard)
    (hdue : due machine card (requests ops) = heard ++ Frame.wire response)
    (hresponse : response.length ≤ Frame.maxPayload)
    (hfault : (tally machine card ops).fault = none)
    (hrounds : Frame.headerSize + Frame.maxPayload < rounds) :
    (Socket.talk (Frame.receive rounds [])).Keeps
      (surroundings machine card) (Prudent machine card all)
      (fun r w' => r = (.ok response, []) ∧ Poised machine card ops w') w := by
  have hfailing : ¬ Failing machine card w.written := by
    intro hfailing
    exact (h.failing_iff hops).mp hfailing hfault
  rw [keeps_talk]
  refine Frame.keeps_receive (fun buffer w' =>
    buffer <+: Frame.wire response ∧ w' = { w with heard := heard ++ buffer })
    ?_ ?_ ?_ ⟨List.nil_prefix, ?_⟩ (by omega)
    (by rw [List.length_nil]; omega)
  · intro buffer w' hJ hbuffer
    obtain ⟨-, rfl⟩ := hJ
    refine ⟨h.left, Frame.wanted_pos buffer, fun h => absurd h hfailing, ?_⟩
    intro heq
    -- an answer that was heard in full would be complete
    replace heq : heard ++ buffer = due machine card w.written := heq
    rw [h.due_eq, hdue, List.append_cancel_left_eq] at heq
    rw [heq, ← List.append_nil (Frame.wire response),
      Frame.decode?_wire_append hresponse] at hbuffer
    cases hbuffer
  · intro buffer w' a w'' hJ hbuffer hr
    obtain ⟨hpart, rfl⟩ := hJ
    rcases hr with ⟨octets, hne, -, hoctets, rfl, rfl⟩ | ⟨hfailing', -⟩
    · replace hoctets : heard ++ buffer ++ octets <+:
        due machine card w.written := hoctets
      rw [h.due_eq, hdue, List.append_assoc,
        List.prefix_append_right_inj] at hoctets
      cases octets with
      | nil => exact absurd rfl hne
      | cons octet octets =>
        refine ⟨hoctets, ?_⟩
        rw [← List.append_assoc]
    · exact absurd hfailing' hfailing
  · intro buffer w' payload rest hJ hdecode
    obtain ⟨hpart, rfl⟩ := hJ
    obtain ⟨rfl, rfl, rfl⟩ :=
      Frame.eq_of_part_of_decode? hpart hresponse hdecode
    exact ⟨rfl, ⟨h.left, h.part, h.written, h.gone⟩, hdue.symm⟩
  · rw [List.append_nil, ← hheard]

/-! ## One operation -/

theorem due_requests (hops : ∀ op ∈ ops, op.Relayable) :
    due machine card (requests ops) =
      sentOf (tally machine card ops).deeds := by
  rw [due, ofStream_requests hops]

section

variable (hrounds : Frame.headerSize + Frame.maxPayload < rounds)
  (h : Poised machine card ops w)
  (hops : ∀ op' ∈ ops ++ [op], op'.Relayable)
  (hall : requests (ops ++ [op]) <+: all)

include hops

/-- Nothing is due for an operation that nobody waits for. -/
theorem due_concat (hmachine : Card.Concise machine)
    (hawaited : op.isAwaited = false) :
    due machine card (requests (ops ++ [op])) =
      due machine card (requests ops) := by
  have hop : op.Relayable :=
    hops op (List.mem_append_right _ (List.mem_singleton_self op))
  rw [due_requests hops,
    due_requests fun op' hop' => hops op' (List.mem_append_left _ hop')]
  by_cases hfault : (tally machine card (ops ++ [op])).fault = none
  · obtain ⟨hbefore, reply, card', hafar⟩ := of_fault_tally_concat hop hfault
    rw [(tally_concat_of_ok hmachine hop hbefore hafar).2.2,
      Card.answered_of_not_awaited hawaited, List.append_nil]
  · exact sentOf_tally_concat hmachine hop hfault

include hrounds h hall

/-- A control command that nobody waits for is written. -/
theorem keeps_command {command : ControlCommand}
    (hcommand : op.payload = [command.code])
    (hdue : due machine card (requests (ops ++ [op])) =
      due machine card (requests ops)) :
    (Remote.command rounds command {}).Keeps (surroundings machine card)
      (Prudent machine card all)
      (fun r w' => r.2 = {} ∧ Poised machine card (ops ++ [op]) w' ∧
        ((tally machine card (ops ++ [op])).fault = none → r.1 = .ok ()))
      w := by
  have hfits : op.payload.length ≤ Frame.maxPayload := by
    rw [hcommand]
    show 1 ≤ Frame.maxPayload
    decide
  rw [Remote.command, Frame.sendControl, ← hcommand]
  refine (keeps_tell h hfits hall hrounds).bind ?_
  intro r w' hr
  obtain ⟨hwrote, hheard, hfailing, hr⟩ := hr
  refine ⟨rfl, ⟨hwrote, ?_⟩, fun hfault => ?_⟩
  · rw [hheard, h.heard, hdue]
  · rcases hr with rfl | herror
    · rfl
    · -- only a fault makes it fail
      exact absurd hfault ((hwrote.failing_iff hops).mp (hfailing herror))

/-- An operation fails that is waited for in vain. -/
theorem keeps_converse_failing (hmachine : Card.Concise machine)
    (hop : op.Relayable)
    (hfits : op.payload.length ≤ Frame.maxPayload)
    (hfault : (tally machine card (ops ++ [op])).fault ≠ none) :
    (Remote.converse rounds (Frame.send rounds op.payload) {}).Keeps
      (surroundings machine card) (Prudent machine card all)
      (fun r w' => r.2 = {} ∧ Poised machine card (ops ++ [op]) w' ∧
        ∃ e, r.1 = .error e) w := by
  rw [Remote.converse]
  refine (keeps_tell h hfits hall hrounds).bind ?_
  intro r w' hr
  obtain ⟨hwrote, hheard, -, hr⟩ := hr
  have hdue : w'.heard = due machine card (requests (ops ++ [op])) := by
    rw [hheard, h.heard, due_requests hops,
      sentOf_tally_concat hmachine hop hfault, due_requests]
    exact fun op' hop' => hops op' (List.mem_append_left _ hop')
  rcases hr with rfl | ⟨e, rfl⟩
  · refine (keeps_hear_failing hwrote hops hdue hfault hrounds).bind ?_
    intro r w'' hr
    obtain ⟨⟨e, rfl⟩, hw''⟩ := hr
    rw [hw'']
    exact ⟨rfl, ⟨hwrote, hdue⟩, _, rfl⟩
  · exact ⟨rfl, ⟨hwrote, hdue⟩, e, rfl⟩

/-- The response of the card is what is waited for. -/
theorem keeps_converse {response : Bytes}
    (hfits : op.payload.length ≤ Frame.maxPayload)
    (hfault : (tally machine card (ops ++ [op])).fault = none)
    (hdue : due machine card (requests (ops ++ [op])) =
      due machine card (requests ops) ++ Frame.wire response)
    (hresponse : response.length ≤ Frame.maxPayload) :
    (Remote.converse rounds (Frame.send rounds op.payload) {}).Keeps
      (surroundings machine card) (Prudent machine card all)
      (fun r w' => r = (.ok response, {}) ∧
        Poised machine card (ops ++ [op]) w') w := by
  rw [Remote.converse]
  refine (keeps_tell h hfits hall hrounds).bind ?_
  intro r w' hr
  obtain ⟨hwrote, hheard, hfailing, hr⟩ := hr
  rw [h.heard] at hheard
  rcases hr with rfl | herror
  · refine (keeps_hear hwrote hops hheard hdue hresponse
      hfault hrounds).bind ?_
    intro r w'' hr
    obtain ⟨rfl, hpoised⟩ := hr
    exact ⟨rfl, hpoised⟩
  · exact absurd hfault ((hwrote.failing_iff hops).mp (hfailing herror))

/-- An operation that is waited for comes to what it comes to on the card
itself. -/
theorem keeps_awaited (hmachine : Card.Concise machine) (hop : op.Relayable)
    (hfits : op.payload.length ≤ Frame.maxPayload)
    (bytes : Card.Reply op → Bytes)
    (hbytes : ∀ reply, Card.answered op reply = Frame.wire (bytes reply))
    (hlength : ∀ reply card' card'',
      Card.afar machine op card' = (.ok reply, card'') →
        (bytes reply).length ≤ Frame.maxPayload) :
    (Remote.converse rounds (Frame.send rounds op.payload) {}).Keeps
      (surroundings machine card) (Prudent machine card all)
      (fun r w' => r.2 = {} ∧ Poised machine card (ops ++ [op]) w' ∧
        (∀ reply card', (tally machine card ops).fault = none →
          Card.afar machine op (tally machine card ops).card =
            (.ok reply, card') → r.1 = .ok (bytes reply)) ∧
        ((tally machine card (ops ++ [op])).fault ≠ none →
          ∃ e, r.1 = .error e)) w := by
  by_cases hfault : (tally machine card (ops ++ [op])).fault = none
  · obtain ⟨hbefore, reply, card', hafar⟩ := of_fault_tally_concat hop hfault
    have hdue : due machine card (requests (ops ++ [op])) =
        due machine card (requests ops) ++ Frame.wire (bytes reply) := by
      rw [due_requests hops, due_requests
          fun op' hop' => hops op' (List.mem_append_left _ hop'),
        (tally_concat_of_ok hmachine hop hbefore hafar).2.2, hbytes]
    refine (keeps_converse hrounds h hops hall hfits hfault hdue
      (hlength _ _ _ hafar)).imp ?_
    intro r w' hr
    obtain ⟨rfl, hpoised⟩ := hr
    refine ⟨rfl, hpoised, fun reply' card'' _ hafar' => ?_,
      fun h => absurd hfault h⟩
    rw [hafar] at hafar'
    cases hafar'
    rfl
  · refine (keeps_converse_failing hrounds h hops hall hmachine hop hfits
      hfault).imp ?_
    intro r w' hr
    obtain ⟨hcard, hpoised, hr⟩ := hr
    refine ⟨hcard, hpoised, fun reply card' hbefore hafar => ?_, fun _ => hr⟩
    exact absurd (tally_concat_of_ok hmachine hop hbefore hafar).1 hfault

/-- An operation comes to what it comes to on the card itself. -/
theorem keeps_perform (hmachine : Card.Concise machine) :
    (Remote.perform rounds op {}).Keeps (surroundings machine card)
      (Prudent machine card all)
      (fun r w' => r.2 = {} ∧ Poised machine card (ops ++ [op]) w' ∧
        Faithful machine card ops op r.1) w := by
  have hop : op.Relayable :=
    hops op (List.mem_append_right _ (List.mem_singleton_self op))
  cases op with
  | powerOn | powerOff | reset =>
    refine (keeps_command hrounds h hops hall rfl
      (due_concat hops hmachine rfl)).imp ?_
    intro r w' hr
    obtain ⟨hcard, hpoised, hr⟩ := hr
    refine ⟨hcard, hpoised, fun reply card' hbefore hafar => ?_, nofun⟩
    exact hr (tally_concat_of_ok hmachine hop hbefore hafar).1
  | atr =>
    refine (keeps_awaited hrounds h hops hall hmachine hop (by decide) id
      (fun _ => rfl) fun reply card' card'' h =>
        hmachine.atr card' reply card'' h).imp ?_
    intro r w' hr
    obtain ⟨hcard, hpoised, hok, herror⟩ := hr
    exact ⟨hcard, hpoised, hok, fun h _ => herror h⟩
  | transmit apdu =>
    -- no APDU of one byte is relayed, so none is turned down here
    have hsend : Frame.sendApdu rounds apdu = Frame.send rounds apdu :=
      if_neg hop.1
    show (Remote.converse rounds (Frame.sendApdu rounds apdu) {}).Keeps
      _ _ _ w
    rw [hsend]
    refine (keeps_awaited hrounds h hops hall hmachine hop hop.2 id
      (fun _ => rfl) fun reply card' card'' h =>
        hmachine.transmit apdu card' reply card'' h).imp ?_
    intro r w' hr
    obtain ⟨hcard, hpoised, hok, herror⟩ := hr
    exact ⟨hcard, hpoised, hok, fun h _ => herror h⟩
  | eject => exact absurd hop id

end

/-! ## All operations -/

theorem Faithful.relayed {answer : Card.Answer op}
    {results : List (Exchange Card)} (hmachine : Card.Concise machine)
    (hop : op.Relayable) (h : Faithful machine card ops op answer)
    (hbefore : (tally machine card ops).fault = none)
    (hok : (tally machine card (ops ++ [op])).fault = none →
      Card.Relayed machine (tally machine card (ops ++ [op])).card results)
    (herror : (tally machine card (ops ++ [op])).fault ≠ none →
      Card.Refused results) :
    Card.Relayed machine (tally machine card ops).card
      (⟨op, answer⟩ :: results) := by
  rw [Card.Relayed]
  cases hafar : Card.afar machine op (tally machine card ops).card with
  | mk result card' =>
    cases result with
    | ok reply =>
      obtain ⟨hfault, hcard, -⟩ :=
        tally_concat_of_ok hmachine hop hbefore hafar
      refine ⟨h.of_ok reply card' hbefore hafar, ?_⟩
      rw [← hcard]
      exact hok hfault
    | error e =>
      have hfault := tally_concat_of_error hop hbefore hafar
      exact (Card.refused_cons _ _).mpr
        ⟨h.of_fault hfault, herror hfault⟩

theorem keeps_performAll (hmachine : Card.Concise machine)
    (hrounds : Frame.headerSize + Frame.maxPayload < rounds)
    {later : List Card.Operation} (h : Poised machine card ops w)
    (hops : ∀ op ∈ ops ++ later, op.Relayable)
    (hall : requests (ops ++ later) <+: all) :
    (Remote.performAll rounds later {}).Keeps (surroundings machine card)
      (Prudent machine card all)
      (fun r w' => r.2 = {} ∧ Poised machine card (ops ++ later) w' ∧
        r.1.map (·.question) = later ∧
        ((tally machine card ops).fault = none →
          Card.Relayed machine (tally machine card ops).card r.1) ∧
        ((tally machine card ops).fault ≠ none → Card.Refused r.1)) w := by
  -- the operations that are done are on the left, those to come on the right
  induction later generalizing ops w with
  | nil =>
    rw [List.append_nil]
    exact ⟨rfl, h, rfl, fun _ => trivial, fun _ => Card.refused_nil⟩
  | cons op later ih =>
    have hsplit : ops ++ op :: later = (ops ++ [op]) ++ later := by simp
    rw [hsplit] at hops hall
    have hnow : ∀ op' ∈ ops ++ [op], op'.Relayable :=
      fun op' hop' => hops op' (List.mem_append_left _ hop')
    have hop : op.Relayable :=
      hnow op (List.mem_append_right _ (List.mem_singleton_self op))
    have hroom : requests (ops ++ [op]) <+: all := by
      refine List.IsPrefix.trans ?_ hall
      rw [requests_append (ops ++ [op])]
      exact List.prefix_append _ _
    rw [Remote.performAll]
    refine (keeps_perform hrounds h hnow hroom hmachine).bind ?_
    intro r w₁ hr
    obtain ⟨answer, remote⟩ := r
    obtain ⟨rfl, hpoised, hfaithful⟩ := hr
    refine (ih hpoised hops hall).bind ?_
    intro r w₂ hr
    obtain ⟨results, remote⟩ := r
    obtain ⟨rfl, hpoised, hquestions, hrelayed, hrefused⟩ := hr
    rw [hsplit]
    refine ⟨rfl, hpoised, congrArg (op :: ·) hquestions, ?_, ?_⟩
    · intro hfault
      exact hfaithful.relayed hmachine hop hfault hrelayed hrefused
    · intro hfault
      have hfault' : (tally machine card (ops ++ [op])).fault ≠ none := by
        rw [tally_concat_of_fault hfault]
        exact hfault
      exact (Card.refused_cons _ _).mpr
        ⟨hfaithful.of_fault hfault', hrefused hfault'⟩

section

variable (machine card)

/-- A reader has left the connection: all that is due was heard, all was
written if there was no fault, and the operations came to what they come to
on the card itself. -/
structure Used (ops : List Card.Operation)
    (r : Except CardError (List (Exchange Card))) (w : Outpost) : Prop where
  left : w.left = true
  heard : w.heard = due machine card w.written
  written : ¬ Failing machine card w.written → w.written = requests ops
  results : ∃ results, r = .ok results ∧ results.map (·.question) = ops ∧
    Card.Relayed machine card results

end

theorem keeps_attach (hleft : w.left = false) :
    Remote.attach.Keeps (surroundings machine card) (Prudent machine card all)
      (fun r w' => r = .ok {} ∧ w' = w) w := by
  iterate 3
    refine keeps_bind.mpr (keeps_bind.mpr ⟨hleft, ?_⟩)
    intro _ _ ha
    obtain ⟨rfl, rfl⟩ := ha
  exact ⟨rfl, rfl⟩

/-- Whatever a reader is answered, its operations come to what they come to
on the card itself. -/
theorem keeps_use (hmachine : Card.Concise machine)
    (hrounds : Frame.headerSize + Frame.maxPayload < rounds)
    (hops : ∀ op ∈ ops, op.Relayable) :
    (Remote.use rounds ops).Keeps (surroundings machine card)
      (Prudent machine card (requests ops)) (Used machine card ops) {} := by
  rw [Remote.use]
  refine (keeps_attach rfl).bind ?_
  intro r w hr
  obtain ⟨rfl, rfl⟩ := hr
  have hopening : Poised machine card [] {} :=
    ⟨⟨rfl, List.nil_prefix, fun _ => rfl, nofun⟩, by
      rw [due_requests (List.forall_mem_nil _)]
      rfl⟩
  refine (keeps_performAll hmachine hrounds hopening hops
    (List.prefix_refl _)).bind ?_
  intro r w hr
  obtain ⟨results, remote⟩ := r
  obtain ⟨rfl, hpoised, hquestions, hrelayed, -⟩ := hr
  refine keeps_bind.mpr (keeps_bind.mpr ?_)
  refine (keeps_shutdown (Q := Used machine card ops (.ok results))).mpr
    ⟨hpoised.left, ?_⟩
  intro a w' ha
  subst ha
  refine ⟨rfl, ?_, fun hfailing => ?_, results, rfl, hquestions,
    hrelayed rfl⟩
  · show w.heard = due machine card w.written
    rw [hpoised.heard, hpoised.due_eq, List.nil_append]
  · have hwritten := hpoised.written (Bool.eq_false_iff.mpr
      fun hgone => hfailing (hpoised.gone hgone))
    rwa [List.append_nil] at hwritten

end Outpost

end Relay

end CardBridge
