import CardBridge.Proofs.Session.Account

/-!
# Operations on a card that is elsewhere

What a sequence of operations comes to on the card itself, and what it has to
come to for a reader that sends it through a connection. `tally` is the
account that a session gives of the frames that are sent for it; the lemmas
at the end compare the two, operation by operation.
-/

namespace CardBridge

open Dialogue Session

/-! ## Operations and their frames -/

namespace Card

/-- What is sent for an operation. Ejecting sends nothing. -/
def Operation.payload : Operation → Bytes
  | .powerOn => [ControlCommand.powerOn.code]
  | .powerOff => [ControlCommand.powerOff.code]
  | .reset => [ControlCommand.reset.code]
  | .atr => [ControlCommand.getAtr.code]
  | .transmit apdu => apdu
  | .eject => []

/-- The operations that can be carried out from afar while the card is in
use. An APDU of one byte is taken for a control command, and one that does
not fit a frame cannot be sent. -/
def Operation.Relayable : Operation → Prop
  | .transmit apdu => apdu.length ≠ 1 ∧ apdu.length ≤ Frame.maxPayload
  | .eject => False
  | _ => True

/-- The operations that whoever makes them waits for. -/
def Operation.isAwaited : Operation → Bool
  | .atr => true
  | .transmit _ => true
  | _ => false

/-- The calls that a card gets for an operation: a card that is given power
is also asked for its answer to reset. -/
def Operation.calls : Operation → List Operation
  | .powerOn => [.powerOn, .atr]
  | op => [op]

/-- What is sent back for an operation. -/
def answered : (op : Operation) → Reply op → Bytes
  | .atr, atr => Frame.wire atr
  | .transmit _, response => Frame.wire response
  | _, _ => []

theorem answered_of_not_awaited {op : Operation}
    (h : op.isAwaited = false) (reply : Reply op) : answered op reply = [] := by
  cases op with
  | atr => cases h
  | transmit apdu => cases h
  | _ => rfl

/-- No response of the card is too long for a frame. -/
structure Concise {σ : Type} (machine : Machine Card σ) : Prop where
  atr : ∀ card response card', machine .atr card = (.ok response, card') →
    response.length ≤ Frame.maxPayload
  transmit : ∀ apdu card response card',
    machine (.transmit apdu) card = (.ok response, card') →
      response.length ≤ Frame.maxPayload

section

variable {σ : Type} (machine : Machine Card σ)

/-- What an operation made from afar comes to on the card. -/
def afar : Machine Card σ
  | .powerOn, card =>
    match machine .powerOn card with
    | (.error e, card) => (.error e, card)
    | (.ok (), card) =>
      match machine .atr card with
      | (.error e, card) => (.error e, card)
      | (.ok _, card) => (.ok (), card)
  | op, card => machine op card

/-- The card does not fail on any of the operations. -/
def Unfailing : σ → List Operation → Prop
  | _, [] => True
  | card, op :: ops =>
    match afar machine op card with
    | (.ok _, card) => Unfailing card ops
    | (.error _, _) => False

/-- Everything that was waited for has failed. -/
def Refused (results : List (Exchange Card)) : Prop :=
  ∀ result ∈ results, result.question.isAwaited = true →
    ∃ e, result.answer = .error e

theorem refused_nil : Refused [] := by
  intro result h
  cases h

theorem refused_cons (result : Exchange Card)
    (results : List (Exchange Card)) :
    Refused (result :: results) ↔
      (result.question.isAwaited = true → ∃ e, result.answer = .error e) ∧
        Refused results :=
  List.forall_mem_cons

/-- What operations made from afar have to come to: what the card itself
gave, up to its first failure, and from there on nothing but errors. -/
def Relayed : σ → List (Exchange Card) → Prop
  | _, [] => True
  | card, result :: results =>
    match afar machine result.question card with
    | (.ok reply, card) => result.answer = .ok reply ∧ Relayed card results
    | (.error _, _) => Refused (result :: results)

end

end Card

/-! ## What a session makes of them -/

namespace Session.Account

variable {σ : Type} {machine : Machine Card σ} {card : σ} {op : Card.Operation}
  {ops : List Card.Operation}

/-- An operation was carried out. -/
structure Fulfils (account : Account σ) (op : Card.Operation)
    (reply : Card.Reply op) (card : σ) : Prop where
  fault : account.fault = none
  card_eq : account.card = card
  sent : sentOf account.deeds = Card.answered op reply
  calls : callsOf account.deeds = op.calls

/-- An operation has failed, and nothing was sent for it. -/
structure Fails (account : Account σ) (op : Card.Operation) : Prop where
  fault : account.fault ≠ none
  sent : sentOf account.deeds = []
  calls : callsOf account.deeds <+: op.calls

theorem answering_of_fits {response : Bytes}
    (h : response.length ≤ Frame.maxPayload) :
    answering response card = ⟨(Frame.wire response).map .sent, none, card⟩ :=
  if_pos h

theorem fulfils_of_ok (hmachine : Card.Concise machine)
    (hop : op.Relayable) {reply : Card.Reply op} {card' : σ}
    (h : Card.afar machine op card = (.ok reply, card')) :
    (ofPayload machine card op.payload).Fulfils op reply card' := by
  cases op with
  | powerOn =>
    show Fulfils (calling machine .powerOn card _) _ _ _
    cases hon : machine .powerOn card with
    | mk result card₁ =>
      simp only [Card.afar, hon] at h
      cases result with
      | error e => cases h
      | ok =>
        rw [calling_ok hon]
        cases hatr : machine .atr card₁ with
        | mk result card₂ =>
          simp only [hatr] at h
          cases result with
          | error e => cases h
          | ok atr =>
            cases h
            rw [calling_ok hatr]
            exact ⟨rfl, rfl, rfl, rfl⟩
  | powerOff =>
    replace h : machine .powerOff card = _ := h
    show Fulfils (calling machine .powerOff card _) _ _ _
    rw [calling_ok h]
    exact ⟨rfl, rfl, rfl, rfl⟩
  | reset =>
    replace h : machine .reset card = _ := h
    show Fulfils (calling machine .reset card _) _ _ _
    rw [calling_ok h]
    exact ⟨rfl, rfl, rfl, rfl⟩
  | atr =>
    replace h : machine .atr card = _ := h
    show Fulfils (calling machine .atr card _) _ _ _
    rw [calling_ok h, answering_of_fits (hmachine.atr _ _ _ h)]
    exact ⟨rfl, rfl, sentOf_map_sent _, congrArg _ (callsOf_map_sent _)⟩
  | transmit apdu =>
    replace h : machine (.transmit apdu) card = _ := h
    have hfits := hmachine.transmit _ _ _ _ h
    rw [Card.Operation.payload, ofPayload_apdu hop.1, exchanging,
      calling_ok h, answering_of_fits hfits]
    exact ⟨rfl, rfl, sentOf_map_sent _, congrArg _ (callsOf_map_sent _)⟩
  | eject => exact absurd hop id

theorem fails_of_error (hop : op.Relayable) {e : CardError} {card' : σ}
    (h : Card.afar machine op card = (.error e, card')) :
    (ofPayload machine card op.payload).Fails op := by
  cases op with
  | powerOn =>
    show Fails (calling machine .powerOn card _) _
    cases hon : machine .powerOn card with
    | mk result card₁ =>
      simp only [Card.afar, hon] at h
      cases result with
      | error e =>
        rw [calling_error hon]
        exact ⟨Option.some_ne_none _, rfl, ⟨[.atr], rfl⟩⟩
      | ok =>
        rw [calling_ok hon]
        cases hatr : machine .atr card₁ with
        | mk result card₂ =>
          simp only [hatr] at h
          cases result with
          | ok atr => cases h
          | error e =>
            rw [calling_error hatr]
            exact ⟨Option.some_ne_none _, rfl, ⟨[], rfl⟩⟩
  | powerOff =>
    replace h : machine .powerOff card = _ := h
    show Fails (calling machine .powerOff card _) _
    rw [calling_error h]
    exact ⟨Option.some_ne_none _, rfl, ⟨[], rfl⟩⟩
  | reset =>
    replace h : machine .reset card = _ := h
    show Fails (calling machine .reset card _) _
    rw [calling_error h]
    exact ⟨Option.some_ne_none _, rfl, ⟨[], rfl⟩⟩
  | atr =>
    replace h : machine .atr card = _ := h
    show Fails (calling machine .atr card _) _
    rw [calling_error h]
    exact ⟨Option.some_ne_none _, rfl, ⟨[], rfl⟩⟩
  | transmit apdu =>
    replace h : machine (.transmit apdu) card = _ := h
    rw [Card.Operation.payload, ofPayload_apdu hop.1, exchanging,
      calling_error h]
    exact ⟨Option.some_ne_none _, rfl, ⟨[], rfl⟩⟩
  | eject => exact absurd hop id

section

variable (machine card)

/-- What the frames for some operations amount to. -/
def tally (ops : List Card.Operation) : Account σ :=
  .ofPayloads machine card (ops.map (·.payload))

end

/-- The octets that are sent for some operations. -/
def requests (ops : List Card.Operation) : Bytes :=
  Frame.wires (ops.map (·.payload))

theorem requests_append (ops later : List Card.Operation) :
    requests (ops ++ later) = requests ops ++ requests later := by
  simp [requests]

theorem requests_singleton (op : Card.Operation) :
    requests [op] = Frame.wire op.payload := by
  simp [requests]

theorem fit_payloads (hops : ∀ op ∈ ops, op.Relayable) :
    Frame.Fit (ops.map (·.payload)) := by
  intro payload hpayload
  obtain ⟨op, hop, rfl⟩ := List.mem_map.mp hpayload
  cases op with
  | transmit apdu => exact (hops _ hop).2
  | eject => exact absurd (hops _ hop) id
  | _ => decide

theorem ofStream_requests (hops : ∀ op ∈ ops, op.Relayable) :
    ofStream machine card (requests ops) = tally machine card ops := by
  rw [ofStream, requests, Frame.drain_wires (fit_payloads hops), tally]

/-! ## One more operation -/

theorem tally_concat_of_fault (h : (tally machine card ops).fault ≠ none) :
    tally machine card (ops ++ [op]) = tally machine card ops := by
  rw [tally, List.map_append, ofPayloads_append_of_fault h, tally]

theorem tally_concat (h : (tally machine card ops).fault = none) :
    tally machine card (ops ++ [op]) =
      (ofPayload machine (tally machine card ops).card op.payload).after
        (tally machine card ops).deeds := by
  rw [tally, List.map_append]
  exact ofPayloads_concat h

theorem tally_concat_of_ok (hmachine : Card.Concise machine)
    (hop : op.Relayable) {reply : Card.Reply op} {card' : σ}
    (h : (tally machine card ops).fault = none)
    (hafar : Card.afar machine op (tally machine card ops).card =
      (.ok reply, card')) :
    (tally machine card (ops ++ [op])).fault = none ∧
      (tally machine card (ops ++ [op])).card = card' ∧
      sentOf (tally machine card (ops ++ [op])).deeds =
        sentOf (tally machine card ops).deeds ++ Card.answered op reply := by
  have hfulfils := fulfils_of_ok hmachine hop hafar
  rw [tally_concat h]
  refine ⟨hfulfils.fault, hfulfils.card_eq, ?_⟩
  rw [after, sentOf_append, hfulfils.sent]

theorem tally_concat_of_error (hop : op.Relayable) {e : CardError} {card' : σ}
    (h : (tally machine card ops).fault = none)
    (hafar : Card.afar machine op (tally machine card ops).card =
      (.error e, card')) :
    (tally machine card (ops ++ [op])).fault ≠ none := by
  rw [tally_concat h]
  exact (fails_of_error hop hafar).fault

/-- No fault with one more operation: there was none before, and the card
does not fail on it. -/
theorem of_fault_tally_concat (hop : op.Relayable)
    (h : (tally machine card (ops ++ [op])).fault = none) :
    (tally machine card ops).fault = none ∧ ∃ reply card',
      Card.afar machine op (tally machine card ops).card =
        (.ok reply, card') := by
  have hops : (tally machine card ops).fault = none := by
    apply Decidable.byContradiction
    intro hops
    rw [tally_concat_of_fault hops] at h
    exact hops h
  refine ⟨hops, ?_⟩
  cases hafar : Card.afar machine op (tally machine card ops).card with
  | mk result card' =>
    cases result with
    | ok reply => exact ⟨reply, card', rfl⟩
    | error e => exact absurd h (tally_concat_of_error hop hops hafar)

/-- What was sent is not changed by an operation that fails, nor by one that
comes too late. -/
theorem sentOf_tally_concat (hmachine : Card.Concise machine)
    (hop : op.Relayable)
    (h : (tally machine card (ops ++ [op])).fault ≠ none) :
    sentOf (tally machine card (ops ++ [op])).deeds =
      sentOf (tally machine card ops).deeds := by
  by_cases hops : (tally machine card ops).fault = none
  · cases hafar : Card.afar machine op (tally machine card ops).card with
    | mk result card' =>
      cases result with
      | ok reply =>
        exact absurd (tally_concat_of_ok hmachine hop hops hafar).1 h
      | error e =>
        rw [tally_concat hops, after, sentOf_append,
          (fails_of_error hop hafar).sent, List.append_nil]
  · rw [tally_concat_of_fault hops]

/-! ## All operations -/

theorem tally_cons_of_ok (hmachine : Card.Concise machine)
    (hop : op.Relayable) {reply : Card.Reply op} {card' : σ}
    (h : Card.afar machine op card = (.ok reply, card')) :
    tally machine card (op :: ops) = (tally machine card' ops).after
      (ofPayload machine card op.payload).deeds := by
  have hfulfils := fulfils_of_ok hmachine hop h
  rw [tally, List.map_cons, ofPayloads_cons hfulfils.fault,
    hfulfils.card_eq, tally]

theorem tally_cons_of_error (hop : op.Relayable) {e : CardError} {card' : σ}
    (h : Card.afar machine op card = (.error e, card')) :
    tally machine card (op :: ops) =
      ofPayload machine card op.payload := by
  rw [tally, List.map_cons,
    ofPayloads_cons_of_fault (fails_of_error hop h).fault]

/-- A session is at no fault for some operations if the card does not fail
on any of them. -/
theorem fault_tally_iff (hmachine : Card.Concise machine)
    (hops : ∀ op ∈ ops, op.Relayable) :
    (tally machine card ops).fault = none ↔
      Card.Unfailing machine card ops := by
  induction ops generalizing card with
  | nil => exact ⟨fun _ => trivial, fun _ => rfl⟩
  | cons op ops ih =>
    obtain ⟨hop, hops⟩ := List.forall_mem_cons.mp hops
    rw [Card.Unfailing]
    cases hafar : Card.afar machine op card with
    | mk result card' =>
      cases result with
      | ok reply =>
        rw [tally_cons_of_ok hmachine hop hafar]
        exact ih hops
      | error e =>
        rw [tally_cons_of_error hop hafar]
        exact ⟨(fails_of_error hop hafar).fault, False.elim⟩

/-- The card gets the calls for the operations, in order, up to the first on
which it fails. -/
theorem callsOf_tally (hmachine : Card.Concise machine)
    (hops : ∀ op ∈ ops, op.Relayable) :
    callsOf (tally machine card ops).deeds <+: ops.flatMap (·.calls) ∧
      (Card.Unfailing machine card ops →
        callsOf (tally machine card ops).deeds = ops.flatMap (·.calls)) := by
  induction ops generalizing card with
  | nil => exact ⟨List.nil_prefix, fun _ => rfl⟩
  | cons op ops ih =>
    obtain ⟨hop, hops⟩ := List.forall_mem_cons.mp hops
    rw [Card.Unfailing, List.flatMap_cons]
    cases hafar : Card.afar machine op card with
    | mk result card' =>
      cases result with
      | ok reply =>
        obtain ⟨hpart, heq⟩ := ih hops
        rw [tally_cons_of_ok hmachine hop hafar, after, callsOf_append,
          (fulfils_of_ok hmachine hop hafar).calls]
        refine ⟨(List.prefix_append_right_inj _).mpr hpart, fun h => ?_⟩
        rw [heq h]
      | error e =>
        rw [tally_cons_of_error hop hafar]
        refine ⟨?_, False.elim⟩
        exact (fails_of_error hop hafar).calls.trans
          (List.prefix_append _ _)

end Session.Account

end CardBridge
