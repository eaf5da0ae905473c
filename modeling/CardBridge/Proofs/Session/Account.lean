import CardBridge.Proofs.Frame.Wire
import CardBridge.Session.Run

/-!
# What frames amount to

The meaning of a connection, payload by payload: which calls the card gets,
which events are told, which octets go back, and where the work stops. It is
a function of the payloads and the card alone. How the stream was cut into
pieces, how much of an answer was accepted at once and how often the token
was asked do not show.
-/

namespace CardBridge

namespace Session

/-- Something that is seen of a session from outside. -/
inductive Deed where
  /-- The card was called. -/
  | called (op : Card.Operation)
  /-- Those who watch were told. -/
  | told (event : Event)
  /-- An octet went to the reader. -/
  | sent (octet : UInt8)
  /-- The connection was shut down. -/
  | hungUp
  deriving Repr, DecidableEq

/-- Those who watch were told, and nothing else was seen. -/
def Quiet (deeds : List Deed) : Prop :=
  ∀ deed ∈ deeds, ∃ event, deed = .told event

@[simp] theorem quiet_nil : Quiet [] := by
  intro deed h
  cases h

theorem Quiet.concat {deeds : List Deed} (h : Quiet deeds) (event : Event) :
    Quiet (deeds ++ [.told event]) := by
  intro deed hdeed
  rcases List.mem_append.mp hdeed with hdeed | hdeed
  · exact h deed hdeed
  · exact ⟨event, List.mem_singleton.mp hdeed⟩

/-! ## What is seen of the card and of the connection -/

/-- The octet that went to the reader, if one did. -/
def Deed.octet? : Deed → Option UInt8
  | .sent octet => some octet
  | _ => none

/-- The call that the card got, if it got one. -/
def Deed.call? : Deed → Option Card.Operation
  | .called op => some op
  | _ => none

/-- What those who watch were told, if they were told anything. -/
def Deed.event? : Deed → Option Event
  | .told event => some event
  | _ => none

/-- The octets that went to the reader. -/
def sentOf (deeds : List Deed) : Bytes :=
  deeds.filterMap Deed.octet?

/-- The calls that the card got. -/
def callsOf (deeds : List Deed) : List Card.Operation :=
  deeds.filterMap Deed.call?

/-- What those who watch were told. -/
def eventsOf (deeds : List Deed) : List Event :=
  deeds.filterMap Deed.event?

section

variable {deeds deeds' : List Deed}

@[simp] theorem sentOf_append :
    sentOf (deeds ++ deeds') = sentOf deeds ++ sentOf deeds' :=
  List.filterMap_append

@[simp] theorem callsOf_append :
    callsOf (deeds ++ deeds') = callsOf deeds ++ callsOf deeds' :=
  List.filterMap_append

@[simp] theorem eventsOf_append :
    eventsOf (deeds ++ deeds') = eventsOf deeds ++ eventsOf deeds' :=
  List.filterMap_append

@[simp] theorem sentOf_map_sent (octets : Bytes) :
    sentOf (octets.map .sent) = octets := by
  induction octets with
  | nil => rfl
  | cons octet octets ih => exact congrArg (octet :: ·) ih

@[simp] theorem callsOf_map_sent (octets : Bytes) :
    callsOf (octets.map .sent) = [] := by
  induction octets with
  | nil => rfl
  | cons octet octets ih => exact ih

theorem sentOf_mono (h : deeds <+: deeds') :
    sentOf deeds <+: sentOf deeds' :=
  h.filterMap Deed.octet?

theorem callsOf_mono (h : deeds <+: deeds') :
    callsOf deeds <+: callsOf deeds' :=
  h.filterMap Deed.call?

theorem Quiet.sentOf_eq (h : Quiet deeds) : sentOf deeds = [] := by
  refine List.filterMap_eq_nil_iff.mpr ?_
  intro deed hdeed
  obtain ⟨event, rfl⟩ := h deed hdeed
  rfl

theorem Quiet.callsOf_eq (h : Quiet deeds) : callsOf deeds = [] := by
  refine List.filterMap_eq_nil_iff.mpr ?_
  intro deed hdeed
  obtain ⟨event, rfl⟩ := h deed hdeed
  rfl

end

/-! ## What frames amount to -/

/-- What some frames amount to. -/
structure Account (σ : Type) where
  /-- What is seen, in order. -/
  deeds : List Deed
  /-- The error at which the work stops. -/
  fault : Option SessionError
  /-- The card afterwards. -/
  card : σ

namespace Account

variable {σ : Type}

/-- The same, after something else was seen. -/
def after (deeds : List Deed) (account : Account σ) : Account σ :=
  { account with deeds := deeds ++ account.deeds }

/-- The card is called. A failure is where the work stops. -/
def calling (machine : Dialogue.Machine Card σ) (op : Card.Operation)
    (card : σ) (next : Card.Reply op → σ → Account σ) : Account σ :=
  match machine op card with
  | (.ok reply, card) => (next reply card).after [.called op]
  | (.error e, card) => ⟨[.called op], some (.card e), card⟩

/-- Those who watch are told, and that is all. -/
def telling (event : Event) (card : σ) : Account σ :=
  ⟨[.told event], none, card⟩

/-- An answer of the card goes to the reader, if it fits a frame. -/
def answering (response : Bytes) (card : σ) : Account σ :=
  if response.length ≤ Frame.maxPayload then
    ⟨(Frame.wire response).map .sent, none, card⟩
  else
    ⟨[], some (.protocol
      s!"response of {response.length} bytes does not fit a frame"), card⟩

/-- A command goes to the card, and its response to the reader. -/
def exchanging (machine : Dialogue.Machine Card σ) (apdu : Bytes)
    (card : σ) : Account σ :=
  (calling machine (.transmit apdu) card fun response card =>
    (answering response card).after
      [.told (.responseApdu (Hex.upper response))]).after
    [.told (.commandApdu (Hex.upper apdu))]

/-- What one frame amounts to. A single octet is a control command or
nothing that is understood; everything else goes to the card. -/
def ofPayload (machine : Dialogue.Machine Card σ) (card : σ) :
    Bytes → Account σ
  | [0x00] => calling machine .powerOff card fun _ => telling .poweredOff
  | [0x01] => calling machine .powerOn card fun _ card =>
    (calling machine .atr card fun atr =>
      telling (.atr (Hex.upper atr))).after [.told .poweredOn]
  | [0x02] => calling machine .reset card fun _ => telling .reset
  | [0x04] => calling machine .atr card answering
  | [code] => ⟨[], some (.protocol (FrameError.unhandledText code)), card⟩
  | apdu => exchanging machine apdu card

/-- What frames in a row amount to: nothing that follows a fault has any
effect. -/
def ofPayloads (machine : Dialogue.Machine Card σ) (card : σ) :
    List Bytes → Account σ
  | [] => ⟨[], none, card⟩
  | payload :: payloads =>
    let first := ofPayload machine card payload
    match first.fault with
    | some _ => first
    | none => (ofPayloads machine first.card payloads).after first.deeds

/-- What the complete frames of a stream amount to. -/
def ofStream (machine : Dialogue.Machine Card σ) (card : σ)
    (stream : Bytes) : Account σ :=
  ofPayloads machine card (Frame.drain stream).1

variable {machine : Dialogue.Machine Card σ} {card : σ}
  {payload : Bytes} {payloads later : List Bytes}

@[simp] theorem fault_after (deeds : List Deed) (account : Account σ) :
    (account.after deeds).fault = account.fault := rfl

@[simp] theorem card_after (deeds : List Deed) (account : Account σ) :
    (account.after deeds).card = account.card := rfl

theorem after_after (deeds deeds' : List Deed) (account : Account σ) :
    (account.after deeds').after deeds = account.after (deeds ++ deeds') := by
  simp [after, List.append_assoc]

theorem calling_ok {op : Card.Operation} {card' : σ} {reply : Card.Reply op}
    {next : Card.Reply op → σ → Account σ}
    (h : machine op card = (.ok reply, card')) :
    calling machine op card next = (next reply card').after [.called op] := by
  simp only [calling, h]

theorem calling_error {op : Card.Operation} {card' : σ} {e : CardError}
    {next : Card.Reply op → σ → Account σ}
    (h : machine op card = (.error e, card')) :
    calling machine op card next =
      ⟨[.called op], some (.card e), card'⟩ := by
  simp only [calling, h]

theorem ofPayload_unknown {code : UInt8}
    (h : ∀ command : ControlCommand, code ≠ command.code) :
    ofPayload machine card [code] =
      ⟨[], some (.protocol (FrameError.unhandledText code)), card⟩ := by
  have h0 : code ≠ 0 := h .powerOff
  have h1 : code ≠ 1 := h .powerOn
  have h2 : code ≠ 2 := h .reset
  have h4 : code ≠ 4 := h .getAtr
  unfold ofPayload
  split <;> simp_all

theorem ofPayload_apdu {apdu : Bytes} (h : apdu.length ≠ 1) :
    ofPayload machine card apdu = exchanging machine apdu card := by
  unfold ofPayload
  split <;> simp_all

@[simp] theorem ofPayloads_nil :
    ofPayloads machine card [] = ⟨[], none, card⟩ := rfl

theorem ofPayloads_cons_of_fault
    (h : (ofPayload machine card payload).fault ≠ none) :
    ofPayloads machine card (payload :: payloads) =
      ofPayload machine card payload := by
  rw [ofPayloads]
  cases hf : (ofPayload machine card payload).fault with
  | some e => rfl
  | none => exact absurd hf h

theorem ofPayloads_cons (h : (ofPayload machine card payload).fault = none) :
    ofPayloads machine card (payload :: payloads) =
      (ofPayloads machine (ofPayload machine card payload).card
        payloads).after (ofPayload machine card payload).deeds := by
  simp only [ofPayloads, h]

/-- Nothing that follows a fault has any effect. -/
theorem ofPayloads_append_of_fault
    (h : (ofPayloads machine card payloads).fault ≠ none) :
    ofPayloads machine card (payloads ++ later) =
      ofPayloads machine card payloads := by
  induction payloads generalizing card with
  | nil => exact absurd rfl h
  | cons payload payloads ih =>
    rw [List.cons_append]
    by_cases hf : (ofPayload machine card payload).fault = none
    · rw [ofPayloads_cons hf] at h
      rw [ofPayloads_cons hf, ofPayloads_cons hf, ih h]
    · rw [ofPayloads_cons_of_fault hf, ofPayloads_cons_of_fault hf]

theorem ofPayloads_append
    (h : (ofPayloads machine card payloads).fault = none) :
    ofPayloads machine card (payloads ++ later) =
      (ofPayloads machine (ofPayloads machine card payloads).card
        later).after (ofPayloads machine card payloads).deeds := by
  induction payloads generalizing card with
  | nil => rfl
  | cons payload payloads ih =>
    rw [List.cons_append]
    by_cases hf : (ofPayload machine card payload).fault = none
    · rw [ofPayloads_cons hf] at h
      rw [ofPayloads_cons hf, ofPayloads_cons hf, ih h, after_after]
      rfl
    · rw [ofPayloads_cons_of_fault hf] at h
      exact absurd h hf

/-- One more frame. -/
theorem ofPayloads_concat
    (h : (ofPayloads machine card payloads).fault = none) :
    ofPayloads machine card (payloads ++ [payload]) =
      (ofPayload machine (ofPayloads machine card payloads).card
        payload).after (ofPayloads machine card payloads).deeds := by
  have hone (card : σ) : ofPayloads machine card [payload] =
      ofPayload machine card payload := by
    by_cases hf : (ofPayload machine card payload).fault = none
    · rw [ofPayloads_cons hf]
      simp [after, ← hf]
    · exact ofPayloads_cons_of_fault hf
  rw [ofPayloads_append h, hone]

/-- What follows a fault in a stream has no effect. -/
theorem ofStream_of_fault {part stream : Bytes} (h : part <+: stream)
    (hf : (ofStream machine card part).fault ≠ none) :
    ofStream machine card stream = ofStream machine card part := by
  obtain ⟨later, hlater⟩ := Frame.drain_prefix h
  rw [ofStream, ← hlater, ofPayloads_append_of_fault hf, ofStream]

/-- What was seen of a part is not changed by what follows. -/
theorem deeds_mono {part stream : Bytes} (h : part <+: stream) :
    (ofStream machine card part).deeds <+:
      (ofStream machine card stream).deeds := by
  by_cases hf : (ofStream machine card part).fault = none
  · obtain ⟨later, hlater⟩ := Frame.drain_prefix h
    rw [ofStream, ofStream, ← hlater, ofPayloads_append hf]
    exact List.prefix_append _ _
  · have heq := congrArg deeds (ofStream_of_fault h hf)
    exact ⟨[], (List.append_nil _).trans heq.symm⟩

theorem fault_of_part {part stream : Bytes} (h : part <+: stream)
    (hf : (ofStream machine card stream).fault = none) :
    (ofStream machine card part).fault = none := by
  by_cases hpart : (ofStream machine card part).fault = none
  · exact hpart
  · rw [ofStream_of_fault h hpart] at hf
    exact hf

/-- Why the work stops, if it does. -/
def verdict (account : Account σ) : Except Stop Unit :=
  match account.fault with
  | none => .ok ()
  | some e => .error (.failure e)

theorem verdict_ne_unwound (account : Account σ) :
    account.verdict ≠ .error .unwound := by
  rw [verdict]
  split <;> simp

/-- Why a session ends that is not told to. -/
def reason (account : Account σ) : ExitReason :=
  match account.fault with
  | none => .peerClosed
  | some e => .failed e.kind

/-- A fault is told to those who watch. -/
def complaint (account : Account σ) : List Deed :=
  match account.fault with
  | none => []
  | some e => [.told (.error e.message)]

/-- A session from beginning to end whose only connection amounts to
`account`. -/
def wound (machine : Dialogue.Machine Card σ) (address : Address)
    (account : Account σ) : Account σ where
  deeds := [.told (.connected address)] ++ account.deeds ++ [.hungUp] ++
    account.complaint ++
    [.called .eject, .told (.disconnected account.reason)]
  fault := account.fault
  card := (machine .eject account.card).2

end Account

end Session

end CardBridge
