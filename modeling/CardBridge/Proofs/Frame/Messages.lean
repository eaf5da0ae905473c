import Mathlib.Data.List.Basic
import CardBridge.Proofs.Frame.Reading
import CardBridge.Proofs.Frame.Sending

/-!
# Messages

Control commands and APDUs share one kind of frame and are told apart by
length alone. Each direction is stated against the other: what one side sends
with a writer is what the other side reads and understands, message by
message, and everything that can be understood was sent in one way only
(`messages_understood`).
-/

namespace CardBridge

open Dialogue CardBridge.Stream

namespace Request

/-- The requests that get through as what they are. -/
def Sendable : Request → Prop
  | control _ => True
  | apdu command => command.length ≠ 1 ∧ command.length ≤ Frame.maxPayload

variable {request : Request} {payload : Bytes}

theorem Sendable.length_le (h : request.Sendable) :
    request.payload.length ≤ Frame.maxPayload := by
  cases request with
  | control command => exact (by decide : 1 ≤ Frame.maxPayload)
  | apdu command => exact h.2

theorem ofPayload_apdu (h : payload.length ≠ 1) :
    ofPayload payload = .ok (.apdu payload) := by
  unfold ofPayload
  split
  · exact absurd rfl h
  · rfl

/-- A request is understood as what it is. -/
theorem Sendable.ofPayload_payload (h : request.Sendable) :
    ofPayload request.payload = .ok request := by
  cases request with
  | control command =>
    show (ControlCommand.ofCode command.code).map control = _
    rw [ControlCommand.ofCode_code]
    rfl
  | apdu command => exact ofPayload_apdu h.1

theorem map_ofPayload {requests : List Request}
    (h : ∀ request ∈ requests, request.Sendable) :
    (requests.map (·.payload)).map ofPayload = requests.map .ok := by
  rw [List.map_map]
  exact List.map_congr_left fun request hmem =>
    (h request hmem).ofPayload_payload

/-- What is understood has the payload that it was understood from. -/
theorem sendable_of_ofPayload (h : ofPayload payload = .ok request)
    (hfits : payload.length ≤ Frame.maxPayload) :
    request.Sendable ∧ request.payload = payload := by
  by_cases hone : payload.length = 1
  · obtain ⟨code, rfl⟩ := List.length_eq_one_iff.mp hone
    replace h : (ControlCommand.ofCode code).map control = .ok request := h
    cases hcode : ControlCommand.ofCode code with
    | error e =>
      rw [hcode] at h
      cases h
    | ok command =>
      rw [hcode] at h
      cases h
      exact ⟨trivial, by
        rw [Request.payload, ControlCommand.code_of_ofCode hcode]⟩
  · rw [ofPayload_apdu hone] at h
    cases h
    exact ⟨⟨hone, hfits⟩, rfl⟩

end Request

namespace Frame

variable {ω : Type} {machine : Machine Stream ω} {rounds : Nat}
  {messages : List Request} {writer : Writer} {w : ω}

/-! ## Sending -/

/-- A message is sent by the call for its kind. -/
def Order.ofRequest : Request → Order
  | .control command => .control command
  | .apdu octets => .apdu octets

/-- Sends messages by one writer, one after the other. -/
def sendAll (machine : Machine Stream ω) (rounds : Nat)
    (messages : List Request) (writer : Writer) (w : ω) : List Turn :=
  turns machine rounds (messages.map .ofRequest) writer w

/-- No call has failed. -/
def AllSent (sent : List Turn) : Prop :=
  ∀ turn ∈ sent, turn.result = some (.ok ())

/-- The octets that were accepted, call after call. -/
def octetsOver (sent : List Turn) : Bytes :=
  sent.flatMap fun turn => acceptedIn turn.said

theorem onWire_ofRequest (request : Request) :
    (Order.ofRequest request).onWire = wire request.payload := by
  cases request <;> rfl

theorem fit_map (h : ∀ message ∈ messages, message.Sendable) :
    Fit (messages.map (·.payload)) := by
  intro payload hpayload
  obtain ⟨message, hmem, rfl⟩ := List.mem_map.mp hpayload
  exact (h message hmem).length_le

theorem refusal_ofRequest (request : Request) :
    (Order.ofRequest request).refusal = none ↔ request.Sendable := by
  cases request with
  | control command => exact ⟨fun _ => trivial, fun _ => rfl⟩
  | apdu octets => exact refusal_apdu_eq_none_iff octets

theorem Turn.Sound.accepted_eq {turn : Turn} (h : turn.Sound rounds)
    (hok : turn.result = some (.ok ())) :
    acceptedIn turn.said = turn.order.onWire ∧ turn.order.refusal = none := by
  constructor
  · obtain ⟨earlier, hsaid, haccepted⟩ := h.ok_iff.mp hok
    rw [hsaid, acceptedIn_concat, haccepted]
    exact List.append_nil _
  · cases hrefusal : turn.order.refusal with
    | none => rfl
    | some e =>
      have herror := (h.error_iff e).mpr (.inl hrefusal)
      rw [hok] at herror
      cases herror

/-- Messages that were sent are on the wire, and can be understood. -/
theorem AllSent.octets_eq (h : AllSent (sendAll machine rounds messages writer w)) :
    octetsOver (sendAll machine rounds messages writer w) =
        wires (messages.map (·.payload)) ∧
      ∀ message ∈ messages, message.Sendable := by
  obtain ⟨-, hall, hturns⟩ := turns_noted machine rounds
    (messages.map .ofRequest) writer w
  have horders := hall fun turn hmem => by simp [h turn hmem]
  have hturn : ∀ turn ∈ sendAll machine rounds messages writer w,
      acceptedIn turn.said = turn.order.onWire ∧
        turn.order.refusal = none :=
    fun turn hmem => (hturns turn hmem).sound.accepted_eq (h turn hmem)
  constructor
  · calc octetsOver (sendAll machine rounds messages writer w)
        = (sendAll machine rounds messages writer w).flatMap
            (·.order.onWire) :=
          List.flatMap_congr fun turn hmem => (hturn turn hmem).1
      _ = (messages.map Order.ofRequest).flatMap Order.onWire := by
          rw [← horders, List.flatMap_map]
          rfl
      _ = wires (messages.map (·.payload)) := by
          simp only [wires, List.flatMap_map, onWire_ofRequest]
  · intro message hmem
    have hmem := List.mem_map_of_mem (f := Order.ofRequest) hmem
    rw [← horders] at hmem
    obtain ⟨turn, hmem, horder⟩ := List.mem_map.mp hmem
    rw [← refusal_ofRequest message, ← horder]
    exact (hturn turn hmem).2

/-- Nothing is accepted for an order that is turned down. -/
theorem octetsOver_refused {order : Order} (h : order.refusal ≠ none) :
    octetsOver (turns machine rounds [order] writer w) = [] := by
  obtain ⟨hpart, -, hturns⟩ := turns_noted machine rounds [order] writer w
  refine List.flatMap_eq_nil_iff.mpr ?_
  intro turn hmem
  have horder : turn.order = order :=
    List.mem_singleton.mp (hpart.subset (List.mem_map_of_mem hmem))
  rw [(hturns turn hmem).refused (horder ▸ h)]
  rfl

/-- A stream that accepts whatever it is offered. -/
structure Accepting (machine : Machine Stream ω) : Prop where
  send : ∀ offered w, ∃ w', machine (.send offered) w =
    (.ok offered.length, w')
  flush : ∀ w, ∃ w', machine .flush w = (.ok (), w')

theorem Accepting.run_send (h : Accepting machine) {octets : Bytes}
    (hfits : octets.length ≤ maxPayload) (hrounds : 2 ≤ rounds) (w : ω) :
    ((Frame.send rounds octets).run machine.handler.noted (w, [])).1 =
      some (.ok ()) := by
  obtain ⟨rounds, rfl⟩ : ∃ n, rounds = n + 2 := ⟨rounds - 2, by omega⟩
  obtain ⟨high, low, hwire⟩ : ∃ high low,
      wire octets = high :: low :: octets := ⟨_, _, rfl⟩
  obtain ⟨w₁, hsend⟩ := h.send (high :: low :: octets) w
  obtain ⟨w₂, hflush⟩ := h.flush w₁
  rw [send_of_fits hfits, hwire]
  simp [write, Frame.flush, run, Handler.noted, Machine.handler, hsend, hflush]

theorem Accepting.run_perform (h : Accepting machine) {request : Request}
    (hrequest : request.Sendable) (hrounds : 2 ≤ rounds) (w : ω) :
    (((Order.ofRequest request).perform rounds).run machine.handler.noted
      (w, [])).1 = some (.ok ()) := by
  cases request with
  | control command => exact h.run_send hrequest.length_le hrounds w
  | apdu octets =>
    show ((sendApdu rounds octets).run machine.handler.noted (w, [])).1 = _
    rw [sendApdu, if_neg hrequest.1]
    exact h.run_send hrequest.2 hrounds w

/-- Such a stream gets every message that can be understood. -/
theorem Accepting.allSent (h : Accepting machine) (hrounds : 2 ≤ rounds)
    (hmessages : ∀ message ∈ messages, message.Sendable) (writer : Writer)
    (w : ω) : AllSent (sendAll machine rounds messages writer w) := by
  induction messages generalizing writer w with
  | nil => exact List.forall_mem_nil _
  | cons message messages ih =>
    obtain ⟨hmessage, hmessages⟩ := List.forall_mem_cons.mp hmessages
    have hok := h.run_perform hmessage hrounds w
    obtain ⟨result, w', said, hperform, hrun, -⟩ :=
      run_carryOut machine rounds writer (.ofRequest message) w
    rw [hperform] at hok
    obtain rfl : result = some (.ok ()) := hok
    simp only [sendAll, List.map_cons, turns, hrun, Option.map_some]
    exact List.forall_mem_cons.mpr ⟨rfl, ih hmessages _ w'⟩

/-! ## Reading -/

/-- What a reader makes of the frames that a stream gives it. -/
def requestsRead (rounds calls : Nat) (source : Source) :
    Option (List (Except FrameError Request)) :=
  (readTimes rounds calls { source }).map (·.map (· >>= Request.ofPayload))

/-- A source that carries some octets, in any pieces and with any
interruptions, and then ends. -/
structure Carries (source : Source) (octets : Bytes) : Prop where
  octets_eq : octetsOf source = octets
  whole : ∀ arrival ∈ source,
    (∃ chunk, arrival = .octets chunk) ∨ isInterruption arrival = true

theorem readings_of_whole {source : Source}
    (h : ∀ arrival ∈ source,
      (∃ chunk, arrival = .octets chunk) ∨ isInterruption arrival = true)
    (buffer : Bytes) :
    readings buffer source =
      (drain (buffer ++ octetsOf source)).1.map .ok := by
  induction source generalizing buffer with
  | nil => simp [readings, octetsOf]
  | cons arrival source ih =>
    obtain ⟨harrival, hsource⟩ := List.forall_mem_cons.mp h
    cases arrival with
    | octets chunk => simp [readings, octetsOf, ih hsource]
    | failure cause =>
      have hcause : cause.isInterrupted = true := by simpa using harrival
      simpa [readings, octetsOf, hcause] using ih hsource buffer
    | finish => simp at harrival

theorem Carries.readTimes {source : Source} {payloads : List Bytes}
    (h : Carries source (wires payloads)) (hfit : Fit payloads)
    (hrounds : source.span < rounds) (more : Nat) :
    readTimes rounds (payloads.length + more) { source } =
      some (payloads.map .ok ++ List.replicate more closed) := by
  have hreadings : readings [] source = payloads.map .ok := by
    rw [readings_of_whole h.whole, List.nil_append, h.octets_eq,
      drain_wires hfit]
  rw [readTimes_eq { source } _ hrounds, hreadings, List.take_append,
    List.take_of_length_le (by simp)]
  simp

/-- Messages that were sent are read as what they are. -/
theorem Carries.requestsRead {source : Source}
    (h : Carries source (wires (messages.map (·.payload))))
    (hmessages : ∀ message ∈ messages, message.Sendable)
    (hrounds : source.span < rounds) (more : Nat) :
    requestsRead rounds (messages.length + more) source =
      some (messages.map .ok ++
        List.replicate more (.error .connectionClosed)) := by
  have hread := h.readTimes (fit_map hmessages) hrounds more
  rw [List.length_map] at hread
  rw [Frame.requestsRead, hread, Option.map_some, List.map_append,
    List.map_replicate, ← Request.map_ofPayload hmessages, List.map_map]
  rfl

/-! ## Both ways -/

/-- Payloads that are understood are those of one list of messages. -/
theorem exists_messages {payloads : List Bytes} (hfit : Fit payloads)
    (h : ∀ payload ∈ payloads, ∃ request,
      Request.ofPayload payload = .ok request) :
    ∃ messages : List Request, messages.map (·.payload) = payloads ∧
      ∀ message ∈ messages, message.Sendable := by
  induction payloads with
  | nil => exact ⟨[], rfl, List.forall_mem_nil _⟩
  | cons payload payloads ih =>
    obtain ⟨hle, hfit⟩ := fit_cons.mp hfit
    obtain ⟨⟨request, hrequest⟩, hlater⟩ := List.forall_mem_cons.mp h
    obtain ⟨messages, rfl, hmessages⟩ := ih hfit hlater
    obtain ⟨hsendable, rfl⟩ := Request.sendable_of_ofPayload hrequest hle
    exact ⟨request :: messages, rfl,
      List.forall_mem_cons.mpr ⟨hsendable, hmessages⟩⟩

theorem messages_inj {messages' : List Request}
    (hmessages : ∀ message ∈ messages, message.Sendable)
    (hmessages' : ∀ message ∈ messages', message.Sendable)
    (h : messages.map (·.payload) = messages'.map (·.payload)) :
    messages = messages' := by
  have heq := congrArg (·.map Request.ofPayload) h
  simp only [Request.map_ofPayload hmessages,
    Request.map_ofPayload hmessages'] at heq
  exact (List.map_injective_iff.mpr fun _ _ => Except.ok.inj) heq

/-- Messages that were sent by one writer are read and understood as the same
messages, however the stream was cut into reads. Payloads that can all be
understood are those of one list of messages that can be sent, and of no
other. A stream that accepts everything gets every APDU but those of one
octet and those of more than 65535, with nothing said for these. -/
theorem messages_understood :
    (∀ (ω : Type) (machine : Machine Stream ω) (rounds : Nat)
      (messages : List Request) (writer : Writer) (w : ω),
      AllSent (sendAll machine rounds messages writer w) →
      ∀ (source : Source) (patience more : Nat), source.span < patience →
        Carries source
          (octetsOver (sendAll machine rounds messages writer w)) →
        requestsRead patience (messages.length + more) source =
          some (messages.map .ok ++
            List.replicate more (.error .connectionClosed))) ∧
    ∀ (ω : Type) (machine : Machine Stream ω), Accepting machine →
      ∀ (rounds : Nat) (writer : Writer) (w : ω), 2 ≤ rounds →
        (∀ payloads, Fit payloads →
          (∀ payload ∈ payloads, ∃ request,
            Request.ofPayload payload = .ok request) →
          ∃! messages, AllSent (sendAll machine rounds messages writer w) ∧
            octetsOver (sendAll machine rounds messages writer w) =
              wires payloads) ∧
        ∀ apdu : Bytes,
          (AllSent (sendAll machine rounds [.apdu apdu] writer w) ↔
            apdu.length ≠ 1 ∧ apdu.length ≤ 65535) ∧
          (¬ AllSent (sendAll machine rounds [.apdu apdu] writer w) →
            octetsOver (sendAll machine rounds [.apdu apdu] writer w) =
              []) := by
  refine ⟨?_, ?_⟩
  · intro ω machine rounds messages writer w hsent source patience more
      hpatience hcarries
    obtain ⟨hoctets, hmessages⟩ := hsent.octets_eq
    rw [hoctets] at hcarries
    exact hcarries.requestsRead hmessages hpatience more
  · intro ω machine hmachine rounds writer w hrounds
    refine ⟨?_, ?_⟩
    · intro payloads hfit hunderstood
      obtain ⟨messages, rfl, hmessages⟩ := exists_messages hfit hunderstood
      have hsent := hmachine.allSent hrounds hmessages writer w
      refine ⟨messages, ⟨hsent, hsent.octets_eq.1⟩, ?_⟩
      intro messages' hmessages'
      obtain ⟨hsent', hoctets'⟩ := hmessages'
      obtain ⟨hoctets, hsendable⟩ := hsent'.octets_eq
      rw [hoctets] at hoctets'
      have hfit' : Fit (messages'.map (·.payload)) := fit_map hsendable
      exact messages_inj hsendable hmessages (wires_inj hfit' hfit hoctets')
    · intro apdu
      have hiff : AllSent (sendAll machine rounds [.apdu apdu] writer w) ↔
          apdu.length ≠ 1 ∧ apdu.length ≤ 65535 := by
        constructor
        · intro hsent
          exact hsent.octets_eq.2 (.apdu apdu) (List.mem_singleton_self _)
        · intro hsendable
          refine hmachine.allSent hrounds ?_ writer w
          intro message hmessage
          rw [List.mem_singleton.mp hmessage]
          exact hsendable
      refine ⟨hiff, ?_⟩
      intro hrefused
      rw [hiff] at hrefused
      have hrefusal : (Order.apdu apdu).refusal ≠ none := by
        intro hnone
        exact hrefused ((refusal_ofRequest (.apdu apdu)).mp hnone)
      exact octetsOver_refused hrefusal

/-- A stream that accepts everything and gives nothing. -/
def boundless : Machine Stream Unit
  | .receive _, w => (.ok [], w)
  | .send offered, w => (.ok offered.length, w)
  | .flush, w => (.ok (), w)

/-- Power, an empty APDU and one of two octets, read in three pieces with an
interruption. -/
def threeRequests : List Request :=
  [.control .powerOn, .apdu [], .apdu [0x00, 0xa4]]

def threePieces : Source :=
  [.octets [0x00, 0x01], .failure (.ofKind .interrupted),
   .octets [0x01, 0x00, 0x00], .octets [0x00, 0x02, 0x00, 0xa4]]

theorem messages_understood_of_three :
    Accepting boundless ∧ AllSent (sendAll boundless 2 threeRequests {} ()) ∧
      Carries threePieces
        (octetsOver (sendAll boundless 2 threeRequests {} ())) ∧
      requestsRead 20 4 threePieces =
        some (threeRequests.map .ok ++ [.error .connectionClosed]) ∧
      ∃! messages, AllSent (sendAll boundless 2 messages {} ()) ∧
        octetsOver (sendAll boundless 2 messages {} ()) =
          wires [[0x01], [], [0x00, 0xa4]] := by
  have hmachine : Accepting boundless :=
    ⟨fun _ w => ⟨w, rfl⟩, fun w => ⟨w, rfl⟩⟩
  have hsent : AllSent (sendAll boundless 2 threeRequests {} ()) := by
    refine hmachine.allSent (Nat.le_refl 2) ?_ {} ()
    simp [threeRequests, Request.Sendable, maxPayload]
  have hcarries : Carries threePieces
      (octetsOver (sendAll boundless 2 threeRequests {} ())) := by
    refine ⟨rfl, ?_⟩
    simp [threePieces, IoError.ofKind, IoError.isInterrupted]
  have hread := messages_understood.1 Unit boundless 2 threeRequests {} ()
    hsent threePieces 20 1 (by decide) hcarries
  have hunique := (messages_understood.2 Unit boundless hmachine 2 {} ()
    (Nat.le_refl 2)).1 [[0x01], [], [0x00, 0xa4]] (by simp [maxPayload])
    (by simp [Request.ofPayload, ControlCommand.ofCode, ControlCommand.all,
      ControlCommand.code, Except.map])
  exact ⟨hmachine, hsent, hcarries, hread, hunique⟩

end Frame

end CardBridge
