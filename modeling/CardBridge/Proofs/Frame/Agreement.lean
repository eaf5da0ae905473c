import CardBridge.Frame.Codec
import CardBridge.Proofs.Frame.Buffer
import CardBridge.Proofs.Frame.Messages

/-!
# Codec, reader and writer agree

A reader never takes more from its stream than the frame in progress needs,
and a codec is handed whatever came. Both give the same frames, however the
stream was cut for the one and for the other, and a codec puts behind a
buffer what a writer puts on the wire.
-/

namespace CardBridge.Frame

open Dialogue CardBridge.Stream

variable {ω : Type} {buffer : Bytes} {rounds : Nat}

/-! ## The codec -/

namespace Codec

theorem calls_of_decode? {payload rest : Bytes}
    (h : decode? buffer = some (payload, rest)) (ended : Bool) :
    calls ended buffer =
      { calls ended rest with
        frames := payload :: (calls ended rest).frames } := by
  have hcall : call ended buffer = (.ok (some payload), rest) := by
    rw [call_eq, h]
  rw [calls]
  split <;> rename_i heq <;> rw [hcall] at heq <;> cases heq
  rfl

theorem calls_of_none (h : decode? buffer = none) (ended : Bool) :
    calls ended buffer = { left := if ended then [] else buffer } := by
  have hcall : call ended buffer =
      (.ok none, if ended then [] else buffer) := by
    rw [call_eq, h]
  rw [calls]
  split <;> rename_i heq <;> rw [hcall] at heq <;> cases heq
  rfl

/-- Asked until it gives none, a codec gives all the complete frames, and no
error. -/
theorem calls_eq (ended : Bool) (buffer : Bytes) :
    calls ended buffer =
      { frames := (drain buffer).1
        left := if ended then [] else (drain buffer).2 } := by
  induction buffer using drain.induct with
  | case1 buffer payload rest h _ _ _ _ ih =>
    rw [calls_of_decode? h, drain_of_decode? h, ih]
  | case2 buffer h =>
    rw [calls_of_none h, drain_of_none h]

theorem drive_eq (buffer : Bytes) (pieces : List Bytes) :
    drive buffer pieces =
      { frames := (drain (buffer ++ pieces.flatten)).1, left := [] } := by
  induction pieces generalizing buffer with
  | nil =>
    rw [drive, calls_eq, List.flatten_nil, List.append_nil]
    rfl
  | cons piece pieces ih =>
    simp only [drive, calls_eq, ih, List.flatten_cons]
    rw [← List.append_assoc, drain_append (buffer ++ piece)]
    rfl

end Codec

/-! ## The reader -/

section

variable {R : Surroundings Stream ω} {w : ω}

/-- The end of the stream leaves nothing behind. -/
theorem keeps_receive_closed (rounds : Nat) (buffer : Bytes) :
    (receive rounds buffer).Keeps R (fun _ _ => True)
      (fun r _ => r.1 = closed → r.2 = []) w := by
  induction rounds generalizing buffer w with
  | zero => trivial
  | succ rounds ih =>
    rw [receive]
    cases hd : decode? buffer with
    | some frame =>
      refine fun hclosed => ?_
      cases hclosed
    | none =>
      refine ⟨trivial, ?_⟩
      intro answer w' _
      rcases answer with cause | (_ | ⟨octet, octets⟩)
      · by_cases hcause : cause.isInterrupted = true
        · simp only [hcause, if_true]
          exact ih _
        · simp only [hcause, Bool.false_eq_true, if_false]
          refine fun hclosed => ?_
          cases hclosed
      · exact fun _ => rfl
      · exact ih _

/-- Nor do calls in a row, the last of which met the end. -/
theorem keeps_receiveTimes_closed (rounds calls : Nat) (buffer : Bytes) :
    (receiveTimes rounds calls buffer).Keeps R (fun _ _ => True)
      (fun r _ => (r.1 = [] → r.2 = buffer) ∧
        ∀ given, r.1 = given ++ [closed] → r.2 = []) w := by
  induction calls generalizing buffer w with
  | zero => exact ⟨fun _ => rfl, fun given h => by simp at h⟩
  | succ calls ih =>
    refine (keeps_receive_closed rounds buffer).bind ?_
    rintro ⟨reading, kept⟩ w hkept
    refine (ih kept).bind ?_
    rintro ⟨later, last⟩ w ⟨hnone, hlater⟩
    refine ⟨nofun, ?_⟩
    intro given hgiven
    cases given with
    | nil =>
      -- the first call was the last
      obtain ⟨hreading, hempty⟩ := List.cons.inj hgiven
      exact (hnone hempty).trans (hkept hreading)
    | cons first given =>
      obtain ⟨-, hgiven⟩ := List.cons.inj hgiven
      exact hlater given hgiven

end

/-- A stream that comes in these pieces and then ends. -/
abbrev cutInto (pieces : List Bytes) : Source :=
  pieces.map .octets

theorem octetsOf_cutInto (pieces : List Bytes) :
    octetsOf (cutInto pieces) = pieces.flatten := by
  induction pieces with
  | nil => rfl
  | cons piece pieces ih =>
    rw [List.flatten_cons, ← ih]
    rfl

theorem readings_cutInto (pieces : List Bytes) :
    readings [] (cutInto pieces) = (drain pieces.flatten).1.map .ok := by
  rw [readings_of_whole, List.nil_append, octetsOf_cutInto]
  intro arrival harrival
  obtain ⟨piece, -, rfl⟩ := List.mem_map.mp harrival
  exact .inl ⟨piece, rfl⟩

/-- One call more than there are frames meets the end. -/
theorem take_frames (payloads : List Bytes) :
    ((payloads.map .ok : List Reading) ++
      List.replicate (payloads.length + 1) closed).take
        (payloads.length + 1) = payloads.map .ok ++ [closed] := by
  rw [List.take_append, List.take_of_length_le (by simp)]
  simp

/-- A reader gives the complete frames and then the end, and has nothing
left. -/
theorem run_receiveTimes_cutInto (pieces : List Bytes)
    (hrounds : Source.span (cutInto pieces) < rounds) :
    ∃ w, (receiveTimes rounds ((drain pieces.flatten).1.length + 1) []).run
        Scripted.handler { source := cutInto pieces } =
      (some ((drain pieces.flatten).1.map .ok ++ [closed], []), w) := by
  obtain ⟨kept, later, hrun⟩ := @run_receiveTimes rounds []
    { source := cutInto pieces } hrounds ((drain pieces.flatten).1.length + 1)
  rw [readings_cutInto, take_frames] at hrun
  obtain ⟨-, hkept⟩ := (keeps_receiveTimes_closed _ _ _).result hrun
  obtain rfl : kept = [] := hkept _ rfl
  exact ⟨_, hrun⟩

/-! ## The writer -/

/-- A writer sends what an item carries. -/
def Order.Sends (order : Order) (item : Item) : Prop :=
  order = .payload item.octets ∨ order = .frame item.octets

theorem Codec.encode_of_fits {item : Item}
    (h : item.octets.length ≤ maxPayload) (buffer : Bytes) :
    Codec.encode item buffer = (.ok (), buffer ++ wire item.octets) :=
  put_of_le h buffer

theorem Codec.encode_of_long {item : Item}
    (h : maxPayload < item.octets.length) (buffer : Bytes) :
    Codec.encode item buffer =
      (.error (.payloadTooLarge item.octets.length maxPayload), buffer) :=
  put_of_lt h buffer

/-- What is encoded does not depend on what the buffer holds. -/
theorem Codec.encode_eq (item : Item) (buffer : Bytes) :
    Codec.encode item buffer =
      ((Codec.encode item []).1, buffer ++ (Codec.encode item []).2) := by
  rcases Nat.lt_or_ge maxPayload item.octets.length with hlong | hfits
  · simp [Codec.encode_of_long hlong]
  · simp [Codec.encode_of_fits hfits]

theorem Order.Sends.refusal {order : Order} {item : Item}
    (h : order.Sends item) : order.refusal = oversize item.octets := by
  rcases h with rfl | rfl <;> rfl

theorem Order.Sends.onWire {order : Order} {item : Item}
    (h : order.Sends item) : order.onWire = wire item.octets := by
  rcases h with rfl | rfl <;> rfl

theorem Order.Sends.perform {order : Order} {item : Item}
    (h : order.Sends item) (rounds : Nat) :
    order.perform rounds = send rounds item.octets := by
  rcases h with rfl | rfl <;> rfl

/-- A call to send an item does what the codec does with it. -/
structure Codec.Agrees (item : Item) (turn : Turn) : Prop where
  /-- What the codec encodes is what the stream is to accept: a part of it at
  any rate, and all of it if the call succeeds. Nothing but the stream can
  make the call fail. -/
  sent : ∀ encoded, Codec.encode item [] = (.ok (), encoded) →
    acceptedIn turn.said <+: encoded ∧
    (turn.result = some (.ok ()) → acceptedIn turn.said = encoded) ∧
    ∀ e, turn.result = some (.error e) → turn.said.findSome? faultOf = some e
  /-- What the codec refuses is refused with the same error, and the stream
  hears nothing of it. -/
  refused : ∀ e, (Codec.encode item []).1 = .error e →
    turn.result = some (.error e) ∧ turn.said = []

theorem Turn.Noted.agrees {item : Item} {turn : Turn}
    (h : turn.Noted rounds) (horder : turn.order.Sends item) :
    Codec.Agrees item turn := by
  constructor
  · intro encoded hencode
    rcases Nat.lt_or_ge maxPayload item.octets.length with hlong | hfits
    · rw [Codec.encode_of_long hlong] at hencode
      cases hencode
    · rw [Codec.encode_of_fits hfits] at hencode
      cases hencode
      have hpart := h.part
      rw [horder.onWire] at hpart
      refine ⟨hpart, ?_, ?_⟩
      · intro hok
        rw [(h.sound.accepted_eq hok).1, horder.onWire]
        rfl
      · intro e herror
        have hnone : turn.order.refusal = none := by
          rw [horder.refusal]
          exact if_pos hfits
        rcases (h.error_iff e).mp herror with hrefusal | hfault
        · rw [hnone] at hrefusal
          cases hrefusal
        · exact hfault
  · intro e hencode
    rcases Nat.lt_or_ge maxPayload item.octets.length with hlong | hfits
    · rw [Codec.encode_of_long hlong] at hencode
      cases hencode
      have hsome : turn.order.refusal =
          some (.payloadTooLarge item.octets.length maxPayload) := by
        rw [horder.refusal]
        exact if_neg (Nat.not_le.mpr hlong)
      refine ⟨(h.error_iff _).mpr (.inl hsome), h.refused ?_⟩
      rw [hsome]
      nofun
    · rw [Codec.encode_of_fits hfits] at hencode
      cases hencode

/-- A call to send an item on a stream of any kind. -/
theorem exists_turn (machine : Machine Stream ω) (rounds : Nat)
    (writer : Writer) (w : ω) {order : Order} {item : Item}
    (horder : order.Sends item) :
    ∃ turn, turns machine rounds [order] writer w = [turn] ∧
      Codec.Agrees item turn ∧
      (Accepting machine → 2 ≤ rounds →
        (Codec.encode item []).1 = .ok () → turn.result = some (.ok ())) := by
  obtain ⟨result, w', said, hperform, hrun, hnoted⟩ :=
    run_carryOut machine rounds writer order w
  refine ⟨⟨order, said, result⟩, ?_, hnoted.agrees horder, ?_⟩
  · cases result with
    | none => simp only [turns, hrun, Option.map_none]
    | some r => simp only [turns, hrun, Option.map_some]
  · intro haccepting hrounds hencode
    rcases Nat.lt_or_ge maxPayload item.octets.length with hlong | hfits
    · rw [Codec.encode_of_long hlong] at hencode
      cases hencode
    · have hok := haccepting.run_send hfits hrounds w
      rw [← horder.perform, hperform] at hok
      exact hok

/-- A codec that is handed a stream in any pieces gives the complete frames
of the stream, as does a reader to which the stream comes in any other
pieces. Neither meets an error but the end, and neither keeps the octets of
an unfinished frame. What a codec puts behind a buffer is what a writer puts
on the wire, and what one of them refuses the other refuses. -/
theorem codec_agrees :
    (∀ (pieces chunks : List Bytes) (rounds : Nat),
      pieces.flatten = chunks.flatten →
      Source.span (cutInto chunks) < rounds →
      ∃ frames tail w, Cuts pieces.flatten frames tail ∧
        Codec.drive [] pieces = { frames, failure := none, left := [] } ∧
        (receiveTimes rounds (frames.length + 1) []).run Scripted.handler
            { source := cutInto chunks } =
          (some (frames.map .ok ++ [closed], []), w)) ∧
    ∀ (item : Item) (order : Order), order.Sends item →
      (∀ buffer, Codec.encode item buffer =
        ((Codec.encode item []).1, buffer ++ (Codec.encode item []).2)) ∧
      ∀ (ω : Type) (machine : Machine Stream ω) (rounds : Nat)
        (writer : Writer) (w : ω),
        ∃ turn, turns machine rounds [order] writer w = [turn] ∧
          Codec.Agrees item turn ∧
          (Accepting machine → 2 ≤ rounds →
            (Codec.encode item []).1 = .ok () →
            turn.result = some (.ok ())) := by
  constructor
  · intro pieces chunks rounds hflatten hrounds
    obtain ⟨w, hrun⟩ := run_receiveTimes_cutInto chunks hrounds
    rw [hflatten]
    refine ⟨_, _, w, cuts_drain chunks.flatten, ?_, hrun⟩
    rw [Codec.drive_eq, List.nil_append, hflatten]
  · intro item order horder
    refine ⟨Codec.encode_eq item, ?_⟩
    intro ω machine rounds writer w
    exact exists_turn machine rounds writer w horder

/-- A frame and half a header, once octet by octet and once in two pieces;
and a response on a stream that accepts everything. -/
theorem codec_agrees_of_two_cuts :
    Source.span (cutInto [[0x00, 0x01, 0x04], [0x00]]) < 8 ∧
    Codec.drive [] [[0x00], [0x01], [0x04], [0x00]] =
      { frames := [[0x04]], left := [] } ∧
    (∃ w, (receiveTimes 8 2 []).run Scripted.handler
        { source := cutInto [[0x00, 0x01, 0x04], [0x00]] } =
      (some ([.ok [0x04], closed], []), w)) ∧
    Accepting boundless ∧
    ∃ turn, turns boundless 2 [.payload [0x90, 0x00]] {} () = [turn] ∧
      turn.result = some (.ok ()) ∧
      acceptedIn turn.said = [0x00, 0x02, 0x90, 0x00] := by
  have hrounds : Source.span (cutInto [[0x00, 0x01, 0x04], [0x00]]) < 8 := by
    decide
  have hone : Cuts [0x00, 0x01, 0x04, 0x00] [[0x04]] [0x00] :=
    ⟨by simp [maxPayload], rfl, decode?_eq_none_iff.mp rfl⟩
  have hmachine : Accepting boundless :=
    ⟨fun _ w => ⟨w, rfl⟩, fun w => ⟨w, rfl⟩⟩
  obtain ⟨frames, tail, w, hcuts, hdrive, hrun⟩ :=
    codec_agrees.1 [[0x00], [0x01], [0x04], [0x00]]
      [[0x00, 0x01, 0x04], [0x00]] 8 rfl hrounds
  obtain ⟨rfl, rfl⟩ := hcuts.unique hone
  obtain ⟨turn, hturn, hagrees, hok⟩ :=
    (codec_agrees.2 (.frame [0x90, 0x00]) (.payload [0x90, 0x00])
      (.inl rfl)).2 Unit boundless 2 {} ()
  have hresult := hok hmachine (Nat.le_refl 2) rfl
  exact ⟨hrounds, hdrive, ⟨w, hrun⟩, hmachine, turn, hturn, hresult,
    (hagrees.sent _ rfl).2.1 hresult⟩

end CardBridge.Frame
