import CardBridge.Proofs.Frame.Transfer
import CardBridge.Proofs.Session.Account
import CardBridge.Proofs.Session.Rules

/-!
# Serving a reader

A session that serves a reader over a connection without faults does what
the frames of the stream amount to. The surroundings leave open what the
reader sends, how its stream is cut into pieces, and how much of an answer is
accepted at once; everything that is seen is settled by what was taken of the
stream (`Encounter.Settled`), at each wait for more and at the end.
-/

namespace CardBridge.Session

open Dialogue

/-- A session and the reader that it serves: what was taken from the stream
of the reader, and what is seen. -/
structure Encounter (σ ν : Type) where
  /-- The network. -/
  network : ν
  /-- The card. -/
  card : σ
  /-- The octets that were taken. -/
  taken : Bytes := []
  /-- The end of the stream was met. -/
  ended : Bool := false
  /-- What was seen, in order. -/
  deeds : List Deed := []

namespace Encounter

variable {σ ν α : Type}

/-- Something more is seen. -/
def see (deeds : List Deed) (w : Encounter σ ν) : Encounter σ ν :=
  { w with deeds := w.deeds ++ deeds }

/-- A connection without faults, on which at most `most` octets arrive. -/
def undisturbed (most : Nat) : Surroundings Stream (Encounter σ ν)
  | .receive size, w, a, w' =>
    (∃ octets, octets ≠ [] ∧ octets.length ≤ size ∧
      (w.taken ++ octets).length ≤ most ∧ a = .ok octets ∧
      w' = { w with taken := w.taken ++ octets }) ∨
    (a = .ok [] ∧ w' = { w with ended := true })
  | .send offered, w, a, w' =>
    ∃ accepted, 0 < accepted ∧ accepted ≤ offered.length ∧
      a = .ok accepted ∧ w' = w.see ((offered.take accepted).map .sent)
  | .flush, w, a, w' => a = .ok () ∧ w' = w

/-- What a session is answered that serves a reader over a connection like
`flow`. The token is not used by anyone else. -/
def surroundings (net : Surroundings Network ν) (machine : Machine Card σ)
    (flow : Surroundings Stream (Encounter σ ν)) :
    Surroundings Session (Encounter σ ν)
  | .network q, w, a, w' =>
    ∃ network, net q w.network a network ∧ w' = { w with network }
  | .socket (.stream q), w, a, w' => flow q w a w'
  | .socket .shutdown, w, _, w' => w' = w.see [.hungUp]
  | .socket (.noDelay _), w, a, w' => a = .ok () ∧ w' = w
  | .socket (.readTimeout _), w, a, w' => a = .ok () ∧ w' = w
  | .socket (.writeTimeout _), w, a, w' => a = .ok () ∧ w' = w
  | .socket .duplicate, w, a, w' => a = .ok () ∧ w' = w
  | .card op, w, a, w' =>
    a = .returned (machine op w.card).1 ∧
      w' = { w.see [.called op] with card := (machine op w.card).2 }
  | .token .isCancelled, w, a, w' => a = false ∧ w' = w
  | .token .register, w, a, w' => a = true ∧ w' = w
  | .token .clear, w, _, w' => w' = w
  | .localAddresses, w, _, w' => w' = w
  | .emit event, w, a, w' => a = .returned () ∧ w' = w.see [.told event]
  | .advance _, w, _, w' => w' = w
  | .log _, w, _, w' => w' = w

section

variable (machine : Machine Card σ) (card : σ) (before : List Deed)
  (rest : Encounter σ ν → Prop)

/-- What the octets taken amount to. -/
def account (w : Encounter σ ν) : Account σ :=
  .ofStream machine card w.taken

/-- All that is seen, after what was seen before, is what the octets taken
amount to. -/
structure Settled (w : Encounter σ ν) : Prop where
  card_eq : w.card = (w.account machine card).card
  deeds_eq : w.deeds = before ++ (w.account machine card).deeds

/-- Nothing is asked for while there is something to be done, nothing empty
is asked for or offered, and the rounds are enough, unless the session is at
rest. -/
def Attentive : Option Ask → Encounter σ ν → Prop
  | none, w => rest w
  | some (.socket (.stream (.receive size))), w =>
    0 < size ∧ (w.account machine card).fault = none ∧
      ∃ before, Quiet before ∧ w.Settled machine card before
  | some (.socket (.stream (.send offered))), _ => offered ≠ []
  | some _, _ => True

end

variable {net : Surroundings Network ν} {machine : Machine Card σ}
  {flow : Surroundings Stream (Encounter σ ν)} {most : Nat} {card : σ}
  {before : List Deed} {rest : Encounter σ ν → Prop} {w : Encounter σ ν}
  {rounds : Nat}

theorem Attentive.mono {rest' : Encounter σ ν → Prop} {q : Option Ask}
    (h : Attentive machine card rest q w) (hrest : ∀ w, rest w → rest' w) :
    Attentive machine card rest' q w := by
  match q, h with
  | none, h => exact hrest w h
  | some (.socket (.stream (.receive _))), h => exact h
  | some (.socket (.stream (.send _))), h => exact h
  | some (.socket (.stream .flush)), _ | some (.socket (.noDelay _)), _
  | some (.socket (.readTimeout _)), _ | some (.socket (.writeTimeout _)), _
  | some (.socket .duplicate), _ | some (.socket .shutdown), _
  | some (.network _), _ | some (.card _), _ | some (.token _), _
  | some .localAddresses, _ | some (.emit _), _ | some (.advance _), _
  | some (.log _), _ => trivial

/-! ## One frame -/

/-- All that some frames amount to has happened. -/
def add (account : Account σ) (w : Encounter σ ν) : Encounter σ ν :=
  { w.see account.deeds with card := account.card }

theorem see_see (deeds deeds' : List Deed) (w : Encounter σ ν) :
    (w.see deeds).see deeds' = w.see (deeds ++ deeds') := by
  simp [see, List.append_assoc]

theorem add_after (deeds : List Deed) (account : Account σ)
    (w : Encounter σ ν) :
    w.add (account.after deeds) = (w.see deeds).add account := by
  simp [add, see, Account.after, List.append_assoc]

/-- Where a frame stands when it was carried out: nothing is left of what it
amounts to but the answer, if there is one. -/
def CarriedOut (account : Account σ) (w : Encounter σ ν) :
    Except Stop (Option Bytes) → Encounter σ ν → Prop
  | .ok (some response), w' =>
    w.add account = w'.add (.answering response w'.card) ∧
      account.fault = (Account.answering response w'.card).fault
  | .ok none, w' => w' = w.add account ∧ account.fault = none
  | .error (.failure e), w' => w' = w.add account ∧ account.fault = some e
  -- a card without panics leaves nothing to unwind
  | .error .unwound, _ => False

theorem carriedOut_after {deeds : List Deed} {account : Account σ} :
    CarriedOut (account.after deeds) w =
      CarriedOut account (w.see deeds) := by
  funext r w'
  match r with
  | .ok (some _) => simp only [CarriedOut, add_after, Account.fault_after]
  | .ok none => simp only [CarriedOut, add_after, Account.fault_after]
  | .error (.failure _) =>
    simp only [CarriedOut, add_after, Account.fault_after]
  | .error .unwound => rfl

section

variable {P : Option Ask → Encounter σ ν → Prop}

/-- The card is called, and whatever comes of it is what it amounts to. -/
theorem keeps_calling {op : Card.Operation}
    {f : Card.Reply op → Serving (Option Bytes)}
    {next : Card.Reply op → σ → Account σ} (hP : P (some (.card op)) w)
    (hnext : ∀ reply (w' : Encounter σ ν),
      (f reply).run.Keeps (surroundings net machine flow) P
        (CarriedOut (next reply w'.card) w') w') :
    (onCard op >>= f).run.Keeps (surroundings net machine flow) P
      (CarriedOut (.calling machine op w.card next) w) w := by
  rw [keeps_run_bind]
  refine keeps_onCard.mpr ⟨hP, ?_⟩
  intro _ _ h
  obtain ⟨rfl, rfl⟩ := h
  cases hm : machine op w.card with
  | mk result card =>
    cases result with
    | ok reply =>
      rw [Account.calling_ok hm, carriedOut_after]
      exact hnext reply { w.see [.called op] with card }
    | error e =>
      rw [Account.calling_error hm]
      exact ⟨rfl, rfl⟩

theorem keeps_told {event : Event} {Q : Except Stop Unit → Encounter σ ν → Prop}
    (hP : P (some (.emit event)) w) (hQ : Q (.ok ()) (w.see [.told event])) :
    (emit event).run.Keeps (surroundings net machine flow) P Q w := by
  refine keeps_emit.mpr ⟨hP, ?_⟩
  rintro _ _ ⟨rfl, rfl⟩
  exact hQ

theorem keeps_telling {event : Event} {f : Unit → Serving α}
    {Q : Except Stop α → Encounter σ ν → Prop} (hP : P (some (.emit event)) w)
    (hnext : (f ()).run.Keeps (surroundings net machine flow) P Q
      (w.see [.told event])) :
    (emit event >>= f).run.Keeps (surroundings net machine flow) P Q w := by
  rw [keeps_run_bind]
  exact keeps_told hP hnext

variable (hcard : ∀ op w, P (some (.card op)) w)
  (hemit : ∀ event w, P (some (.emit event)) w)

include hcard hemit

theorem keeps_control (command : ControlCommand) :
    (control command).run.Keeps (surroundings net machine flow) P
      (CarriedOut (.ofPayload machine w.card [command.code]) w) w := by
  cases command with
  | powerOff =>
    refine keeps_calling (hcard _ _) fun _ w => ?_
    refine keeps_telling (hemit _ _) ?_
    exact ⟨rfl, rfl⟩
  | powerOn =>
    rw [control, powerOn, bind_assoc]
    refine keeps_calling (hcard _ _) fun _ w => ?_
    rw [bind_assoc]
    refine keeps_telling (hemit _ _) ?_
    rw [bind_assoc, carriedOut_after]
    refine keeps_calling (hcard _ _) fun atr w => ?_
    refine keeps_telling (hemit _ _) ?_
    exact ⟨rfl, rfl⟩
  | reset =>
    refine keeps_calling (hcard _ _) fun _ w => ?_
    refine keeps_telling (hemit _ _) ?_
    exact ⟨rfl, rfl⟩
  | getAtr =>
    refine keeps_calling (hcard _ _) fun atr w => ?_
    exact ⟨rfl, rfl⟩

theorem keeps_transmit (apdu : Bytes) :
    (transmit apdu >>= fun response => pure (some response)).run.Keeps
      (surroundings net machine flow) P
      (CarriedOut (.exchanging machine apdu w.card) w) w := by
  rw [transmit, bind_assoc, Account.exchanging,
    carriedOut_after]
  refine keeps_telling (hemit _ _) ?_
  rw [bind_assoc]
  refine keeps_calling (hcard _ _) fun response w => ?_
  rw [bind_assoc, carriedOut_after]
  refine keeps_telling (hemit _ _) ?_
  exact ⟨rfl, rfl⟩

/-- A frame is carried out as what it amounts to. -/
theorem keeps_dispatch (payload : Bytes) :
    (dispatch payload).run.Keeps (surroundings net machine flow) P
      (CarriedOut (.ofPayload machine w.card payload) w) w := by
  rw [dispatch, keeps_run_bind, keeps_orFail]
  by_cases hlen : payload.length = 1
  · -- one octet is a command, or else it is not known
    obtain ⟨code, rfl⟩ := List.length_eq_one_iff.mp hlen
    cases hcode : ControlCommand.ofCode code with
    | ok command =>
      have hrequest : Request.ofPayload [code] = .ok (.control command) := by
        rw [Request.ofPayload, hcode]
        rfl
      rw [hrequest, ← ControlCommand.code_of_ofCode hcode]
      exact keeps_control hcard hemit command
    | error e =>
      obtain ⟨rfl, hunknown⟩ := ControlCommand.ofCode_eq_error hcode
      have hrequest : Request.ofPayload [code] =
          .error (.unhandledCommand code) := by
        rw [Request.ofPayload, hcode]
        rfl
      rw [hrequest, Account.ofPayload_unknown hunknown]
      exact ⟨by simp [add, see], rfl⟩
  · have hrequest : Request.ofPayload payload = .ok (.apdu payload) := by
      unfold Request.ofPayload
      split <;> simp_all
    rw [hrequest, Account.ofPayload_apdu hlen]
    exact keeps_transmit hcard hemit payload

end

/-! ## A stream of frames -/

/-- The octets of a response are accepted, in however many parts. -/
theorem keeps_answer {P : Option Ask → Encounter σ ν → Prop}
    (hsend : ∀ octet octets w,
      P (some (.socket (.stream (.send (octet :: octets))))) w)
    (hflush : ∀ w, P (some (.socket (.stream .flush))) w)
    (hrounds : Frame.headerSize + Frame.maxPayload < rounds)
    (response : Bytes) :
    (answer rounds response).run.Keeps
      (surroundings net machine (undisturbed most)) P
      (fun r w' => r = (Account.answering response w.card).verdict ∧
        w' = w.add (.answering response w.card)) w := by
  rw [answer]
  by_cases hlen : response.length ≤ Frame.maxPayload
  · have hacc : Account.answering response w.card =
        ⟨(Frame.wire response).map .sent, none, w.card⟩ := by
      rw [Account.answering, if_pos hlen]
    simp only [gt_iff_lt, Nat.not_lt.mpr hlen, if_false,
      keeps_run_bind, keeps_onSocket, keeps_talk, keeps_orFail,
      Frame.send_of_fits hlen, hacc]
    -- what was accepted so far, and what is pending, make up the frame
    refine Frame.keeps_write
      (fun pending w' => ∃ accepted, Frame.wire response =
        accepted ++ pending ∧ w' = w.see (accepted.map .sent))
      (fun octet octets w _ => hsend octet octets w) ?_ ?_
      ⟨[], rfl, by simp [see]⟩ ?_
    · intro octet octets _ _ _ hJ hr
      obtain ⟨sent, hsent, rfl⟩ := hJ
      obtain ⟨accepted, hpos, hle, rfl, rfl⟩ := hr
      refine ⟨hpos, sent ++ (octet :: octets).take accepted, ?_, ?_⟩
      · rw [List.append_assoc, List.take_append_drop, hsent]
      · rw [see_see, List.map_append]
    · intro _ hr
      obtain ⟨sent, hsent, rfl⟩ := hr
      refine ⟨hflush _, ?_⟩
      intro _ _ ha
      obtain ⟨rfl, rfl⟩ := ha
      refine ⟨rfl, ?_⟩
      rw [hsent, List.append_nil]
      rfl
    · simp only [Frame.length_wire, Frame.headerSize] at hrounds ⊢
      omega
  · -- nothing is sent of a response that does not fit
    have hacc : Account.answering response w.card = ⟨[], some (.protocol
        s!"response of {response.length} bytes does not fit a frame"),
        w.card⟩ := by
      rw [Account.answering, if_neg hlen]
    simp only [gt_iff_lt, Nat.not_le.mp hlen, if_true, keeps_run_bind,
      keeps_fail, hacc]
    exact ⟨rfl, by simp [add, see]⟩

section

variable (machine card before)

/-- The frames of the stream were carried out: all of them, up to the first
that is at fault. -/
structure Exchanged (r : Except Stop Unit) (w : Encounter σ ν) : Prop where
  settled : w.Settled machine card before
  verdict : r = (w.account machine card).verdict
  all : (w.account machine card).fault = none → w.ended = true

end

section

variable (most machine card before)

/-- Between two frames, or inside one: the frames before it were carried
out without a fault, and this much of it was taken. -/
structure Midway (payloads : List Bytes) (buffer : Bytes)
    (w : Encounter σ ν) : Prop where
  fit : Frame.Fit payloads
  taken_eq : w.taken = Frame.wires payloads ++ buffer
  length : w.taken.length ≤ most
  fault : (Account.ofPayloads machine card payloads).fault = none
  card_eq : w.card = (Account.ofPayloads machine card payloads).card
  deeds_eq : w.deeds =
    before ++ (Account.ofPayloads machine card payloads).deeds

end

section

variable {payloads : List Bytes} {buffer payload rest : Bytes}

theorem midway_nil (h : w.taken = []) :
    Midway machine most w.card w.deeds [] [] w := by
  refine ⟨Frame.fit_nil, h, ?_, rfl, rfl, (List.append_nil _).symm⟩
  simp [h]

/-- There are no more frames than octets. -/
theorem Midway.length_le
    (h : Midway machine most card before payloads buffer w) :
    payloads.length ≤ most := by
  have hframes := Frame.two_mul_length_le_wires payloads
  have htaken := h.length
  rw [h.taken_eq, List.length_append] at htaken
  omega

theorem Midway.account_eq
    (h : Midway machine most card before payloads buffer w)
    (hbuffer : Frame.decode? buffer = none) :
    w.account machine card = Account.ofPayloads machine card payloads := by
  rw [account, Account.ofStream, h.taken_eq,
    Frame.drain_of_unfinished h.fit hbuffer]

theorem Midway.settled
    (h : Midway machine most card before payloads buffer w)
    (hbuffer : Frame.decode? buffer = none) :
    w.Settled machine card before ∧ (w.account machine card).fault = none := by
  rw [h.account_eq hbuffer]
  exact ⟨⟨by rw [h.account_eq hbuffer, h.card_eq],
    by rw [h.account_eq hbuffer, h.deeds_eq]⟩, h.fault⟩

/-- More of the frame is taken. -/
theorem Midway.take {octets : Bytes}
    (h : Midway machine most card before payloads buffer w)
    (hoctets : (w.taken ++ octets).length ≤ most) :
    Midway machine most card before payloads (buffer ++ octets)
      { w with taken := w.taken ++ octets } := by
  refine ⟨h.fit, ?_, hoctets, h.fault, h.card_eq, h.deeds_eq⟩
  rw [h.taken_eq, List.append_assoc]

theorem Midway.concat
    (h : Midway machine most card before payloads
      (Frame.wire payload ++ rest) w) :
    Account.ofPayloads machine card (payloads ++ [payload]) =
      (Account.ofPayload machine w.card payload).after
        (Account.ofPayloads machine card payloads).deeds := by
  rw [h.card_eq]
  exact Account.ofPayloads_concat h.fault

/-- A frame was carried out without a fault. -/
theorem Midway.next
    (h : Midway machine most card before payloads
      (Frame.wire payload ++ rest) w)
    (hlen : payload.length ≤ Frame.maxPayload)
    (hfault : (Account.ofPayload machine w.card payload).fault = none) :
    Midway machine most card before (payloads ++ [payload]) rest
      (w.add (.ofPayload machine w.card payload)) := by
  refine ⟨?_, ?_, h.length, ?_, ?_, ?_⟩
  · simpa using ⟨h.fit, hlen⟩
  · show w.taken = _
    rw [h.taken_eq]
    simp
  · rw [h.concat, Account.fault_after, hfault]
  · rw [h.concat]
    rfl
  · rw [h.concat]
    simp [add, see, Account.after, h.deeds_eq]

/-- A frame was carried out, and the work stops at its fault. -/
theorem Midway.stop {e : SessionError}
    (h : Midway machine most card before payloads
      (Frame.wire payload ++ rest) w)
    (hlen : payload.length ≤ Frame.maxPayload)
    (hfault : (Account.ofPayload machine w.card payload).fault = some e) :
    Exchanged machine card before (.error (.failure e))
      (w.add (.ofPayload machine w.card payload)) := by
  have hfit : Frame.Fit (payloads ++ [payload]) := by
    simpa using ⟨h.fit, hlen⟩
  have htaken : w.taken = Frame.wires (payloads ++ [payload]) ++ rest := by
    rw [h.taken_eq]
    simp
  have haccount : (w.add (.ofPayload machine w.card payload)).account
      machine card =
        Account.ofPayloads machine card (payloads ++ [payload]) := by
    -- the frames that follow the one at fault do not count
    rw [account, Account.ofStream, show (w.add _).taken = w.taken from rfl,
      htaken, Frame.drain_wires_append hfit,
      Account.ofPayloads_append_of_fault]
    simp [h.concat, hfault]
  refine ⟨⟨?_, ?_⟩, ?_, ?_⟩
  · rw [haccount, h.concat]
    rfl
  · rw [haccount, h.concat]
    simp [add, see, Account.after, h.deeds_eq]
  · rw [haccount, h.concat, Account.verdict, Account.fault_after, hfault]
  · simp [haccount, h.concat, hfault]

/-- The stream has ended. -/
theorem Midway.finish
    (h : Midway machine most card before payloads buffer w)
    (hbuffer : Frame.decode? buffer = none) :
    Exchanged machine card before (.ok ()) { w with ended := true } := by
  obtain ⟨⟨hcard, hdeeds⟩, hfault⟩ := h.settled hbuffer
  refine ⟨⟨hcard, hdeeds⟩, ?_, fun _ => rfl⟩
  show _ = (w.account machine card).verdict
  rw [Account.verdict, hfault]

end

/-- A frame is carried out and answered. -/
theorem keeps_frame {payload : Bytes} {next : Serving Unit}
    (hrounds : Frame.headerSize + Frame.maxPayload < rounds)
    {Q : Except Stop Unit → Encounter σ ν → Prop}
    (hok : (Account.ofPayload machine w.card payload).fault = none →
      next.run.Keeps (surroundings net machine (undisturbed most))
        (Attentive machine card rest) Q
        (w.add (.ofPayload machine w.card payload)))
    (herror : ∀ e, (Account.ofPayload machine w.card payload).fault = some e →
      Q (.error (.failure e)) (w.add (.ofPayload machine w.card payload))) :
    (do if let some response ← dispatch payload then
          answer rounds response
        next : Serving Unit).run.Keeps
      (surroundings net machine (undisturbed most))
      (Attentive machine card rest) Q w := by
  refine (keeps_dispatch (fun _ _ => trivial) (fun _ _ => trivial)
    payload).run_bind ?_
  intro r w' hr
  match r, hr with
  | .ok (some response), ⟨hadd, hfault⟩ =>
    refine (keeps_answer (fun _ _ _ => List.cons_ne_nil _ _)
      (fun _ => trivial) hrounds response).run_bind ?_
    intro r w'' h
    obtain ⟨rfl, rfl⟩ := h
    -- the fault of the frame is the fault of its answer
    rw [← hadd, Account.verdict, ← hfault]
    cases hf : (Account.ofPayload machine w.card payload).fault with
    | none => exact hok hf
    | some e => exact herror e hf
  | .ok none, ⟨hw', hfault⟩ =>
    rw [hw']
    exact hok hfault
  | .error (.failure e), ⟨hw', hfault⟩ =>
    rw [hw']
    exact herror e hfault

/-- Frames are carried out one after the other, up to the end of the stream
or to the first fault. -/
theorem keeps_exchange {left : Nat} {payloads : List Bytes} {buffer : Bytes}
    (hrounds : Frame.headerSize + Frame.maxPayload < rounds)
    (h : Midway machine most card before payloads buffer w)
    (hquiet : Quiet before) (hleft : most < left + payloads.length) :
    (exchange rounds left buffer).run.Keeps
      (surroundings net machine (undisturbed most)) (Attentive machine card rest)
      (Exchanged machine card before) w := by
  -- each round carries out one frame, and frames are not more than octets
  induction left generalizing payloads buffer w with
  | zero =>
    have hframes := h.length_le
    omega
  | succ left ih =>
    rw [exchange, keeps_run_bind, keeps_onSocket, keeps_talk]
    refine Frame.keeps_receive
      (Midway machine most card before payloads) ?_ ?_ ?_ h (by omega)
      (by omega)
    · intro buffer w h hbuffer
      obtain ⟨hsettled, hfault⟩ := h.settled hbuffer
      exact ⟨Frame.wanted_pos buffer, hfault, before, hquiet, hsettled⟩
    · intro buffer w a w' h hbuffer hr
      rcases hr with ⟨octets, hne, -, hoctets, rfl, rfl⟩ | ⟨rfl, rfl⟩
      · cases octets with
        | nil => exact absurd rfl hne
        | cons octet octets => exact h.take hoctets
      · exact h.finish hbuffer
    · intro buffer w payload rest h hd
      obtain ⟨hlen, rfl⟩ := Frame.decode?_eq_some_iff.mp hd
      refine keeps_frame hrounds (fun hfault => ?_) fun e hfault => ?_
      · refine ih (h.next hlen hfault) ?_
        rw [List.length_append, List.length_singleton]
        omega
      · exact h.stop hlen hfault

end Encounter

end CardBridge.Session
