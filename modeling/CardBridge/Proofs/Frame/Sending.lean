import CardBridge.Frame.Writer
import CardBridge.Proofs.Frame.Transfer
import CardBridge.Stream.Scripted

/-!
# Calls on one writer

What the other side of a writer gets to see, call after call, whatever it
does: it may accept any part of what it is offered, fail, be interrupted, and
fail to flush. What a call and the stream said to each other is noted down
exchange by exchange, so each statement is one about those notes
(`Turn.Sound`). Calls that share a writer do not touch each other
(`writer_calls_sound`).
-/

namespace CardBridge.Frame

open Dialogue CardBridge.Stream

variable {ω : Type}

/-! ## One exchange -/

/-- The octets that were accepted. -/
def accepted : Exchange Stream → Bytes
  | ⟨.send offered, .ok most⟩ => offered.take most
  | _ => []

/-- The octets that were accepted, one exchange after the other. -/
def acceptedIn (said : List (Exchange Stream)) : Bytes :=
  said.flatMap accepted

/-- The failure that an exchange means for a writer. An interruption is none,
and a write that accepts nothing is one. -/
def faultOf : Exchange Stream → Option FrameError
  | ⟨.send _, .ok 0⟩ => some .connectionClosed
  | ⟨.send _, .error cause⟩ =>
    if cause.isInterrupted then none else some (.io cause)
  | ⟨.flush, .error cause⟩ =>
    if cause.isInterrupted then none else some (.io cause)
  | _ => none

/-- A write or a flush was interrupted. -/
def interrupts : Exchange Stream → Bool
  | ⟨.send _, .error cause⟩ => cause.isInterrupted
  | ⟨.flush, .error cause⟩ => cause.isInterrupted
  | _ => false

/-- A flush succeeded. -/
def flushes : Exchange Stream → Bool
  | ⟨.flush, .ok ()⟩ => true
  | _ => false

variable {frame pending : Bytes} {said earlier : List (Exchange Stream)}
  {rounds total : Nat}

@[simp] theorem acceptedIn_nil : acceptedIn [] = [] := rfl

@[simp] theorem acceptedIn_concat (said : List (Exchange Stream))
    (exchange : Exchange Stream) :
    acceptedIn (said ++ [exchange]) = acceptedIn said ++ accepted exchange := by
  simp [acceptedIn]

/-! ## One call -/

/-- Nothing has failed yet, and nothing was flushed. -/
def Calm (said : List (Exchange Stream)) : Prop :=
  ∀ exchange ∈ said, faultOf exchange = none ∧ flushes exchange = false

@[simp] theorem calm_nil : Calm [] := by
  intro exchange h
  cases h

theorem Calm.concat (h : Calm said) {exchange : Exchange Stream}
    (hfault : faultOf exchange = none) (hflush : flushes exchange = false) :
    Calm (said ++ [exchange]) := by
  intro exchange' h'
  rcases List.mem_append.mp h' with h' | h'
  · exact h exchange' h'
  · rw [List.mem_singleton.mp h']
    exact ⟨hfault, hflush⟩

/-- What is asked of a stream that has accepted so much of a frame: to accept
the rest of it, or to flush when there is none. -/
def Asked (frame : Bytes) (total : Nat) :
    Option Stream.Ask → List (Exchange Stream) → Prop
  | some (.send offered), said =>
    Calm said ∧ offered ≠ [] ∧ acceptedIn said ++ offered = frame
  | some .flush, said => Calm said ∧ acceptedIn said = frame
  | some (.receive _), _ => False
  | none, said =>
    Calm said ∧ total ≤ frame.length + said.countP interrupts

/-- How a call ends: all was accepted and then flushed, or the last exchange
was the first to fail. -/
def Came (frame : Bytes) :
    Except FrameError Unit → List (Exchange Stream) → Prop
  | .ok (), said => ∃ earlier, Calm earlier ∧
      said = earlier ++ [⟨.flush, .ok ()⟩] ∧ acceptedIn earlier = frame
  | .error e, said => ∃ earlier exchange, Calm earlier ∧
      said = earlier ++ [exchange] ∧ faultOf exchange = some e

/-- A frame on its way, `pending` of which is still to be accepted. Every
exchange has moved an octet or was an interruption. -/
structure Underway (frame : Bytes) (total : Nat) (pending : Bytes)
    (rounds : Nat) (said : List (Exchange Stream)) : Prop where
  calm : Calm said
  eq : acceptedIn said ++ pending = frame
  spent : said.length + rounds = total
  brief : said.length ≤ (acceptedIn said).length + said.countP interrupts

theorem Underway.interrupted {exchange : Exchange Stream}
    (h : Underway frame total pending (rounds + 1) said)
    (hexchange : interrupts exchange = true)
    (hfault : faultOf exchange = none) (hflush : flushes exchange = false)
    (haccepted : accepted exchange = []) :
    Underway frame total pending rounds (said ++ [exchange]) := by
  have hspent := h.spent
  have hbrief := h.brief
  refine ⟨h.calm.concat hfault hflush, ?_, ?_, ?_⟩
  · simpa [haccepted] using h.eq
  · simp only [List.length_append, List.length_singleton]
    omega
  · simp only [acceptedIn_concat, haccepted, List.append_nil,
      List.length_append, List.length_singleton, List.countP_append,
      List.countP_singleton, hexchange, if_true]
    omega

theorem keeps_flush_noting (h : Underway frame total [] rounds said) :
    (flush rounds).Keeps noting (Asked frame total) (Came frame) said := by
  induction rounds generalizing said with
  | zero =>
    have heq := congrArg List.length h.eq
    rw [List.append_nil] at heq
    have hspent := h.spent
    have hbrief := h.brief
    exact ⟨h.calm, by omega⟩
  | succ rounds ih =>
    have heq : acceptedIn said = frame := by simpa using h.eq
    refine ⟨⟨h.calm, heq⟩, ?_⟩
    intro a said' hsaid
    subst hsaid
    match a with
    | .ok () => exact ⟨said, h.calm, rfl, heq⟩
    | .error cause =>
      by_cases hcause : cause.isInterrupted = true
      · simp only [hcause, if_true]
        exact ih (h.interrupted hcause (by simp [faultOf, hcause]) rfl rfl)
      · simp only [hcause, Bool.false_eq_true, if_false]
        exact ⟨said, _, h.calm, rfl, by simp [faultOf, hcause]⟩

theorem keeps_write_noting (h : Underway frame total pending rounds said) :
    (write rounds pending).Keeps noting (Asked frame total) (Came frame)
      said := by
  induction rounds generalizing pending said with
  | zero =>
    have heq := congrArg List.length h.eq
    rw [List.length_append] at heq
    have hspent := h.spent
    have hbrief := h.brief
    exact ⟨h.calm, by omega⟩
  | succ rounds ih =>
    cases pending with
    | nil => exact keeps_flush_noting h
    | cons octet octets =>
      refine ⟨⟨h.calm, List.cons_ne_nil octet octets, h.eq⟩, ?_⟩
      intro a said' hsaid
      subst hsaid
      match a with
      | .ok 0 => exact ⟨said, _, h.calm, rfl, rfl⟩
      | .ok (most + 1) =>
        have hspent := h.spent
        have hbrief := h.brief
        refine ih ⟨h.calm.concat rfl rfl, ?_, ?_, ?_⟩
        · rw [acceptedIn_concat, List.append_assoc]
          show acceptedIn said ++ ((octet :: octets).take (most + 1) ++
            (octet :: octets).drop (most + 1)) = frame
          rw [List.take_append_drop]
          exact h.eq
        · simp only [List.length_append, List.length_singleton]
          omega
        · have hmoved : 0 < ((octet :: octets).take (most + 1)).length := by
            simp
          simp only [acceptedIn_concat, accepted, List.length_append,
            List.length_singleton, List.countP_append]
          omega
      | .error cause =>
        by_cases hcause : cause.isInterrupted = true
        · simp only [hcause, if_true]
          exact ih (h.interrupted hcause (by simp [faultOf, hcause]) rfl rfl)
        · simp only [hcause, Bool.false_eq_true, if_false]
          exact ⟨said, _, h.calm, rfl, by simp [faultOf, hcause]⟩

/-! ## One order -/

/-- Why a payload is not sent. -/
def oversize (octets : Bytes) : Option FrameError :=
  if octets.length ≤ maxPayload then none
  else some (.payloadTooLarge octets.length maxPayload)

/-- Why an order is turned down. -/
def Order.refusal : Order → Option FrameError
  | .payload octets => oversize octets
  | .frame octets => oversize octets
  | .control _ => none
  | .apdu octets =>
    if octets.length = 1 then some .ambiguousApdu else oversize octets
  | .flush => none

theorem oversize_eq_some {octets : Bytes} {e : FrameError}
    (h : oversize octets = some e) :
    maxPayload < octets.length ∧
      e = .payloadTooLarge octets.length maxPayload := by
  rw [oversize] at h
  split at h
  · cases h
  · rename_i hlong
    exact ⟨Nat.not_le.mp hlong, (Option.some.inj h).symm⟩

/-- An APDU is turned down for its length alone. -/
theorem refusal_apdu_eq_none_iff (octets : Bytes) :
    (Order.apdu octets).refusal = none ↔
      octets.length ≠ 1 ∧ octets.length ≤ maxPayload := by
  simp only [Order.refusal, oversize]
  split
  · simp_all
  · split <;> simp_all

theorem refusal_apdu_eq_some {octets : Bytes} {e : FrameError}
    (h : (Order.apdu octets).refusal = some e) :
    e = .ambiguousApdu ∨
      e = .payloadTooLarge octets.length maxPayload := by
  rw [Order.refusal] at h
  split at h
  · exact .inl (Option.some.inj h).symm
  · exact .inr (oversize_eq_some h).2

/-- No order is turned down for a failure of the stream. -/
theorem refusal_ne_io (order : Order) (cause : IoError) :
    order.refusal ≠ some (.io cause) := by
  intro h
  cases order with
  | payload octets | frame octets => cases (oversize_eq_some h).2
  | apdu octets => rcases refusal_apdu_eq_some h with h | h <;> cases h
  | control command | flush => cases h

/-- What has to be accepted for an order that is not turned down. -/
def Order.onWire : Order → Bytes
  | .payload octets => wire octets
  | .frame octets => wire octets
  | .control command => wire [command.code]
  | .apdu octets => wire octets
  | .flush => []

/-- How an order ends: turned down with nothing said, or as its frame does. -/
def Ended (refusal : Option FrameError) (frame : Bytes)
    (result : Except FrameError Unit) (said : List (Exchange Stream)) : Prop :=
  match refusal with
  | some e => result = .error e ∧ said = []
  | none => Came frame result said

theorem underway_opening (frame : Bytes) (rounds : Nat) :
    Underway frame rounds frame rounds [] :=
  ⟨calm_nil, rfl, Nat.zero_add rounds, Nat.zero_le _⟩

theorem keeps_send_noting (rounds : Nat) (octets : Bytes) :
    (send rounds octets).Keeps noting
      (fun q said => oversize octets = none ∧
        Asked (wire octets) rounds q said)
      (Ended (oversize octets) (wire octets)) [] := by
  by_cases hfits : octets.length ≤ maxPayload
  · have hnone : oversize octets = none := if_pos hfits
    rw [send_of_fits hfits, hnone]
    exact (keeps_write_noting (underway_opening _ _)).mono
      (fun q said h => ⟨rfl, h⟩) fun r said h => h
  · have hsome : oversize octets =
        some (.payloadTooLarge octets.length maxPayload) := if_neg hfits
    rw [send, encode, if_neg hfits, hsome]
    exact ⟨rfl, rfl⟩

theorem keeps_order_noting (rounds : Nat) (order : Order) :
    (order.perform rounds).Keeps noting
      (fun q said => order.refusal = none ∧
        Asked order.onWire rounds q said)
      (Ended order.refusal order.onWire) [] := by
  cases order with
  | payload octets => exact keeps_send_noting rounds octets
  | frame octets => exact keeps_send_noting rounds octets
  | control command => exact keeps_send_noting rounds [command.code]
  | apdu octets =>
    by_cases hone : octets.length = 1
    · rw [Order.perform, sendApdu, if_pos hone, Order.refusal, if_pos hone]
      exact ⟨rfl, rfl⟩
    · rw [Order.perform, sendApdu, if_neg hone, Order.refusal, if_neg hone]
      exact keeps_send_noting rounds octets
  | flush =>
    exact (keeps_flush_noting (underway_opening [] rounds)).mono
      (fun q said h => ⟨rfl, h⟩) fun r said h => h

/-! ## Orders in a row -/

/-- One call: what the writer and the stream said to each other, and what the
call gave. It gave nothing if its rounds were not enough. -/
structure Turn where
  order : Order
  said : List (Exchange Stream)
  result : Option (Except FrameError Unit)

/-- Calls on one writer, one after the other, up to one that gives nothing. -/
def turns (machine : Machine Stream ω) (rounds : Nat) :
    List Order → Writer → ω → List Turn
  | [], _, _ => []
  | order :: orders, writer, w =>
    match (writer.carryOut rounds order).run machine.handler.noted (w, []) with
    | (some (result, writer), w, said) =>
      ⟨order, said, some result⟩ :: turns machine rounds orders writer w
    | (none, _, said) => [⟨order, said, none⟩]

/-- What can be said of one call from what the stream noted. -/
structure Turn.Sound (rounds : Nat) (turn : Turn) : Prop where
  part : acceptedIn turn.said <+: turn.order.onWire
  /-- What is offered is what is missing: nothing is lost and nothing is
  repeated, whatever was interrupted. -/
  write : ∀ earlier offered answer later,
    turn.said = earlier ++ ⟨.send offered, answer⟩ :: later →
      offered ≠ [] ∧ acceptedIn earlier ++ offered = turn.order.onWire
  flush : ∀ earlier answer later,
    turn.said = earlier ++ ⟨.flush, answer⟩ :: later →
      acceptedIn earlier = turn.order.onWire
  read : ∀ size answer, ⟨.receive size, answer⟩ ∉ turn.said
  ok_iff : turn.result = some (.ok ()) ↔ ∃ earlier,
    turn.said = earlier ++ [⟨.flush, .ok ()⟩] ∧
      acceptedIn earlier = turn.order.onWire
  error_iff : ∀ e, turn.result = some (.error e) ↔
    turn.order.refusal = some e ∨ turn.said.findSome? faultOf = some e
  /-- An interruption is never what a call gives. -/
  lasting : ∀ cause, turn.result = some (.error (.io cause)) →
    cause.isInterrupted = false
  /-- Nothing is said after the first failure. -/
  stop : ∀ earlier exchange later,
    turn.said = earlier ++ exchange :: later → faultOf exchange ≠ none →
      later = []
  refused : turn.order.refusal ≠ none → turn.said = []
  returns : turn.order.onWire.length + turn.said.countP interrupts < rounds →
    turn.result ≠ none

/-! ## From the notes to the calls -/

theorem accepted_send_part (offered : Bytes) (answer : Except IoError Nat) :
    accepted ⟨.send offered, answer⟩ <+: offered := by
  cases answer with
  | ok most => exact List.take_prefix most offered
  | error cause => exact List.nil_prefix

theorem Calm.findSome? (h : Calm said) : said.findSome? faultOf = none :=
  List.findSome?_eq_none_iff.mpr fun exchange hmem => (h exchange hmem).1

theorem Asked.calm {q : Stream.Ask} (h : Asked frame total (some q) said) :
    Calm said := by
  match q, h with
  | .send _, h => exact h.1
  | .flush, h => exact h.1

theorem Ended.findSome? {e : FrameError}
    (h : Ended none frame (.error e) said) :
    said.findSome? faultOf = some e := by
  obtain ⟨earlier, exchange, hcalm, rfl, hfault⟩ := h
  rw [List.findSome?_append, hcalm.findSome?]
  simp [hfault]

section

variable {turn : Turn}

/-- What the notes of a call keep to, exchange by exchange. -/
structure Turn.Noted (rounds : Nat) (turn : Turn) : Prop where
  asked : ∀ earlier exchange later,
    turn.said = earlier ++ exchange :: later → turn.order.refusal = none ∧
      Asked turn.order.onWire rounds (some exchange.question) earlier
  came : ∀ r, turn.result = some r →
    Ended turn.order.refusal turn.order.onWire r turn.said
  cut : turn.result = none → turn.order.refusal = none ∧
    Asked turn.order.onWire rounds none turn.said

theorem Turn.Noted.part (h : turn.Noted rounds) :
    acceptedIn turn.said <+: turn.order.onWire := by
  rcases List.eq_nil_or_concat turn.said with hsaid | ⟨earlier, exchange, hsaid⟩
  · rw [hsaid]
    exact List.nil_prefix
  · rw [List.concat_eq_append] at hsaid
    obtain ⟨-, hasked⟩ := h.asked earlier exchange [] hsaid
    rw [hsaid, acceptedIn_concat]
    match exchange, hasked with
    | ⟨.send offered, answer⟩, hasked =>
      rw [← hasked.2.2]
      exact (List.prefix_append_right_inj _).mpr
        (accepted_send_part offered answer)
    | ⟨.flush, answer⟩, hasked =>
      rw [← hasked.2]
      simp [accepted]

theorem Turn.Noted.refused (h : turn.Noted rounds)
    (hrefusal : turn.order.refusal ≠ none) : turn.said = [] := by
  cases hsaid : turn.said with
  | nil => rfl
  | cons exchange later =>
    exact absurd (h.asked [] exchange later hsaid).1 hrefusal

theorem Turn.Noted.ok_iff (h : turn.Noted rounds) :
    turn.result = some (.ok ()) ↔ ∃ earlier,
      turn.said = earlier ++ [⟨.flush, .ok ()⟩] ∧
        acceptedIn earlier = turn.order.onWire := by
  constructor
  · intro hresult
    have hcame := h.came _ hresult
    cases hrefusal : turn.order.refusal with
    | some e =>
      rw [hrefusal] at hcame
      cases hcame.1
    | none =>
      rw [hrefusal] at hcame
      obtain ⟨earlier, -, hsaid, haccepted⟩ := hcame
      exact ⟨earlier, hsaid, haccepted⟩
  · intro hsaid
    obtain ⟨earlier, hsaid, -⟩ := hsaid
    obtain ⟨hrefusal, hasked⟩ := h.asked _ _ _ hsaid
    -- no other end leaves a successful flush behind
    cases hresult : turn.result with
    | none =>
      have hcalm : Calm turn.said := (h.cut hresult).2.1
      have hflush := (hcalm ⟨.flush, .ok ()⟩ (by simp [hsaid])).2
      cases hflush
    | some r =>
      cases r with
      | ok => rfl
      | error e =>
        have hcame := h.came _ hresult
        rw [hrefusal] at hcame
        have hfault := hcame.findSome?
        rw [hsaid, List.findSome?_append, hasked.calm.findSome?] at hfault
        cases hfault

theorem Turn.Noted.error_iff (h : turn.Noted rounds) (e : FrameError) :
    turn.result = some (.error e) ↔
      turn.order.refusal = some e ∨ turn.said.findSome? faultOf = some e := by
  constructor
  · intro hresult
    have hcame := h.came _ hresult
    cases hrefusal : turn.order.refusal with
    | some refusal =>
      rw [hrefusal] at hcame
      obtain ⟨he, -⟩ := hcame
      cases he
      exact .inl rfl
    | none =>
      rw [hrefusal] at hcame
      exact .inr hcame.findSome?
  · intro hcause
    cases hresult : turn.result with
    | none =>
      obtain ⟨hrefusal, hcalm, -⟩ := h.cut hresult
      rw [hrefusal, hcalm.findSome?] at hcause
      rcases hcause with hcause | hcause <;> cases hcause
    | some r =>
      have hcame := h.came _ hresult
      rcases hcause with hcause | hcause
      · rw [hcause] at hcame
        rw [hcame.1]
      · -- something was said, so nothing was turned down
        have hrefusal : turn.order.refusal = none := by
          apply Decidable.byContradiction
          intro hrefusal
          rw [h.refused hrefusal] at hcause
          cases hcause
        rw [hrefusal] at hcame
        cases r with
        | ok =>
          obtain ⟨earlier, hcalm, hsaid, -⟩ := hcame
          rw [hsaid, List.findSome?_append, hcalm.findSome?] at hcause
          cases hcause
        | error e' =>
          rw [hcame.findSome?] at hcause
          cases hcause
          rfl

theorem Turn.Noted.lasting (h : turn.Noted rounds) {cause : IoError}
    (hresult : turn.result = some (.error (.io cause))) :
    cause.isInterrupted = false := by
  rcases (h.error_iff _).mp hresult with hrefusal | hfault
  · exact absurd hrefusal (refusal_ne_io turn.order cause)
  · obtain ⟨exchange, -, hfault⟩ := List.exists_of_findSome?_eq_some hfault
    match exchange, hfault with
    | ⟨.send _, .ok 0⟩, hfault => cases hfault
    | ⟨.send _, .error cause'⟩, hfault | ⟨.flush, .error cause'⟩, hfault =>
      simp only [faultOf] at hfault
      split at hfault
      · cases hfault
      · rename_i hcause
        cases hfault
        exact Bool.eq_false_iff.mpr hcause

theorem Turn.Noted.sound (h : turn.Noted rounds) : turn.Sound rounds where
  part := h.part
  write earlier offered answer later hsaid := (h.asked _ _ _ hsaid).2.2
  flush earlier answer later hsaid := (h.asked _ _ _ hsaid).2.2
  read size answer hmem := by
    obtain ⟨earlier, later, hsaid⟩ := List.append_of_mem hmem
    exact (h.asked _ _ _ hsaid).2
  ok_iff := h.ok_iff
  error_iff := h.error_iff
  lasting cause := h.lasting
  stop earlier exchange later hsaid hfault := by
    cases later with
    | nil => rfl
    | cons next later =>
      rw [← List.singleton_append, ← List.append_assoc] at hsaid
      have hcalm := (h.asked _ _ _ hsaid).2.calm
      exact absurd (hcalm exchange (by simp)).1 hfault
  refused := h.refused
  returns hrounds hresult := by
    obtain ⟨-, -, hspent⟩ := h.cut hresult
    omega

end

/-- The notes of one call, and the writer after it. -/
theorem run_carryOut (machine : Machine Stream ω) (rounds : Nat)
    (writer : Writer) (order : Order) (w : ω) :
    ∃ result w' said, (order.perform rounds).run
        machine.handler.noted (w, []) = (result, w', said) ∧
      (writer.carryOut rounds order).run machine.handler.noted (w, []) =
        (result.map (·, writer.after order), w', said) ∧
      Turn.Noted rounds ⟨order, said, result⟩ := by
  obtain ⟨result, w', said, hrun, hparts, hend⟩ :=
    (keeps_order_noting rounds order).run_noted machine w
  refine ⟨result, w', said, hrun, ?_, hparts, ?_, ?_⟩
  · rw [writer.carryOut_eq, run_map, hrun]
    rfl
  · intro r hresult
    obtain rfl : result = some r := hresult
    exact hend
  · intro hresult
    obtain rfl : result = none := hresult
    exact hend

theorem turns_noted (machine : Machine Stream ω) (rounds : Nat)
    (orders : List Order) (writer : Writer) (w : ω) :
    (turns machine rounds orders writer w).map (·.order) <+: orders ∧
      ((∀ turn ∈ turns machine rounds orders writer w, turn.result ≠ none) →
        (turns machine rounds orders writer w).map (·.order) = orders) ∧
      ∀ turn ∈ turns machine rounds orders writer w, turn.Noted rounds := by
  induction orders generalizing writer w with
  | nil => simp [turns]
  | cons order orders ih =>
    obtain ⟨result, w', said, -, hrun, hnoted⟩ :=
      run_carryOut machine rounds writer order w
    cases result with
    | none =>
      simp only [turns, hrun, Option.map_none]
      exact ⟨by simp, fun h => absurd rfl (h _ (List.mem_singleton_self _)),
        by simpa using hnoted⟩
    | some r =>
      obtain ⟨hpart, hall, hturns⟩ := ih (writer.after order) w'
      simp only [turns, hrun, Option.map_some, List.map_cons,
        List.forall_mem_cons]
      exact ⟨(List.prefix_cons_inj order).mpr hpart,
        fun h => congrArg (order :: ·) (hall h.2), hnoted, hturns⟩

/-- Calls on one writer, in any order and on any stream. A call that succeeds
has had its whole frame accepted and then flushed, one that fails has had a
part of it accepted and stopped at the first failure, and one that is turned
down has said nothing. No call comes to its end in another way, none takes
part in what another sends, and each comes to its end after as many rounds as
its frame has octets and the stream interruptions. -/
theorem writer_calls_sound (machine : Machine Stream ω) (rounds : Nat)
    (orders : List Order) (writer : Writer) (w : ω) :
    (turns machine rounds orders writer w).map (·.order) <+: orders ∧
      ((∀ turn ∈ turns machine rounds orders writer w, turn.result ≠ none) →
        (turns machine rounds orders writer w).map (·.order) = orders) ∧
      ∀ turn ∈ turns machine rounds orders writer w, turn.Sound rounds := by
  obtain ⟨hpart, hall, hturns⟩ :=
    turns_noted machine rounds orders writer w
  exact ⟨hpart, hall, fun turn hmem => (hturns turn hmem).sound⟩

/-- Accepts a first octet, is interrupted, accepts the rest; then accepts a
header and nothing more. -/
def hesitantScript : Sink where
  writes := [.ok 1, .error (.ofKind .interrupted), .ok 9, .ok 2, .ok 0]
  flushes := [.error (.ofKind .interrupted)]

/-- A control command, a response that does not get through, an APDU that is
turned down, and a flush. -/
def hesitantTurns : List Turn :=
  turns Scripted.machine 9
    [.control .powerOn, .payload [0x90, 0x00], .apdu [0x00], .flush] {}
    { sink := hesitantScript }

theorem writer_calls_sound_of_hesitant :
    hesitantTurns.map (fun turn => (acceptedIn turn.said, turn.result)) =
      [([0x00, 0x01, 0x01], some (.ok ())),
       ([0x00, 0x02], some (.error .connectionClosed)),
       ([], some (.error .ambiguousApdu)), ([], some (.ok ()))] ∧
    hesitantTurns.map (·.order) =
      [.control .powerOn, .payload [0x90, 0x00], .apdu [0x00], .flush] ∧
    ∃ turn ∈ hesitantTurns, turn.order = .payload [0x90, 0x00] ∧
      turn.Sound 9 := by
  obtain ⟨-, hall, hturns⟩ := writer_calls_sound Scripted.machine 9
    [.control .powerOn, .payload [0x90, 0x00], .apdu [0x00], .flush] {}
    { sink := hesitantScript }
  have hmem : hesitantTurns.get ⟨1, by decide⟩ ∈ hesitantTurns :=
    List.get_mem ..
  exact ⟨rfl, hall (by decide), _, hmem, rfl, hturns _ hmem⟩

end CardBridge.Frame
