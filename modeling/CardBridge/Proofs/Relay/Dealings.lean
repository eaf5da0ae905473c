import CardBridge.Card.Remote
import CardBridge.Proofs.Frame.Sending
import CardBridge.Proofs.Relay.Errands
import CardBridge.Proofs.Relay.Peer

/-!
# Dealings with a remote card

Operations on a remote card, one after the other, over a connection whose
peer follows a script. An operation takes one of five courses (`Course`), and
what each of them does to the connection keeps the two streams in step with
the operations made so far (`Standing`).
-/

namespace CardBridge

open Dialogue Session.Account CardBridge.Stream CardBridge.Frame Transport

namespace Dialogue

variable {I J : Interface} {σ ω : Type}

/-- One question, with the surroundings before and after it. It has no answer
if none ever comes. -/
structure Dealing (I : Interface) (ω : Type) where
  question : I.Ask
  answer : Option (I.Answer question)
  before : ω
  after : ω

def dealing (handle : Handler I ω) (q : I.Ask) (w : ω) : Dealing I ω :=
  ⟨q, (handle q w).1, w, (handle q w).2⟩

/-- Questions one after the other, up to one that is never answered. -/
def dealings (handle : Handler I ω) : List I.Ask → ω → List (Dealing I ω)
  | [], _ => []
  | q :: qs, w =>
    let first := dealing handle q w
    first :: if first.answer.isSome then dealings handle qs first.after else []

def questions (ds : List (Dealing I ω)) : List I.Ask :=
  ds.map (·.question)

@[simp] theorem questions_nil :
    questions ([] : List (Dealing I ω)) = [] := rfl

@[simp] theorem questions_concat (ds : List (Dealing I ω))
    (d : Dealing I ω) :
    questions (ds ++ [d]) = questions ds ++ [d.question] := by
  simp [questions]

section

variable {handle : Handler I ω} {qs : List I.Ask} {w : ω}

/-- All questions are asked, unless one of them is never answered. -/
theorem questions_dealings (handle : Handler I ω) (qs : List I.Ask) (w : ω) :
    questions (dealings handle qs w) <+: qs ∧
      ((∀ d ∈ dealings handle qs w, d.answer ≠ none) →
        questions (dealings handle qs w) = qs) := by
  induction qs generalizing w with
  | nil => exact ⟨List.prefix_rfl, fun _ => rfl⟩
  | cons q qs ih =>
    rw [dealings]
    cases hanswer : (dealing handle q w).answer with
    | none =>
      refine ⟨(List.prefix_append [q] qs), ?_⟩
      intro h
      exact absurd hanswer (h _ (List.mem_cons_self ..))
    | some answer =>
      obtain ⟨hpart, hall⟩ := ih (dealing handle q w).after
      refine ⟨List.cons_prefix_cons.mpr ⟨rfl, hpart⟩, ?_⟩
      intro h
      exact congrArg (q :: ·) (hall fun d hd => h d (List.mem_cons_of_mem _ hd))

/-- What each dealing keeps in view of those before it holds at every point of
a history. -/
theorem dealings_keep {Inv : List (Dealing I ω) → ω → Prop}
    (hstep : ∀ earlier q w, Inv earlier w →
      (dealing handle q w).answer ≠ none →
      Inv (earlier ++ [dealing handle q w]) (dealing handle q w).after)
    {done : List (Dealing I ω)} (h : Inv done w)
    {earlier later : List (Dealing I ω)} {d : Dealing I ω}
    (hds : dealings handle qs w = earlier ++ d :: later) :
    d = dealing handle d.question d.before ∧ Inv (done ++ earlier) d.before ∧
      (d.answer = none → later = []) := by
  induction qs generalizing done w earlier with
  | nil => simp [dealings] at hds
  | cons q qs ih =>
    rw [dealings] at hds
    cases earlier with
    | nil =>
      obtain ⟨rfl, rfl⟩ := List.cons.inj hds
      refine ⟨rfl, by simpa [dealing] using h, ?_⟩
      intro hnone
      simp [hnone]
    | cons first earlier =>
      obtain ⟨rfl, hrest⟩ := List.cons.inj hds
      cases hanswer : (dealing handle q w).answer with
      | none => simp [hanswer] at hrest
      | some answer =>
        have hkept := hstep done q w h (by simp [hanswer])
        simpa using ih hkept (by simpa [hanswer] using hrest)

end

/-- What an operation of a layer comes to, from how its procedure ends. -/
theorem dealing_of_run {layer : Layer I J σ} {handle : Handler I ω}
    {q : J.Ask} {answer : J.Answer q} {s s' : σ} {w w' : ω}
    (h : (layer q s).run handle w = (some (answer, s'), w')) :
    dealing (layer.over handle) q (s, w) =
      ⟨q, some answer, (s, w), (s', w')⟩ := by
  simp [dealing, Layer.over, h]

theorem dealing_of_stuck {layer : Layer I J σ} {handle : Handler I ω}
    {q : J.Ask} {s : σ} {w w' : ω}
    (h : (layer q s).run handle w = (none, w')) :
    dealing (layer.over handle) q (s, w) = ⟨q, none, (s, w), (s, w')⟩ := by
  simp [dealing, Layer.over, h]

end Dialogue

namespace Card

variable {op : Operation} {ops : List Operation}

instance (op : Operation) : Decidable op.Relayable :=
  match op with
  | .transmit apdu =>
    inferInstanceAs (Decidable (apdu.length ≠ 1 ∧ apdu.length ≤ maxPayload))
  | .eject => .isFalse id
  | .powerOn | .powerOff | .reset | .atr => .isTrue trivial

theorem Operation.Relayable.ne_eject (h : op.Relayable) : op ≠ .eject := by
  rintro rfl
  exact h

theorem Operation.Relayable.length_payload_le (h : op.Relayable) :
    op.payload.length ≤ maxPayload := by
  have hfit : Fit ([op].map (·.payload)) := fit_payloads (by simpa using h)
  exact hfit op.payload (List.mem_singleton_self _)

/-- The operations of which the far card is told: those that can be carried
out from afar, before it is ejected. -/
def told : List Operation → List Operation
  | [] => []
  | .eject :: _ => []
  | op :: ops => if op.Relayable then op :: told ops else told ops

/-- The operations that the far card is expected to answer. -/
def asked (ops : List Operation) : List Operation :=
  (told ops).filter (·.isAwaited)

/-- An operation that waits for a frame, if it comes after some others. -/
structure Awaits (earlier : List Operation) (op : Operation) : Prop where
  unejected : .eject ∉ earlier
  relayable : op.Relayable
  awaited : op.isAwaited = true

theorem told_append (ops later : List Operation) :
    told (ops ++ later) =
      told ops ++ if .eject ∈ ops then [] else told later := by
  induction ops with
  | nil => simp [told]
  | cons op ops ih =>
    cases op with
    | transmit apdu =>
      by_cases hop : (Operation.transmit apdu).Relayable
      · simp [told, hop, ih]
      · simp [told, hop, ih]
    | eject => simp [told]
    | _ => simp [told, ih, Operation.Relayable]

theorem told_concat_of_mem (h : .eject ∈ ops) (op : Operation) :
    told (ops ++ [op]) = told ops := by
  rw [told_append, if_pos h, List.append_nil]

theorem told_concat_of_not_relayable (ops : List Operation)
    (hop : ¬ op.Relayable) : told (ops ++ [op]) = told ops := by
  have hnone : told [op] = [] := by
    cases op with
    | transmit apdu => simp [told, hop]
    | eject => rfl
    | _ => exact absurd trivial hop
  rw [told_append, hnone, ite_self, List.append_nil]

theorem told_concat_of_relayable (h : .eject ∉ ops) (hop : op.Relayable) :
    told (ops ++ [op]) = told ops ++ [op] := by
  rw [told_append, if_neg h]
  cases op with
  | eject => exact absurd hop id
  | _ => simp [told, hop]

theorem asked_concat_of_awaits (h : Awaits ops op) :
    asked (ops ++ [op]) = asked ops ++ [op] := by
  rw [asked, told_concat_of_relayable h.unejected h.relayable,
    List.filter_append]
  simp [asked, h.awaited]

theorem asked_concat_of_not_awaits (h : ¬ Awaits ops op) :
    asked (ops ++ [op]) = asked ops := by
  by_cases hops : .eject ∈ ops
  · rw [asked, told_concat_of_mem hops, asked]
  by_cases hop : op.Relayable
  · have hawaited : op.isAwaited ≠ true := fun hawaited =>
      h ⟨hops, hop, hawaited⟩
    rw [asked, told_concat_of_relayable hops hop, List.filter_append]
    simp [asked, hawaited]
  · rw [asked, told_concat_of_not_relayable ops hop, asked]

/-- What an operation that waits for a frame gives. -/
def heard : (op : Operation) → Answer op → Option (Except CardError Bytes)
  | .atr, answer => some answer
  | .transmit _, answer => some answer
  | _, _ => none

theorem heard_of_not_awaited (h : op.isAwaited = false) (answer : Answer op) :
    heard op answer = none := by
  cases op with
  | atr => cases h
  | transmit apdu => cases h
  | _ => rfl

theorem heard_error (op : Operation) (e : CardError) :
    heard op (.error e) = if op.isAwaited then some (.error e) else none := by
  cases op <;> rfl

end Card

namespace Remote

open Card

variable {card : Remote} {w : Link} {op : Operation} {rounds : Nat}
  {payload : Bytes}

/-- A remote card over a connection to a scripted peer. -/
def linked (rounds : Nat) : Handler Card (Remote × Link) :=
  Dialogue.Layer.over (perform rounds) Link.handler

theorem run_tell (hshut : w.shut = false) (hsink : w.stream.sink.Obliging)
    (hfits : payload.length ≤ maxPayload)
    (hrounds : w.span maxPayload ≤ rounds) :
    ∃ sink, (tell (send rounds payload)).run Link.handler w =
        (some (.ok ()), w.withSink sink) ∧
      Took w.stream.sink (wire payload) sink := by
  obtain ⟨sink, hrun, htook⟩ := Link.run_send hshut hsink hfits hrounds
  refine ⟨sink, ?_, htook⟩
  rw [tell, run_bind, Link.run_talk, hrun]
  rfl

theorem run_converse (hshut : w.shut = false)
    (hsink : w.stream.sink.Obliging) (hfits : payload.length ≤ maxPayload)
    (hrounds : w.span maxPayload ≤ rounds) (card : Remote) :
    ∃ sink found source,
      (converse rounds (send rounds payload) card).run Link.handler w =
        (found.map fun (reading, buffer) =>
            (reading.mapError hearing, { card with buffer }),
          (w.withSink sink).withSource source) ∧
      Took w.stream.sink (wire payload) sink ∧
      Link.Waited w card.buffer found source := by
  obtain ⟨sink, htell, htook⟩ := run_tell hshut hsink hfits hrounds
  have hreads : w.stream.source.span < rounds := by
    simp only [Link.span] at hrounds
    omega
  obtain ⟨found, source, hreceive, hwaited⟩ :=
    @Link.run_receive (w.withSink sink) rounds hshut card.buffer hreads
  refine ⟨sink, found, source, ?_, htook, hwaited.1, hwaited.2, hwaited.3⟩
  rw [converse, run_bind, htell]
  dsimp only
  rw [run_bind, Link.run_talk, hreceive]
  cases found <;> rfl

/-! ## The course of an operation -/

/-- What an operation came to for someone who waits for its frame. -/
def found (d : Dealing Card (Remote × Link)) :
    Option (Except CardError Bytes) :=
  d.answer.bind (heard d.question)

/-- The responses that some operations gave. -/
def delivered (ds : List (Dealing Card (Remote × Link))) : List Bytes :=
  ds.filterMap fun d => (found d).bind Except.toOption

/-- What an operation can come to: there is no connection any more, or it is
refused, or it ends the connection, or the far card is told of it and, last,
waited for. -/
inductive Course : Dealing Card (Remote × Link) → Prop where
  | late {op : Operation} {answer : Answer op} {s : Remote × Link}
    (hcard : s.1.ejected = true)
    (hanswer : op = .powerOff ∨ op = .eject ∨ answer = .error .ejected) :
    Course ⟨op, some answer, s, s⟩
  | refused {apdu : Bytes} {e : FrameError} {s : Remote × Link}
    (hcard : s.1.ejected = false)
    (hrefusal : (Order.apdu apdu).refusal = some e) :
    Course ⟨.transmit apdu, some (.error (.frame e)), s, s⟩
  | leave {card : Remote} {w : Link} (hcard : card.ejected = false) :
    Course ⟨.eject, some (.ok ()), (card, w),
      ({ card with ejected := true }, { w with shut := true })⟩
  | tell {op : Operation} {answer : Answer op} {card : Remote} {w : Link}
    {sink : Sink} (hcard : card.ejected = false) (hop : op.Relayable)
    (hawaited : op.isAwaited = false)
    (htook : Took w.stream.sink (wire op.payload) sink)
    (hanswer : ∃ reply, answer = .ok reply) :
    Course ⟨op, some answer, (card, w), (card, w.withSink sink)⟩
  | converse {op : Operation} {answer : Option (Answer op)} {card : Remote}
    {w : Link} {buffer : Bytes} {sink : Sink} {source : Source}
    (hcard : card.ejected = false) (hop : op.Relayable)
    (hawaited : op.isAwaited = true)
    (htook : Took w.stream.sink (wire op.payload) sink)
    (hspan : source.span ≤ w.stream.source.span)
    (hfound : answer.bind (heard op) =
      ((readings card.buffer w.stream.source).head?.or w.lasting).map
        (·.mapError hearing))
    (hnext : answer ≠ none → readings buffer source =
      (readings card.buffer w.stream.source).tail) :
    Course ⟨op, answer, (card, w),
      ({ card with buffer }, (w.withSink sink).withSource source)⟩

theorem sendApdu_of_refusal {apdu : Bytes} {e : FrameError}
    (h : (Order.apdu apdu).refusal = some e) (rounds : Nat) :
    sendApdu rounds apdu = .done (.error e) := by
  rw [Order.refusal] at h
  split at h
  · rename_i hone
    rw [sendApdu, if_pos hone, Option.some.inj h]
  · rename_i hone
    obtain ⟨hlong, rfl⟩ := oversize_eq_some h
    rw [sendApdu, if_neg hone, send, encode, if_neg (Nat.not_le.mpr hlong)]

/-- Nothing more is asked of a card that was ejected. -/
theorem course_late (hcard : card.ejected = true) (op : Operation) :
    Course (dealing (linked rounds) op (card, w)) := by
  obtain ⟨answer, hperform, hanswer⟩ : ∃ answer : Answer op,
      perform rounds op card = .done (answer, card) ∧
        (op = .powerOff ∨ op = .eject ∨ answer = .error .ejected) := by
    cases op with
    | powerOff => exact ⟨.ok (), by simp only [perform, hcard], .inl rfl⟩
    | eject => exact ⟨.ok (), by simp only [perform, hcard], .inr (.inl rfl)⟩
    | _ => exact ⟨.error .ejected, by simp only [perform, hcard],
        .inr (.inr rfl)⟩
  have hrun : (perform rounds op card).run Link.handler w =
      (some (answer, card), w) := by
    rw [hperform]
    rfl
  rw [linked, dealing_of_run hrun]
  exact .late hcard hanswer

section

variable (hcard : card.ejected = false) (hshut : w.shut = false)
  (hsink : w.stream.sink.Obliging) (hrounds : w.span maxPayload ≤ rounds)

include hcard hshut hsink hrounds

theorem course_command {command : ControlCommand} (hop : op.Relayable)
    (hawaited : op.isAwaited = false) (hpayload : op.payload = [command.code])
    (answer : Except CardError Unit → Answer op)
    (hanswer : ∃ reply, answer (.ok ()) = .ok reply)
    (hperform : perform rounds op card =
      (fun r => (answer r.1, r.2)) <$> Remote.command rounds command card) :
    Course (dealing (linked rounds) op (card, w)) := by
  obtain ⟨sink, htell, htook⟩ :=
    run_tell hshut hsink hop.length_payload_le hrounds
  have hrun : (perform rounds op card).run Link.handler w =
      (some (answer (.ok ()), card), w.withSink sink) := by
    rw [hperform, Remote.command, sendControl, ← hpayload, run_map, run_bind,
      htell]
    rfl
  rw [linked, dealing_of_run hrun]
  exact .tell hcard hop hawaited htook hanswer

theorem course_awaited (hop : op.Relayable) (hawaited : op.isAwaited = true)
    (answer : Except CardError Bytes → Answer op)
    (hheard : ∀ result, heard op (answer result) = some result)
    (hperform : perform rounds op card = (fun r => (answer r.1, r.2)) <$>
      converse rounds (send rounds op.payload) card) :
    Course (dealing (linked rounds) op (card, w)) := by
  obtain ⟨sink, result, source, hconverse, htook, hspan, hresult, hnext⟩ :=
    run_converse hshut hsink hop.length_payload_le hrounds card
  cases result with
  | none =>
    have hrun : (perform rounds op card).run Link.handler w =
        (none, (w.withSink sink).withSource source) := by
      rw [hperform, run_map, hconverse]
      rfl
    rw [linked, dealing_of_stuck hrun]
    refine .converse hcard hop hawaited htook hspan ?_ nofun
    rw [← hresult]
    rfl
  | some result =>
    obtain ⟨reading, buffer⟩ := result
    have hrun : (perform rounds op card).run Link.handler w =
        (some (answer (reading.mapError hearing), { card with buffer }),
          (w.withSink sink).withSource source) := by
      rw [hperform, run_map, hconverse]
      rfl
    rw [linked, dealing_of_run hrun]
    refine .converse hcard hop hawaited htook hspan ?_ ?_
    · rw [← hresult]
      exact hheard _
    · exact fun _ => hnext reading buffer rfl

theorem course_transmit (apdu : Bytes) :
    Course (dealing (linked rounds) (.transmit apdu) (card, w)) := by
  cases hrefusal : (Order.apdu apdu).refusal with
  | none =>
    have hop := (refusal_apdu_eq_none_iff apdu).mp hrefusal
    refine course_awaited hcard hshut hsink hrounds hop rfl id
      (fun _ => rfl) ?_
    simp only [perform, hcard, sendApdu, if_neg hop.1]
    exact (id_map _).symm
  | some e =>
    have hrun : (perform rounds (.transmit apdu) card).run Link.handler w =
        (some (.error (.frame e), card), w) := by
      simp only [perform, hcard, sendApdu_of_refusal hrefusal]
      rfl
    rw [linked, dealing_of_run hrun]
    exact .refused hcard hrefusal

theorem course_timely (op : Operation) :
    Course (dealing (linked rounds) op (card, w)) := by
  cases op with
  | powerOn | powerOff | reset =>
    refine course_command hcard hshut hsink hrounds trivial rfl rfl id
      ⟨(), rfl⟩ ?_
    simp only [perform, hcard]
    exact (id_map _).symm
  | atr =>
    refine course_awaited hcard hshut hsink hrounds trivial rfl id
      (fun _ => rfl) ?_
    simp only [perform, hcard]
    exact (id_map _).symm
  | transmit apdu => exact course_transmit hcard hshut hsink hrounds apdu
  | eject =>
    have hrun : (perform rounds .eject card).run Link.handler w =
        (some (.ok (), { card with ejected := true }),
          { w with shut := true }) := by
      simp only [perform, hcard]
      rfl
    rw [linked, dealing_of_run hrun]
    exact .leave hcard

end

theorem course_dealing {s : Remote × Link} (hshut : s.2.shut = s.1.ejected)
    (hsink : s.2.stream.sink.Obliging) (hrounds : s.2.span maxPayload ≤ rounds)
    (op : Operation) : Course (dealing (linked rounds) op s) := by
  obtain ⟨card, w⟩ := s
  cases hcard : card.ejected with
  | true => exact course_late hcard op
  | false => exact course_timely hcard (hshut.trans hcard) hsink hrounds op

end Remote

end CardBridge
