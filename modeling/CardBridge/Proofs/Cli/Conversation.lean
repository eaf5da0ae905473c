import CardBridge.Proofs.Card.Kinds
import CardBridge.Proofs.Cli.Apdus
import CardBridge.Proofs.Cli.ReaderRules
import CardBridge.Proofs.Cli.Spans
import CardBridge.Proofs.Frame.Receiving
import CardBridge.Proofs.Frame.Sending

/-!
# What a reader says to a card

The command `reader` sends one frame after the other, and waits for a reply
before it goes on where there is one. Whatever the card sends, and however
what it sends is cut, delayed and ended, what was sent, what was heard and
what was printed go together (`Converses`), and the card is let go of on
every way out.
-/

namespace CardBridge.Cli.Reader

open Dialogue CardBridge.Frame

variable {α ω : Type}

/-! ## What a command has done -/

/-- What was exchanged over the connection. -/
def streamed (said : List (Exchange Surroundings)) : List (Exchange Stream) :=
  said.filterMap fun
    | ⟨.socket (.stream q), a⟩ => some ⟨q, a⟩
    | _ => none

/-- The octets that the connection has accepted. -/
def sent (said : List (Exchange Surroundings)) : Bytes :=
  acceptedIn (streamed said)

/-- The octets that were read from the connection. -/
def heard (said : List (Exchange Surroundings)) : Bytes :=
  receivedIn (streamed said)

/-- How often the connection was flushed. -/
def flushed (said : List (Exchange Surroundings)) : Nat :=
  (streamed said).countP flushes

/-- The replies that arrived in full. -/
def replies (said : List (Exchange Surroundings)) : List Bytes :=
  (drain (heard said)).1

def printed (said : List (Exchange Surroundings)) : List Record :=
  said.filterMap fun
    | ⟨.print record, _⟩ => some record
    | _ => none

/-- One more handle to the connection was made. -/
def duplicates : Exchange Surroundings → Bool
  | ⟨.socket .duplicate, .ok ()⟩ => true
  | _ => false

/-- The connection was taken over as a card, which takes two more handles
to it. -/
def SetUp (said : List (Exchange Surroundings)) : Prop :=
  said.countP duplicates = 2

/-- The connection is shut down. -/
def hangsUp : Exchange Surroundings → Bool
  | ⟨.socket .shutdown, _⟩ => true
  | _ => false

/-- Something has to be done once more: a poll, or an interrupted operation
on the connection. -/
def stalls : Exchange Surroundings → Bool
  | ⟨.socket (.stream q), a⟩ => interrupts ⟨q, a⟩ || delays ⟨q, a⟩
  | ⟨.network (.poll _), _⟩ => true
  | _ => false

/-- No read from the connection gives more than it was asked for. -/
def Candid : Exchange Surroundings → Prop
  | ⟨.socket (.stream q), a⟩ => Honest ⟨q, a⟩
  | _ => True

section

variable (said later : List (Exchange Surroundings))

theorem streamed_append :
    streamed (said ++ later) = streamed said ++ streamed later :=
  List.filterMap_append

@[simp] theorem sent_append :
    sent (said ++ later) = sent said ++ sent later := by
  simp [sent, streamed_append, acceptedIn]

@[simp] theorem heard_append :
    heard (said ++ later) = heard said ++ heard later := by
  simp [heard, streamed_append, receivedIn]

@[simp] theorem flushed_append :
    flushed (said ++ later) = flushed said + flushed later := by
  simp [flushed, streamed_append]

@[simp] theorem printed_append :
    printed (said ++ later) = printed said ++ printed later :=
  List.filterMap_append

end

/-! ## Exchanges of the connection -/

/-- Exchanges of the connection, as the command notes them. -/
def carried (notes : List (Exchange Stream)) :
    List (Exchange Surroundings) :=
  notes.map fun e => ⟨.socket (.stream e.question), e.answer⟩

section

variable (notes : List (Exchange Stream))

theorem streamed_carried : streamed (carried notes) = notes := by
  simp [streamed, carried, List.filterMap_map]

@[simp] theorem sent_carried : sent (carried notes) = acceptedIn notes := by
  rw [sent, streamed_carried]

@[simp] theorem heard_carried : heard (carried notes) = receivedIn notes := by
  rw [heard, streamed_carried]

@[simp] theorem flushed_carried :
    flushed (carried notes) = notes.countP flushes := by
  rw [flushed, streamed_carried]

@[simp] theorem printed_carried : printed (carried notes) = [] := by
  simp [printed, carried, List.filterMap_map]

@[simp] theorem countP_duplicates_carried :
    (carried notes).countP duplicates = 0 := by
  simp [carried, List.countP_map, Function.comp_def, duplicates]

@[simp] theorem countP_hangsUp_carried :
    (carried notes).countP hangsUp = 0 := by
  simp [carried, List.countP_map, Function.comp_def, hangsUp]

theorem countP_interrupts_le :
    notes.countP interrupts ≤ (carried notes).countP stalls := by
  rw [carried, List.countP_map]
  refine List.countP_mono_left ?_
  intro e _ h
  simp [stalls, h]

theorem countP_delays_le :
    notes.countP delays ≤ (carried notes).countP stalls := by
  rw [carried, List.countP_map]
  refine List.countP_mono_left ?_
  intro e _ h
  simp [stalls, h]

end

/-- What a procedure over the connection keeps to in view of its own notes,
the command keeps to in view of all that was noted. -/
theorem keeps_talk {d : Dialogue Stream α}
    {P : Option Stream.Ask → List (Exchange Stream) → Prop}
    {Q : α → List (Exchange Stream) → Prop}
    (h : d.Keeps (heeding Honest) P Q [])
    {P' : Option Socket.Ask → List (Exchange Surroundings) → Prop}
    {Q' : α → List (Exchange Surroundings) → Prop}
    {before : List (Exchange Surroundings)}
    (hP : ∀ q notes, P q notes →
      P' (q.map .stream) (before ++ carried notes))
    (hQ : ∀ a notes, Q a notes → Q' a (before ++ carried notes)) :
    (Socket.talk d).Keeps (fun q => heeding Candid (.socket q)) P' Q'
      before := by
  rw [Session.keeps_talk]
  refine (h.simulate (V := fun said notes => said = before ++ carried notes)
    (by simp [carried]) ?_).mono ?_ ?_
  · rintro q said notes a said' rfl - ⟨hhonest, rfl⟩
    exact ⟨_, ⟨hhonest, rfl⟩, by simp [carried]⟩
  · rintro q said ⟨notes, rfl, hq⟩
    exact hP q notes hq
  · rintro a said ⟨notes, rfl, ha⟩
    exact hQ a notes ha

theorem replies_mono (said later : List (Exchange Surroundings)) :
    replies said <+: replies (said ++ later) := by
  rw [replies, replies, heard_append]
  exact drain_prefix (List.prefix_append ..)

/-! ## One frame -/

theorem wires_mono {frames frames' : List Bytes} (h : frames <+: frames') :
    wires frames <+: wires frames' := by
  obtain ⟨later, rfl⟩ := h
  rw [wires_append]
  exact List.prefix_append ..

theorem countP_flushes_of_calm {notes : List (Exchange Stream)}
    (h : Calm notes) : notes.countP flushes = 0 :=
  List.countP_eq_zero.mpr fun e he => by simp [(h e he).2]

theorem flushes_of_faultOf {e : Exchange Stream} {fault : FrameError}
    (h : faultOf e = some fault) : flushes e = false := by
  match e, h with
  | ⟨.send _, _⟩, _ => rfl
  | ⟨.flush, .error _⟩, _ => rfl

/-- A frame that was sent was accepted in full, and flushed once. -/
theorem came_ok {frame : Bytes} {notes : List (Exchange Stream)}
    (h : Came frame (.ok ()) notes) :
    acceptedIn notes = frame ∧ notes.countP flushes = 1 := by
  obtain ⟨earlier, hcalm, rfl, haccepted⟩ := h
  refine ⟨by simp [accepted, haccepted], ?_⟩
  rw [List.countP_append, countP_flushes_of_calm hcalm]
  rfl

theorem ended_error {refusal : Option FrameError} {frame : Bytes}
    {e : FrameError} {notes : List (Exchange Stream)}
    (h : Ended refusal frame (.error e) notes) :
    notes.countP flushes = 0 := by
  cases refusal with
  | some _ =>
    rw [h.2]
    rfl
  | none =>
    obtain ⟨earlier, exchange, hcalm, rfl, hfault⟩ := h
    rw [List.countP_append, countP_flushes_of_calm hcalm]
    simp [flushes_of_faultOf hfault]

/-- What an order that sends a frame has done so far: part of the frame was
accepted, and nothing was read. -/
def Part (frame : Bytes) (notes : List (Exchange Stream)) : Prop :=
  acceptedIn notes <+: frame ∧ receivedIn notes = []

theorem keeps_order_part (rounds : Nat) (order : Order) :
    (order.perform rounds).Keeps (heeding Honest)
      (fun q notes => (order.refusal = none ∧
        Asked order.onWire rounds q notes) ∧ Part order.onWire notes)
      (fun r notes => Ended order.refusal order.onWire r notes ∧
        Part order.onWire notes) [] := by
  refine (keeps_order_noting rounds order).heed.entering
    ⟨List.nil_prefix, rfl⟩ ?_
  rintro q notes a _ ⟨-, hasked⟩ ⟨-, hquiet⟩ ⟨-, rfl⟩
  rw [Part, acceptedIn_concat, receivedIn_concat, hquiet]
  match q, hasked with
  | .send offered, ⟨_, _, heq⟩ =>
    refine ⟨?_, rfl⟩
    rw [← heq, List.prefix_append_right_inj]
    exact accepted_send_part offered a
  | .flush, ⟨_, heq⟩ =>
    refine ⟨?_, rfl⟩
    rw [heq]
    exact (List.append_nil _).symm ▸ List.prefix_rfl

/-- A wait for a frame, which sends nothing. -/
theorem keeps_receive_only (rounds : Nat) :
    (receive rounds []).Keeps (heeding Honest)
      (fun q notes => Awaits [] rounds q notes ∧
        acceptedIn notes = [] ∧ notes.countP flushes = 0)
      (fun r notes => Arrived [] r notes ∧
        acceptedIn notes = [] ∧ notes.countP flushes = 0) [] := by
  refine (keeps_receive_noting rounds rfl).entering ⟨rfl, rfl⟩ ?_
  rintro q notes a _ hawaits ⟨haccepted, hflushes⟩ ⟨-, rfl⟩
  match q, hawaits with
  | .receive size, _ =>
    rw [acceptedIn_concat, haccepted, List.countP_append, hflushes]
    exact ⟨rfl, rfl⟩

/-! ## How far a conversation has come -/

/-- All that is sent to a card: power on, the question for its answer to
reset, the APDUs, and power off. -/
def payloads (apdus : List Bytes) : List Bytes :=
  [0x01] :: [0x04] :: (apdus ++ [[0x00]])

/-- What is printed of an APDU and its response. -/
def answered (apdu response : Bytes) : Record :=
  .exchange (Hex.upper apdu) (Hex.upper response)

/-- What is printed of some replies. The first is the answer to reset, and
each of the others answers an APDU. -/
def records (apdus : List Bytes) : List Bytes → List Record
  | [] => []
  | atr :: responses =>
    .atr (Hex.upper atr) :: List.zipWith answered apdus responses

/-- What is kept to at every question: nothing is offered that would not be
the next of the frames, or before the replies to what came earlier have
arrived. A conversation is cut only for want of rounds. -/
def Orderly (rounds : Nat) (apdus : List Bytes) :
    Option Ask → List (Exchange Surroundings) → Prop
  | some (.socket (.stream (.send offered))), said =>
    sent said ++ offered <+:
      wires ((payloads apdus).take (2 + (replies said).length))
  | some _, _ => True
  | none, said => sent said <+: wires (payloads apdus) ∧
    rounds ≤ headerSize + maxPayload + said.countP stalls

/-- A conversation between two of its parts: so many frames were sent and
replies heard, and of some of them was printed what there is to print. -/
structure Standing (front : List Record)
    (apdus frames answers shown : List Bytes)
    (said : List (Exchange Surroundings)) : Prop where
  sent_eq : sent said = wires frames
  flushed_eq : flushed said = frames.length
  heard_eq : heard said = wires answers
  fit : Fit answers
  printed_eq : printed said = front ++ records apdus shown
  setUp : SetUp said
  kept : said.countP hangsUp = 0

/-- A conversation that has failed: something was not sent, or some reply is
missing. -/
structure Broken (front : List Record) (apdus : List Bytes)
    (said : List (Exchange Surroundings)) : Prop where
  sent_part : sent said <+: wires (payloads apdus)
  short : flushed said < apdus.length + 3 ∨
    (replies said).length < apdus.length + 1
  printed_eq : printed said = front ++ records apdus (replies said)
  setUp : SetUp said
  kept : said.countP hangsUp = 0

section

variable {rounds : Nat} {front : List Record}
  {apdus frames answers shown : List Bytes}
  {before : List (Exchange Surroundings)}

theorem Standing.replies_eq
    (h : Standing front apdus frames answers shown before) :
    replies before = answers := by
  rw [replies, h.heard_eq, drain_wires h.fit]

theorem Standing.setUp_carried
    (h : Standing front apdus frames answers shown before)
    (notes : List (Exchange Stream)) : SetUp (before ++ carried notes) := by
  rw [SetUp, List.countP_append, countP_duplicates_carried]
  exact h.setUp

theorem Standing.kept_carried
    (h : Standing front apdus frames answers shown before)
    (notes : List (Exchange Stream)) :
    (before ++ carried notes).countP hangsUp = 0 := by
  rw [List.countP_append, countP_hangsUp_carried]
  exact h.kept

/-- A frame is sent, or the conversation breaks off. -/
theorem Standing.keeps_tell
    (h : Standing front apdus frames answers answers before)
    {order : Order} {payload : Bytes} (hwire : order.onWire = wire payload)
    (hfits : order.refusal = none → payload.length ≤ maxPayload)
    (hnext : frames ++ [payload] <+: payloads apdus)
    (hturn : frames.length ≤ 1 + answers.length) :
    (Remote.tell (order.perform rounds)).Keeps
      (fun q => heeding Candid (.socket q))
      (fun q => Orderly rounds apdus (q.map .socket))
      (fun r said => match r with
        | .ok () => Standing front apdus (frames ++ [payload]) answers
            answers said
        | .error _ => Broken front apdus said) before := by
  have hcount : frames.length + 1 ≤ apdus.length + 3 := by
    simpa [payloads] using hnext.length_le
  have hpart {notes : List (Exchange Stream)}
      (hpart : Part order.onWire notes) :
      sent (before ++ carried notes) <+: wires (payloads apdus) := by
    refine List.IsPrefix.trans ?_ (wires_mono hnext)
    rw [sent_append, sent_carried, h.sent_eq, wires_append,
      List.prefix_append_right_inj, wires_cons, wires_nil, List.append_nil,
      ← hwire]
    exact hpart.1
  refine keeps_bind.mpr (keeps_talk (keeps_order_part rounds order) ?_ ?_)
  · rintro q notes ⟨⟨hrefusal, hasked⟩, hnotes⟩
    match q, hasked with
    | some .flush, _ => trivial
    | some (.send offered), ⟨_, _, heq⟩ =>
      -- the frame on offer comes right after those that were sent
      have htaken : frames ++ [payload] <+:
          (payloads apdus).take
            (2 + (replies (before ++ carried notes)).length) := by
        refine List.prefix_take_iff.mpr ⟨hnext, ?_⟩
        have hreplies := (replies_mono before (carried notes)).length_le
        rw [h.replies_eq] at hreplies
        simp only [List.length_append, List.length_singleton]
        omega
      have hsent : sent (before ++ carried notes) ++ offered =
          wires (frames ++ [payload]) := by
        rw [sent_append, sent_carried, h.sent_eq, wires_append,
          List.append_assoc, heq, hwire, wires_cons, wires_nil,
          List.append_nil]
      show sent _ ++ offered <+: _
      rw [hsent]
      exact wires_mono htaken
    | none, ⟨_, hrounds⟩ =>
      refine ⟨hpart hnotes, ?_⟩
      have hstalls := countP_interrupts_le notes
      have hlength := hfits hrefusal
      rw [hwire, length_wire] at hrounds
      rw [List.countP_append, headerSize]
      omega
  · rintro r notes ⟨hended, hnotes⟩
    have hheard : heard (before ++ carried notes) = wires answers := by
      rw [heard_append, heard_carried, hnotes.2, h.heard_eq, List.append_nil]
    have hprinted : printed (before ++ carried notes) =
        front ++ records apdus answers := by
      rw [printed_append, printed_carried, List.append_nil, h.printed_eq]
    cases r with
    | ok _ =>
      have hcame : Came order.onWire (.ok ()) notes := by
        cases hrefusal : order.refusal with
        | none =>
          rw [hrefusal] at hended
          exact hended
        | some e =>
          rw [hrefusal] at hended
          cases hended.1
      obtain ⟨haccepted, hflushed⟩ := came_ok hcame
      refine ⟨?_, ?_, hheard, h.fit, hprinted, h.setUp_carried notes,
        h.kept_carried notes⟩
      · simp [h.sent_eq, haccepted, hwire]
      · simp [h.flushed_eq, hflushed]
    | error e =>
      refine ⟨hpart hnotes, .inl ?_, ?_, h.setUp_carried notes,
        h.kept_carried notes⟩
      · rw [flushed_append, flushed_carried, h.flushed_eq, ended_error hended]
        omega
      · rw [replies, hheard, drain_wires h.fit]
        exact hprinted

/-- A reply arrives, or the conversation breaks off. -/
theorem Standing.keeps_hear
    (h : Standing front apdus frames answers answers before)
    (hframes : frames <+: payloads apdus)
    (hmore : answers.length ≤ apdus.length) :
    (Socket.talk (Frame.receive rounds [])).Keeps
      (fun q => heeding Candid (.socket q))
      (fun q => Orderly rounds apdus (q.map .socket))
      (fun r said => match r.1 with
        | .ok payload => r.2 = [] ∧
            Standing front apdus frames (answers ++ [payload]) answers said
        | .error _ => Broken front apdus said) before := by
  have hsent {notes : List (Exchange Stream)}
      (haccepted : acceptedIn notes = []) :
      sent (before ++ carried notes) = wires frames := by
    rw [sent_append, sent_carried, h.sent_eq, haccepted, List.append_nil]
  refine keeps_talk (keeps_receive_only rounds) ?_ ?_
  · rintro q notes ⟨hawaits, haccepted, -⟩
    match q, hawaits with
    | some (.receive _), _ => trivial
    | none, hrounds =>
      refine ⟨?_, ?_⟩
      · rw [hsent haccepted]
        exact wires_mono hframes
      · have hstalls := countP_delays_le notes
        have hbound : rounds ≤ headerSize + maxPayload + notes.countP delays :=
          hrounds
        rw [List.countP_append]
        omega
  · rintro ⟨result, buffer⟩ notes ⟨harrived, haccepted, hflushes⟩
    have hheard : heard (before ++ carried notes) =
        wires answers ++ receivedIn notes := by
      rw [heard_append, heard_carried, h.heard_eq]
    have hprinted : printed (before ++ carried notes) =
        front ++ records apdus answers := by
      rw [printed_append, printed_carried, List.append_nil, h.printed_eq]
    cases result with
    | ok payload =>
      obtain ⟨hrest, hdecode⟩ := harrived
      obtain ⟨hpayload, hreceived⟩ := decode?_eq_some_iff.mp hdecode
      refine ⟨hrest, hsent haccepted, ?_, ?_, ?_, hprinted,
        h.setUp_carried notes, h.kept_carried notes⟩
      · simp [h.flushed_eq, hflushes]
      · simpa [hheard] using hreceived
      · simp [h.fit, hpayload]
    | error e =>
      have hunfinished : decode? (receivedIn notes) = none := harrived
      have hreplies : replies (before ++ carried notes) = answers := by
        rw [replies, hheard, drain_of_unfinished h.fit hunfinished]
      refine ⟨?_, .inr ?_, ?_, h.setUp_carried notes, h.kept_carried notes⟩
      · rw [hsent haccepted]
        exact wires_mono hframes
      · rw [hreplies]
        omega
      · rw [hreplies]
        exact hprinted

/-- What a part of the conversation leads to: it goes on, or breaks off. -/
def Leads (front : List Record) (apdus : List Bytes)
    (Q : α → List (Exchange Surroundings) → Prop) :
    Except Stop (α × Remote) → List (Exchange Surroundings) → Prop
  | .ok (a, card), said => card = {} ∧ Q a said
  | .error _, said => Broken front apdus said

/-- A control command that is not answered. -/
theorem Standing.keeps_control
    (h : Standing front apdus frames answers answers before)
    (command : ControlCommand) (wrap : CardError → Failure)
    (hnext : frames ++ [[command.code]] <+: payloads apdus)
    (hturn : frames.length ≤ 1 + answers.length) :
    (Remote.command rounds command {}).Keeps
      (fun q => heeding Candid (.socket q))
      (fun q => Orderly rounds apdus (q.map .socket))
      (fun r => Leads front apdus (fun _ => Standing front apdus
          (frames ++ [[command.code]]) answers answers)
        ((failing wrap r.1).map (·, r.2))) before := by
  have hwire : (Order.control command).onWire = wire [command.code] := rfl
  refine Keeps.bind (h.keeps_tell hwire (fun _ => by simp [maxPayload]) hnext
    hturn) ?_
  intro r said hr
  cases r with
  | ok _ => exact ⟨rfl, hr⟩
  | error e => exact hr

/-- A frame and the reply to it. -/
theorem Standing.keeps_converse
    (h : Standing front apdus frames answers answers before)
    {order : Order} {payload : Bytes} (wrap : CardError → Failure)
    (hwire : order.onWire = wire payload)
    (hfits : order.refusal = none → payload.length ≤ maxPayload)
    (hnext : frames ++ [payload] <+: payloads apdus)
    (hturn : frames.length ≤ 1 + answers.length)
    (hmore : answers.length ≤ apdus.length) :
    (Remote.converse rounds (order.perform rounds) {}).Keeps
      (fun q => heeding Candid (.socket q))
      (fun q => Orderly rounds apdus (q.map .socket))
      (fun r => Leads front apdus (fun answer => Standing front apdus
          (frames ++ [payload]) (answers ++ [answer]) answers)
        ((failing wrap r.1).map (·, r.2))) before := by
  refine Keeps.bind (h.keeps_tell hwire hfits hnext hturn) ?_
  intro r said hr
  cases r with
  | error e => exact hr
  | ok _ =>
    refine Keeps.bind (Standing.keeps_hear hr hnext hmore) ?_
    rintro ⟨result, buffer⟩ said hheard
    cases result with
    | ok answer =>
      obtain ⟨hbuffer, hstanding⟩ := hheard
      simp only at hbuffer
      subst hbuffer
      exact ⟨rfl, hstanding⟩
    | error e => exact hheard

/-- What a reply is shown as is printed. -/
theorem Standing.printing {answer : Bytes} {record : Record}
    (h : Standing front apdus frames (answers ++ [answer]) answers before)
    (hrecord : records apdus (answers ++ [answer]) =
      records apdus answers ++ [record]) :
    Standing front apdus frames (answers ++ [answer]) (answers ++ [answer])
      (before ++ [⟨.print record, ()⟩]) where
  sent_eq := by rw [sent_append, h.sent_eq]; exact List.append_nil _
  flushed_eq := by rw [flushed_append, h.flushed_eq]; rfl
  heard_eq := by rw [heard_append, h.heard_eq]; exact List.append_nil _
  fit := h.fit
  printed_eq := by
    rw [printed_append, h.printed_eq, hrecord, List.append_assoc]
    rfl
  setUp := by
    rw [SetUp, List.countP_append]
    exact h.setUp
  kept := by
    rw [List.countP_append, h.kept]
    rfl

/-- So many replies show what was answered, whatever comes after it. -/
theorem records_append {done : List Bytes} (rest : List Bytes)
    (hlength : answers.length = done.length + 1) :
    records (done ++ rest) answers = records done answers := by
  match answers, hlength with
  | atr :: responses, hlength =>
    have hlength : done.length = responses.length := by
      simpa using hlength.symm
    have happend : List.zipWith answered (done ++ rest) (responses ++ []) =
        _ := List.zipWith_append hlength
    simpa [records] using happend

theorem records_concat {done rest : List Bytes} {apdu answer : Bytes}
    (hapdus : done ++ apdu :: rest = apdus)
    (hlength : answers.length = done.length + 1) :
    records apdus (answers ++ [answer]) =
      records apdus answers ++ [answered apdu answer] := by
  rw [← hapdus, records_append _ hlength]
  match answers, hlength with
  | atr :: responses, hlength =>
    have hlength : done.length = responses.length := by
      simpa using hlength.symm
    simp [records, List.zipWith_append hlength, answered]

/-- A part of the conversation, and what comes after it. -/
theorem leads_bind {β : Type} {x : Reading (α × Remote)}
    {next : α × Remote → Reading (β × Remote)}
    {Q : α → List (Exchange Surroundings) → Prop}
    {Q' : β → List (Exchange Surroundings) → Prop}
    (h : x.run.Keeps (heeding Candid) (Orderly rounds apdus)
      (Leads front apdus Q) before)
    (hnext : ∀ a said, Q a said →
      (next (a, {})).run.Keeps (heeding Candid) (Orderly rounds apdus)
        (Leads front apdus Q') said) :
    (x >>= next).run.Keeps (heeding Candid) (Orderly rounds apdus)
      (Leads front apdus Q') before := by
  refine h.run_bind ?_
  intro r said hr
  match r, hr with
  | .error _, hr => exact hr
  | .ok (a, _), ⟨rfl, ha⟩ => exact hnext a said ha

theorem Standing.keeps_exchange {done rest : List Bytes} {apdu : Bytes}
    (h : Standing front apdus ([0x01] :: [0x04] :: done) answers answers
      before)
    (hapdus : done ++ apdu :: rest = apdus)
    (hlength : answers.length = done.length + 1) :
    ((exchange rounds apdu).run {}).run.Keeps (heeding Candid)
      (Orderly rounds apdus)
      (Leads front apdus fun _ said => ∃ answer,
        Standing front apdus ([0x01] :: [0x04] :: (done ++ [apdu]))
          (answers ++ [answer]) (answers ++ [answer]) said) before := by
  have hwire : (Order.apdu apdu).onWire = wire apdu := rfl
  have hnext : ([0x01] :: [0x04] :: done) ++ [apdu] <+: payloads apdus := by
    rw [← hapdus, payloads]
    exact ⟨rest ++ [[0x00]], by simp⟩
  have hmore : answers.length ≤ apdus.length := by
    rw [hlength, ← hapdus]
    simp
  rw [run_exchange]
  refine leads_bind (keeps_onCard.mpr (h.keeps_converse _ hwire
    (fun hnone => ((refusal_apdu_eq_none_iff apdu).mp hnone).2) hnext
    (by simp only [List.length_cons]; omega) hmore)) ?_
  intro answer said hanswer
  refine ⟨trivial, ?_⟩
  rintro _ _ ⟨-, rfl⟩
  exact ⟨rfl, answer, hanswer.printing (records_concat hapdus hlength)⟩

/-- The APDUs in turn, from any of them on. -/
theorem Standing.keeps_exchanges {done rest : List Bytes}
    (h : Standing front apdus ([0x01] :: [0x04] :: done) answers answers
      before)
    (hapdus : done ++ rest = apdus)
    (hlength : answers.length = done.length + 1) :
    ((rest.forM (exchange rounds)).run {}).run.Keeps (heeding Candid)
      (Orderly rounds apdus)
      (Leads front apdus fun _ said => ∃ answers,
        answers.length = apdus.length + 1 ∧
        Standing front apdus ([0x01] :: [0x04] :: apdus) answers answers said)
      before := by
  induction rest generalizing done answers before with
  | nil =>
    obtain rfl : done = apdus := by simpa using hapdus
    exact ⟨rfl, answers, hlength, h⟩
  | cons apdu rest ih =>
    rw [run_exchanges_cons]
    refine leads_bind (h.keeps_exchange hapdus hlength) ?_
    rintro _ said ⟨answer, hanswer⟩
    exact ih hanswer (by simp [← hapdus]) (by simp [hlength])

theorem Standing.keeps_powerOn (h : Standing front apdus [] [] [] before) :
    ((onCard rounds "power on failed" .powerOn).run {}).run.Keeps
      (heeding Candid) (Orderly rounds apdus)
      (Leads front apdus fun _ => Standing front apdus [[0x01]] [] [])
      before := by
  have hon : [] ++ [[ControlCommand.powerOn.code]] <+: payloads apdus :=
    ⟨[0x04] :: (apdus ++ [[0x00]]), rfl⟩
  rw [keeps_onCard]
  exact h.keeps_control .powerOn _ hon (Nat.zero_le _)

theorem Standing.keeps_atr (h : Standing front apdus [[0x01]] [] [] before) :
    ((onCard rounds "ATR request failed" .atr).run {}).run.Keeps
      (heeding Candid) (Orderly rounds apdus)
      (Leads front apdus fun atr : Card.Reply .atr =>
        Standing front apdus [[0x01], [0x04]] [atr] []) before := by
  have hgetAtr :
      [[0x01]] ++ [[ControlCommand.getAtr.code]] <+: payloads apdus :=
    ⟨apdus ++ [[0x00]], rfl⟩
  have hwire :
      (Order.control .getAtr).onWire = wire [ControlCommand.getAtr.code] :=
    rfl
  rw [keeps_onCard]
  exact h.keeps_converse _ hwire (fun _ => by simp [maxPayload]) hgetAtr
    (Nat.le_refl 1) (Nat.zero_le _)

theorem Standing.printing_atr {atr : Bytes}
    (h : Standing front apdus [[0x01], [0x04]] [atr] [] before) :
    Standing front apdus [[0x01], [0x04]] [atr] [atr]
      (before ++ [⟨.print (.atr (Hex.upper atr)), ()⟩]) := by
  have hrecord : records apdus ([] ++ [atr]) =
      records apdus [] ++ [.atr (Hex.upper atr)] := by
    simp [records]
  exact h.printing hrecord

theorem Standing.keeps_useCard (h : Standing front apdus [] [] [] before) :
    ((useCard rounds apdus).run {}).run.Keeps (heeding Candid)
      (Orderly rounds apdus)
      (Leads front apdus fun _ said => ∃ answers,
        answers.length = apdus.length + 1 ∧
        Standing front apdus (payloads apdus) answers answers said)
      before := by
  rw [run_useCard]
  refine leads_bind h.keeps_powerOn ?_
  intro _ said hpowered
  refine leads_bind hpowered.keeps_atr ?_
  intro atr said hatr
  refine ⟨trivial, ?_⟩
  rintro _ _ ⟨-, rfl⟩
  have hnothing : [] ++ apdus = apdus := rfl
  refine leads_bind (hatr.printing_atr.keeps_exchanges hnothing rfl) ?_
  rintro _ said ⟨answers, hlength, hanswered⟩
  have hall : payloads apdus =
      ([0x01] :: [0x04] :: apdus) ++ [[ControlCommand.powerOff.code]] := rfl
  have hoff : ((onCard rounds "power off failed" .powerOff).run {}).run.Keeps
      (heeding Candid) (Orderly rounds apdus)
      (Leads front apdus fun _ =>
        Standing front apdus (payloads apdus) answers answers) said :=
    keeps_onCard.mpr (hanswered.keeps_control .powerOff _
      (hall ▸ List.prefix_rfl) (by simp only [List.length_cons]; omega))
  refine hoff.imp ?_
  rintro (_ | ⟨_, card⟩) said hr
  · exact hr
  · exact ⟨hr.1, answers, hlength, hr.2⟩

end

/-! ## Letting go of a card -/

/-- What is noted of the end of a connection. -/
inductive Parting : List (Exchange Surroundings) → Prop
  | quiet (answer : Except IoError Unit) :
    Parting [⟨.socket .shutdown, answer⟩]
  | logged (answer : Except IoError Unit) (record : Log.Record) :
    Parting [⟨.socket .shutdown, answer⟩, ⟨.log record, ()⟩]

/-- The connection was shut down, once and as the last that was asked of
it. -/
def LetGo (said : List (Exchange Surroundings)) : Prop :=
  ∃ earlier later, said = earlier ++ later ∧
    earlier.countP hangsUp = 0 ∧ Parting later

theorem keeps_eject {rounds : Nat} {apdus : List Bytes}
    {before : List (Exchange Surroundings)}
    {Q : Except Stop Unit → List (Exchange Surroundings) → Prop}
    (h : ∀ later, Parting later → Q (.ok ()) (before ++ later)) :
    (eject rounds {}).run.Keeps (heeding Candid) (Orderly rounds apdus) Q
      before := by
  rw [eject, keeps_run_bind, keeps_onSocket, Remote.perform_eject]
  refine ⟨trivial, ?_⟩
  rintro answer _ ⟨-, rfl⟩
  simp only [keeps_done]
  cases Remote.uponShutdown answer with
  | ok _ => exact h _ (.quiet answer)
  | error e =>
    refine ⟨trivial, ?_⟩
    rintro _ _ ⟨-, rfl⟩
    rw [List.append_assoc]
    exact h _ (.logged answer _)

section

variable {said later : List (Exchange Surroundings)}

theorem Parting.streamed_eq (h : Parting later) :
    streamed (said ++ later) = streamed said := by
  rw [streamed_append]
  cases h <;> exact List.append_nil _

theorem Parting.sent_eq (h : Parting later) :
    sent (said ++ later) = sent said :=
  congrArg acceptedIn h.streamed_eq

theorem Parting.flushed_eq (h : Parting later) :
    flushed (said ++ later) = flushed said :=
  congrArg (List.countP flushes) h.streamed_eq

theorem Parting.replies_eq (h : Parting later) :
    replies (said ++ later) = replies said :=
  congrArg (fun said => (drain (receivedIn said)).1) h.streamed_eq

theorem Parting.printed_eq (h : Parting later) :
    printed (said ++ later) = printed said := by
  rw [printed_append]
  cases h <;> exact List.append_nil _

theorem Parting.setUp (h : Parting later) (hsaid : SetUp said) :
    SetUp (said ++ later) := by
  rw [SetUp, List.countP_append]
  cases h <;> exact hsaid

end

/-- What has come of a conversation when the command ends. -/
structure Concluded (front : List Record) (apdus : List Bytes)
    (r : Except Stop ExitCode) (said : List (Exchange Surroundings)) :
    Prop where
  sent_part : sent said <+: wires (payloads apdus)
  printed_eq : printed said = front ++ records apdus (replies said)
  success_iff : r = .ok .success ↔
    (replies said).length = apdus.length + 1 ∧
      sent said = wires (payloads apdus) ∧ flushed said = apdus.length + 3
  setUp : SetUp said
  letGo : LetGo said

section

variable {front : List Record} {apdus answers : List Bytes}
  {said later : List (Exchange Surroundings)}

theorem Standing.concluded
    (h : Standing front apdus (payloads apdus) answers answers said)
    (hlength : answers.length = apdus.length + 1) (hlater : Parting later) :
    Concluded front apdus (.ok .success) (said ++ later) where
  sent_part := (hlater.sent_eq.trans h.sent_eq) ▸ List.prefix_rfl
  printed_eq := by
    rw [hlater.printed_eq, hlater.replies_eq, h.replies_eq, h.printed_eq]
  success_iff := by
    rw [hlater.sent_eq, hlater.flushed_eq, hlater.replies_eq, h.replies_eq,
      h.sent_eq, h.flushed_eq]
    simp [hlength, payloads]
  setUp := hlater.setUp h.setUp
  letGo := ⟨said, later, rfl, h.kept, hlater⟩

theorem Broken.concluded (h : Broken front apdus said) (stop : Stop)
    (hlater : Parting later) :
    Concluded front apdus (.error stop) (said ++ later) where
  sent_part := by
    rw [hlater.sent_eq]
    exact h.sent_part
  printed_eq := by
    rw [hlater.printed_eq, hlater.replies_eq]
    exact h.printed_eq
  success_iff := by
    rw [hlater.flushed_eq, hlater.replies_eq]
    have hshort := h.short
    refine ⟨nofun, ?_⟩
    rintro ⟨hreplies, -, hflushed⟩
    omega
  setUp := hlater.setUp h.setUp
  letGo := ⟨said, later, rfl, h.kept, hlater⟩

end

/-! ## Waiting for a card, and taking it over -/

/-- The command listens on a port, and has exchanged nothing with a card.
So many more handles to a connection were made. -/
structure Listening (port : UInt16) (handles : Nat)
    (said : List (Exchange Surroundings)) : Prop where
  listened : ∃ addresses, ⟨.network (.listen addresses), .ok port⟩ ∈ said
  streamed_eq : streamed said = []
  printed_eq : printed said = [.waitingForCard port]
  handles_eq : said.countP duplicates = handles
  kept : said.countP hangsUp = 0

/-- What there is to print, in view of how far the command came. -/
inductive Printed (apdus : List Bytes) (said : List (Exchange Surroundings)) :
    List Record → Prop
  | nothing (h : ∀ addresses port,
      ⟨.network (.listen addresses), .ok port⟩ ∉ said) : Printed apdus said []
  | waiting {port : UInt16}
    (hport : ∃ addresses, ⟨.network (.listen addresses), .ok port⟩ ∈ said)
    (h : ¬ SetUp said) : Printed apdus said [.waitingForCard port]
  | served {port : UInt16} {peer : Option Address}
    (hport : ∃ addresses, ⟨.network (.listen addresses), .ok port⟩ ∈ said)
    (hpeer : ⟨.network (.poll pollInterval), .ok (some peer)⟩ ∈ said)
    (h : SetUp said) :
    Printed apdus said (.waitingForCard port ::
      .cardConnected (peer.getD "unknown") :: records apdus (replies said))

/-- What has come of everything when the command ends. -/
structure Finished (apdus : List Bytes) (r : Except Stop ExitCode)
    (said : List (Exchange Surroundings)) : Prop where
  sent_part : sent said <+: wires (payloads apdus)
  printed : Printed apdus said (printed said)
  success_iff : SetUp said → (r = .ok .success ↔
    (replies said).length = apdus.length + 1 ∧
      sent said = wires (payloads apdus) ∧ flushed said = apdus.length + 3)
  letGo : SetUp said → LetGo said
  spared : ¬ SetUp said → streamed said = [] ∧ said.countP hangsUp = 0

section

variable {port : UInt16} {handles rounds : Nat} {apdus : List Bytes}
  {before said : List (Exchange Surroundings)}

/-- Nothing else is done while the command waits. -/
theorem Listening.next (h : Listening port handles said)
    (e : Exchange Surroundings) (hstreamed : streamed [e] = [])
    (hprinted : printed [e] = []) (hkept : hangsUp e = false) :
    Listening port (handles + [e].countP duplicates) (said ++ [e]) where
  listened := by
    obtain ⟨addresses, hlistened⟩ := h.listened
    exact ⟨addresses, List.mem_append_left _ hlistened⟩
  streamed_eq := by rw [streamed_append, h.streamed_eq, hstreamed]; rfl
  printed_eq := by
    rw [printed_append, h.printed_eq, hprinted, List.append_nil]
  handles_eq := by rw [List.countP_append, h.handles_eq]
  kept := by
    rw [List.countP_append, h.kept, List.countP_singleton, hkept]
    rfl

theorem Listening.finished (h : Listening port handles said)
    (hhandles : handles ≠ 2) (r : Except Stop ExitCode) :
    Finished apdus r said where
  sent_part := by
    rw [sent, h.streamed_eq]
    exact List.nil_prefix
  printed := by
    rw [h.printed_eq]
    exact .waiting h.listened fun hsetUp => hhandles (h.handles_eq ▸ hsetUp)
  success_iff := fun hsetUp => absurd (h.handles_eq ▸ hsetUp) hhandles
  letGo := fun hsetUp => absurd (h.handles_eq ▸ hsetUp) hhandles
  spared := fun _ => ⟨h.streamed_eq, h.kept⟩

theorem keeps_attach (h : Listening port 0 before) :
    attach.run.Keeps (heeding Candid) (Orderly rounds apdus)
      (fun r said => match r with
        | .ok card => card = {} ∧ Listening port 2 said
        | .error _ => ∃ handles ≠ 2, Listening port handles said) before := by
  rw [attach, keeps_run_bind, keeps_onSocket]
  refine ⟨trivial, ?_⟩
  rintro answer _ ⟨-, rfl⟩
  have h := h.next
    ⟨.socket (.readTimeout (some exchangeTimeout)), answer⟩ rfl rfl rfl
  cases answer with
  | error cause => exact ⟨0, nofun, h⟩
  | ok _ =>
  refine ⟨trivial, ?_⟩
  rintro answer _ ⟨-, rfl⟩
  have h := h.next
    ⟨.socket (.writeTimeout (some exchangeTimeout)), answer⟩ rfl rfl rfl
  cases answer with
  | error cause => exact ⟨0, nofun, h⟩
  | ok _ =>
  refine ⟨trivial, ?_⟩
  rintro answer _ ⟨-, rfl⟩
  have h := h.next ⟨.socket (.noDelay true), answer⟩ rfl rfl rfl
  cases answer with
  | error cause => exact ⟨0, nofun, h⟩
  | ok _ =>
  refine ⟨trivial, ?_⟩
  rintro answer _ ⟨-, rfl⟩
  have h := h.next ⟨.socket .duplicate, answer⟩ rfl rfl rfl
  cases answer with
  | error cause => exact ⟨0, nofun, h⟩
  | ok _ =>
  refine ⟨trivial, ?_⟩
  rintro answer _ ⟨-, rfl⟩
  have h := h.next ⟨.socket .duplicate, answer⟩ rfl rfl rfl
  cases answer with
  | error cause => exact ⟨1, nofun, h⟩
  | ok _ => exact ⟨rfl, h⟩

/-- A connection that was taken over is where a conversation begins. -/
theorem Listening.standing (h : Listening port 2 said) (address : String) :
    Standing [.waitingForCard port, .cardConnected address] apdus [] [] []
      (said ++ [⟨.print (.cardConnected address), ()⟩]) where
  sent_eq := by rw [sent, streamed_append, h.streamed_eq]; rfl
  flushed_eq := by rw [flushed, streamed_append, h.streamed_eq]; rfl
  heard_eq := by rw [heard, streamed_append, h.streamed_eq]; rfl
  fit := fit_nil
  printed_eq := by rw [printed_append, h.printed_eq]; rfl
  setUp := by rw [SetUp, List.countP_append, h.handles_eq]; rfl
  kept := by rw [List.countP_append, h.kept]; rfl

theorem keeps_serve (h : Listening port 0 before) (peer : Option Address) :
    (serveCard rounds apdus peer).run.Keeps (heeding Candid)
      (Orderly rounds apdus) (fun r said =>
        (∃ handles ≠ 2, Listening port handles said) ∨
        Concluded [.waitingForCard port, .cardConnected (peer.getD "unknown")]
          apdus r said) before := by
  rw [serveCard]
  refine (keeps_attach h).run_bind ?_
  rintro (_ | card) said hr
  · exact .inl hr
  obtain ⟨rfl, hready⟩ := hr
  refine ⟨trivial, ?_⟩
  rintro _ _ ⟨-, rfl⟩
  show Keeps _ _ _ (ExceptT.run (ExceptT.lift _ >>= _)) _
  rw [keeps_run_bind, keeps_run_lift]
  refine (hready.standing _).keeps_useCard.imp ?_
  -- whatever came of the conversation, the card is let go of
  intro result said hresult
  refine keeps_run_bind.mpr (keeps_eject fun later hlater => ?_)
  match result, hresult with
  | .ok _, ⟨_, answers, hlength, hanswered⟩ =>
    exact .inr (hanswered.concluded hlength hlater)
  | .error stop, hbroken => exact .inr (Broken.concluded hbroken stop hlater)

/-- A card that has connected is served, and let go of once it was taken
over. -/
theorem keeps_serveCard (h : Listening port 0 before) {peer : Option Address}
    (hpeer : ⟨.network (.poll pollInterval), .ok (some peer)⟩ ∈ before) :
    (serveCard rounds apdus peer).run.Keeps (heeding Candid)
      (Orderly rounds apdus) (Finished apdus) before := by
  have hextending := keeps_extending (serveCard rounds apdus peer).run before
  refine ((keeps_serve h peer).and hextending.heed).mono
    (fun _ _ hq => hq.1) ?_
  rintro r said ⟨⟨handles, hhandles, hlistening⟩ | hconcluded, hbefore⟩
  · exact hlistening.finished hhandles r
  · obtain ⟨addresses, hlistened⟩ := h.listened
    refine ⟨hconcluded.sent_part, ?_, fun _ => hconcluded.success_iff,
      fun _ => hconcluded.letGo, fun hnot => absurd hconcluded.setUp hnot⟩
    rw [hconcluded.printed_eq]
    exact .served ⟨addresses, hbefore.subset hlistened⟩
      (hbefore.subset hpeer) hconcluded.setUp

/-- How a wait ends: with a card that was found by a poll, or with nothing
done. -/
def Attended (port : UInt16) (r : Except Stop (Option (Option Address)))
    (said : List (Exchange Surroundings)) : Prop :=
  Listening port 0 said ∧ ∀ peer, r = .ok (some peer) →
    ⟨.network (.poll pollInterval), .ok (some peer)⟩ ∈ said

/-- A wait is cut only after as many polls as it has rounds. -/
theorem Listening.keeps_awaitCard {timeout : Option Duration}
    {last : Option Instant} {left : Nat} (h : Listening port 0 said)
    (hrounds : rounds ≤ left + said.countP stalls) :
    (awaitCard timeout last left).run.Keeps (heeding Candid)
      (Orderly rounds apdus) (Attended port) said := by
  induction left generalizing said with
  | zero =>
    refine ⟨?_, by omega⟩
    rw [sent, h.streamed_eq]
    exact List.nil_prefix
  | succ left ih =>
    refine keeps_awaitCard_succ trivial ?_ ?_
    · rintro _ ⟨-, rfl⟩
      exact ⟨h.next ⟨.interrupted, true⟩ rfl rfl rfl, nofun⟩
    · rintro _ ⟨-, rfl⟩
      refine ⟨trivial, ?_⟩
      rintro answer said' ⟨-, hsaid⟩
      have hlooked := h.next ⟨.interrupted, false⟩ rfl rfl rfl
      have hpolled := hlooked.next
        ⟨.network (.poll pollInterval), answer⟩ rfl rfl rfl
      rw [← hsaid] at hpolled
      have hstalls : rounds ≤ left + said'.countP stalls := by
        rw [hsaid, List.countP_append, List.countP_append]
        simp only [List.countP_singleton, stalls, if_true]
        omega
      -- a round that has found nobody may look at the clock
      have hround : (do
          checkDeadline timeout last
          awaitCard timeout last left).run.Keeps (heeding Candid)
            (Orderly rounds apdus) (Attended port) said' := by
        cases last with
        | none => exact ih hpolled hstalls
        | some last =>
          rw [keeps_run_bind, keeps_checkDeadline]
          refine ⟨trivial, ?_⟩
          rintro t _ ⟨-, rfl⟩
          have htimed := hpolled.next ⟨.now, t⟩ rfl rfl rfl
          by_cases ht : last.nanoseconds ≤ t.nanoseconds
          · rw [if_pos ht]
            exact ⟨htimed, nofun⟩
          · rw [if_neg ht]
            refine ih htimed ?_
            rw [List.countP_append]
            omega
      rcases answer with cause | _ | peer
      · exact ⟨fun _ => hround, fun _ _ _ => ⟨hpolled, nofun⟩⟩
      · exact ⟨fun _ => hround, nofun⟩
      · refine ⟨trivial, ?_, ?_⟩
        · rintro _ ⟨-, rfl⟩
          refine ⟨hpolled.next ⟨.network .unpoll, .ok ()⟩ rfl rfl rfl, ?_⟩
          rintro _ ⟨⟩
          rw [hsaid]
          simp
        · rintro cause _ ⟨-, rfl⟩
          exact ⟨hpolled.next ⟨.network .unpoll, .error cause⟩ rfl rfl rfl,
            nofun⟩

/-- A command that does not come to listen does nothing at all. -/
theorem finished_unheard {e : Failure} (hport : ∀ addresses port,
      ⟨.network (.listen addresses), .ok port⟩ ∉ said)
    (hstreamed : streamed said = []) (hprinted : printed said = [])
    (hsingle : said.countP duplicates = 0)
    (hkept : said.countP hangsUp = 0) :
    Finished apdus (.error (.failure e)) said where
  sent_part := by
    rw [sent, hstreamed]
    exact List.nil_prefix
  printed := hprinted ▸ .nothing hport
  success_iff := fun hsetUp => nomatch hsingle.symm.trans hsetUp
  letGo := fun hsetUp => nomatch hsingle.symm.trans hsetUp
  spared := fun _ => ⟨hstreamed, hkept⟩

theorem Listening.keeps_attend (h : Listening port 0 said)
    {timeout : Option Duration} {last : Option Instant} :
    (do match ← awaitCard timeout last rounds with
        | none => return .success
        | some peer => serveCard rounds apdus peer :
        Reading ExitCode).run.Keeps (heeding Candid) (Orderly rounds apdus)
      (Finished apdus) said := by
  refine (h.keeps_awaitCard (Nat.le_add_right rounds _)).run_bind ?_
  rintro r said ⟨hlistening, hpeer⟩
  rcases r with stop | _ | peer
  · exact hlistening.finished nofun _
  · exact hlistening.finished nofun _
  · exact keeps_serveCard hlistening (hpeer peer rfl)

/-- What is done before the wait for a card: the port is opened and printed,
and the last moment is settled. -/
def prepare (args : Args) (timeout : Option Duration) :
    Reading (Option Instant) := do
  let port ← onNetwork "bind failed" (Network.bind args.bind args.port)
  print (.waitingForCard port)
  orFail (fun text => ⟨.internal, s!"signal handler setup failed: {text}"⟩)
    (← ask .catchInterrupts)
  deadline timeout

theorem listen_eq (rounds : Nat) (args : Args) (apdus : List Bytes)
    (timeout : Option Duration) :
    listen rounds args apdus timeout = (do
      let last ← prepare args timeout
      match ← awaitCard timeout last rounds with
      | none => return .success
      | some peer => serveCard rounds apdus peer) := by
  rw [prepare]
  simp only [bind_assoc]
  rfl

theorem keeps_prepare {args : Args} {timeout : Option Duration} :
    (prepare args timeout).run.Keeps (heeding Candid) (Orderly rounds apdus)
      (fun r said => match r with
        | .ok _ => ∃ port, Listening port 0 said
        | .error stop => Finished apdus (.error stop) said) [] := by
  rw [prepare, keeps_run_bind, keeps_onNetwork, keeps_networkBind]
  refine ⟨trivial, ?_⟩
  rintro addresses _ ⟨-, rfl⟩
  rcases addresses with cause | _ | ⟨address, addresses⟩
  · exact finished_unheard (by simp) rfl rfl rfl rfl
  · exact finished_unheard (by simp) rfl rfl rfl rfl
  refine ⟨trivial, ?_⟩
  rintro port _ ⟨-, rfl⟩
  cases port with
  | error cause => exact finished_unheard (by simp) rfl rfl rfl rfl
  | ok port =>
    refine ⟨trivial, ?_⟩
    rintro _ said ⟨-, hsaid⟩
    have hlistening : Listening port 0 said := by
      rw [hsaid]
      exact ⟨⟨address :: addresses, by simp⟩, rfl, rfl, rfl, rfl⟩
    refine ⟨trivial, ?_⟩
    rintro caught _ ⟨-, rfl⟩
    have hcaught := hlistening.next ⟨.catchInterrupts, caught⟩ rfl rfl rfl
    cases caught with
    | error text => exact hcaught.finished nofun _
    | ok _ =>
      cases timeout with
      | none => exact ⟨port, hcaught⟩
      | some d =>
        refine keeps_run_bind.mpr (keeps_orFail.mpr
          (keeps_deadline.mpr ⟨trivial, ?_⟩))
        rintro t _ ⟨-, rfl⟩
        have htimed := hcaught.next ⟨.now, t⟩ rfl rfl rfl
        cases t.later? d with
        | none => exact htimed.finished nofun _
        | some last => exact ⟨port, htimed⟩

theorem keeps_listen {args : Args} {timeout : Option Duration} :
    (listen rounds args apdus timeout).run.Keeps (heeding Candid)
      (Orderly rounds apdus) (Finished apdus) [] := by
  rw [listen_eq]
  refine keeps_prepare.run_bind ?_
  intro r said hr
  cases r with
  | error stop => exact hr
  | ok last =>
    obtain ⟨port, hlistening⟩ := hr
    exact hlistening.keeps_attend

end

/-! ## The whole command -/

/-- Texts stand for APDUs if each of them does. -/
theorem apdus_eq_ok {texts : List String} {apdus : List Bytes}
    (h : texts.map Cli.apdu = apdus.map .ok) :
    Cli.apdus texts = .ok apdus := by
  induction texts generalizing apdus with
  | nil =>
    obtain rfl : apdus = [] := by simpa using h.symm
    rfl
  | cons text texts ih =>
    cases apdus with
    | nil => simp at h
    | cons apdu apdus =>
      obtain ⟨hfirst, hrest⟩ := List.cons.inj h
      rw [Cli.apdus, hfirst, ih hrest]
      rfl

theorem timeout?_eq_error {text? : Option String} {e : Failure}
    (h : timeout? text? = .error e) :
    ∃ text, text? = some text ∧ Cli.timeout text = .error e := by
  cases text? with
  | none => cases h
  | some text =>
    rw [timeout?] at h
    cases htext : Cli.timeout text with
    | error e' =>
      rw [htext] at h
      cases h
      exact ⟨text, rfl, htext⟩
    | ok d =>
      rw [htext] at h
      cases h

theorem candid_desk (q : Ask) (s : Desk) :
    Candid ⟨q, (Desk.machine q s).1⟩ := by
  match q with
  | .socket (.stream (.receive size)) =>
    exact honest_receive size s.stream.source
  | .socket (.stream (.send _)) | .socket (.stream .flush) => trivial
  | .socket (.noDelay _) | .socket (.readTimeout _)
  | .socket (.writeTimeout _) | .socket .duplicate | .socket .shutdown =>
    trivial
  | .network _ | .print _ | .catchInterrupts | .interrupted | .now | .log _ =>
    trivial

/-- Somebody comes with a card, which has put both its answers on the line
at once. -/
def Desk.attended : Desk where
  visitor := some "192.0.2.1:40001"
  stream.source := [.octets (wire [0x3B, 0x80] ++ wire [0x90, 0x00])]

end CardBridge.Cli.Reader
