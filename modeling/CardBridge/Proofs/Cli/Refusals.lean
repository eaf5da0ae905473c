import CardBridge.Proofs.Cli.Conversation
import Mathlib.Data.List.Forall2

/-!
# APDUs that no frame holds

The command line takes APDUs of every length but one. The most that a frame
holds is not looked at before the APDU's turn has come: until then the card
is powered, and the earlier APDUs are answered (`refused_for_size_alone`).
-/

namespace CardBridge

open Dialogue

variable {α : Type}

/-- The stream has failed; what was to be sent over it is not at fault. -/
inductive FrameError.OfStream : FrameError → Prop
  | io (cause : IoError) : OfStream (.io cause)
  | closed : OfStream .connectionClosed

/-! ## What a frame may fail for -/

namespace Frame

/-- A frame is turned down, or the stream fails under it. -/
def Turned (refusal : Option FrameError) : Except FrameError α → Prop
  | .ok _ => refusal = none
  | .error e => e.OfStream ∨ refusal = some e

theorem yields_flush (rounds : Nat) : (flush rounds).Yields (Turned none) := by
  induction rounds with
  | zero => trivial
  | succ rounds ih =>
    intro answer
    cases answer with
    | ok _ => rfl
    | error cause =>
      show Yields _ (if cause.isInterrupted then _ else _)
      split
      · exact ih
      · exact .inl (.io cause)

theorem yields_write (rounds : Nat) (pending : Bytes) :
    (write rounds pending).Yields (Turned none) := by
  induction rounds generalizing pending with
  | zero => trivial
  | succ rounds ih =>
    cases pending with
    | nil => exact yields_flush (rounds + 1)
    | cons octet rest =>
      intro answer
      match answer with
      | .ok 0 => exact .inl .closed
      | .ok (accepted + 1) => exact ih _
      | .error cause =>
        show Yields _ (if cause.isInterrupted then _ else _)
        split
        · exact ih _
        · exact .inl (.io cause)

theorem yields_send (rounds : Nat) (payload : Bytes) :
    (send rounds payload).Yields (Turned (oversize payload)) := by
  rw [send, encode, oversize]
  split
  · exact yields_write rounds _
  · exact .inr rfl

theorem yields_sendApdu (rounds : Nat) (apdu : Bytes) :
    (sendApdu rounds apdu).Yields (Turned (Order.apdu apdu).refusal) := by
  rw [sendApdu, Order.refusal]
  split
  · exact .inr rfl
  · exact yields_send rounds apdu

theorem yields_receive (rounds : Nat) (buffer : Bytes) :
    (receive rounds buffer).Yields fun r => Turned none r.1 := by
  induction rounds generalizing buffer with
  | zero => trivial
  | succ rounds ih =>
    rw [receive]
    split
    · rfl
    · intro answer
      cases answer with
      | error cause =>
        show Yields _ (if cause.isInterrupted then _ else _)
        split
        · exact ih _
        · exact .inl (.io cause)
      | ok octets =>
        cases octets with
        | nil => exact .inl .closed
        | cons octet rest => exact ih _

end Frame

/-! ## What a remote card may fail for -/

namespace Remote

open CardBridge.Frame

/-- What an operation is turned down for before anything is sent. -/
def refusalOf : Card.Operation → Option FrameError
  | .transmit apdu => (Order.apdu apdu).refusal
  | _ => none

/-- An operation is turned down, or something else than a frame is at
fault. -/
def Heeds (refusal : Option FrameError) : Except CardError α → Prop
  | .ok _ => refusal = none
  | .error e => ∀ cause, e = .frame cause →
      cause.OfStream ∨ refusal = some cause

theorem heeds_hearing {e : FrameError} (h : Turned none (.error e : Except _ α))
    (refusal : Option FrameError) :
    Heeds refusal (.error (hearing e) : Except CardError α) := by
  intro cause hcause
  cases e with
  | connectionClosed => cases hcause
  | _ =>
    cases hcause
    exact h.imp_right nofun

variable {send : Dialogue Stream (Except FrameError Unit)}
  {refusal : Option FrameError}

theorem yields_tell (h : send.Yields (Turned refusal)) :
    (tell send).Yields (Heeds refusal) := by
  refine Yields.bind h.embed ?_
  intro r hr
  cases r with
  | ok _ => exact hr
  | error e =>
    intro cause hcause
    cases hcause
    exact hr

theorem yields_converse (rounds : Nat) (h : send.Yields (Turned refusal))
    (card : Remote) :
    (converse rounds send card).Yields fun r => Heeds refusal r.1 := by
  refine Yields.bind (yields_tell h) ?_
  intro r hr
  cases r with
  | error e => exact hr
  | ok _ =>
    refine Yields.bind (yields_receive rounds card.buffer).embed ?_
    rintro ⟨result, buffer⟩ hresult
    cases result with
    | ok answer => exact hr
    | error e => exact heeds_hearing hresult refusal

theorem yields_perform (rounds : Nat) (op : Card.Operation) (card : Remote) :
    (perform rounds op card).Yields fun r => Heeds (refusalOf op) r.1 := by
  obtain ⟨buffer, ejected⟩ := card
  have hcontrol (command : ControlCommand) :
      (sendControl rounds command).Yields (Turned none) :=
    yields_send rounds [command.code]
  cases ejected with
  | true =>
    cases op with
    | powerOff | eject => rfl
    | _ => exact nofun
  | false =>
    cases op with
    | powerOn | powerOff | reset =>
      exact Yields.bind (yields_tell (hcontrol _)) fun _ hr => hr
    | atr => exact yields_converse rounds (hcontrol _) _
    | transmit apdu => exact yields_converse rounds (yields_sendApdu _ _) _
    | eject =>
      rw [perform_eject]
      intro answer
      show Heeds none (uponShutdown answer)
      cases answer with
      | ok _ => rfl
      | error cause =>
        rw [uponShutdown]
        split
        · rfl
        · intro frame hframe
          cases hframe

theorem yields_attach : attach.Yields (Heeds none) := by
  intro answer
  cases answer with
  | error cause => exact nofun
  | ok _ =>
    intro answer
    cases answer with
    | error cause => exact nofun
    | ok _ =>
      intro answer
      cases answer with
      | error cause => exact nofun
      | ok _ => rfl

/-- An APDU that no frame holds is refused by a card that is there. -/
theorem perform_of_long (rounds : Nat) {apdu : Bytes}
    (h : maxPayload < apdu.length) (buffer : Bytes) :
    perform rounds (.transmit apdu) { buffer } =
      .done (.error (.frame (.payloadTooLarge apdu.length maxPayload)),
        { buffer }) := by
  have hone : apdu.length ≠ 1 := by
    rw [maxPayload] at h
    omega
  have hsend : sendApdu rounds apdu =
      .done (.error (.payloadTooLarge apdu.length maxPayload)) := by
    rw [sendApdu, if_neg hone, send, encode, if_neg (Nat.not_le_of_lt h)]
  show converse rounds (sendApdu rounds apdu) _ = _
  rw [hsend]
  rfl

end Remote

namespace Cli

open CardBridge.Frame

/-! ## When the data are found invalid -/

namespace Failure

theorem codeOfKind_ne (kind : IoError.Kind) :
    codeOfKind kind ≠ .dataInvalid := by
  cases kind <;> decide

theorem codeOfPlace_ne (cause : IoError) :
    codeOfPlace cause ≠ .dataInvalid := by
  rw [codeOfPlace]
  split <;> decide

theorem code_ofTransport_ne (context : String) (e : TransportError) :
    (ofTransport context e).code ≠ .dataInvalid := by
  cases e with
  | bind address cause | connect address cause => exact codeOfPlace_ne cause
  | io cause | accept cause => exact codeOfKind_ne cause.kind
  | resolve | shutdown => exact nofun

/-- Only a frame that is refused has invalid data, of all that a card may
fail for. -/
theorem code_ofCard_ne (context : String) {e : CardError}
    (h : ∀ cause, e = .frame cause → cause.OfStream) :
    (ofCard context e).code ≠ .dataInvalid := by
  cases e with
  | transport cause => exact code_ofTransport_ne context cause
  | io cause => exact codeOfKind_ne cause.kind
  | frame cause =>
    cases h cause rfl with
    | io cause => exact codeOfKind_ne cause.kind
    | closed => exact nofun
  | remoteClosed | ejected | fault => exact nofun

end Failure

namespace Reader

variable {β ε : Type}

/-- If it is for invalid data that the command stops, it does so with a
failure of this kind. -/
def Stop.BlamedOn (stop : Stop) (culprit : Failure → Prop) : Prop :=
  ∀ e, stop = .failure e → e.code = .dataInvalid → culprit e

theorem Stop.BlamedOn.imp {stop : Stop} {culprit : Failure → Prop}
    (h : stop.BlamedOn fun _ => False) : stop.BlamedOn culprit :=
  fun e he hcode => (h e he hcode).elim

/-- A part of the command that does not find the data invalid. -/
def Blameless (part : Reading α) : Prop :=
  part.run.Yields fun r =>
    ∀ stop, r = .error stop → stop.BlamedOn fun _ => False

theorem Blameless.bind {part : Reading α} {next : α → Reading β}
    (h : Blameless part) (hnext : ∀ a, Blameless (next a)) :
    Blameless (part >>= next) := by
  refine Yields.run_bind h ?_
  intro r hr
  cases r with
  | ok a => exact hnext a
  | error stop =>
    intro stop' hstop
    cases hstop
    exact hr stop rfl

theorem blameless_pure (a : α) : Blameless (pure a) :=
  fun _ => nofun

theorem blameless_lift (d : Dialogue Surroundings α) :
    Blameless (ExceptT.lift d) :=
  Yields.run_lift (yields_of_forall fun _ _ => nofun)

theorem blameless_throw {stop : Stop} (h : stop.BlamedOn fun _ => False) :
    Blameless (throw stop : Reading α) := by
  intro stop' hstop
  cases hstop
  exact h

theorem blameless_orFail {wrap : ε → Failure} {result : Except ε α}
    (h : ∀ e, result = .error e → (wrap e).code ≠ .dataInvalid) :
    Blameless (orFail wrap result) := by
  cases result with
  | ok a => exact blameless_pure a
  | error e =>
    refine blameless_throw fun failure hfailure => ?_
    cases hfailure
    exact h e rfl

theorem blameless_onNetwork (context : String)
    (d : Dialogue Network (Except TransportError α)) :
    Blameless (onNetwork context d) :=
  (blameless_lift _).bind fun _ =>
    blameless_orFail fun e _ => Failure.code_ofTransport_ne context e

/-- What is done over the connection is not to blame for what comes after
it. -/
theorem blameless_onSocket {d : Dialogue Socket α} {Q : α → Prop}
    {next : α → Reading β} (h : d.Yields Q)
    (hnext : ∀ a, Q a → Blameless (next a)) :
    Blameless (onSocket d >>= next) := by
  have hlift : (onSocket d).run.Yields fun r => ∃ a, r = .ok a ∧ Q a :=
    Yields.run_lift (h.embed.imp fun a ha => ⟨a, rfl, ha⟩)
  refine hlift.run_bind ?_
  rintro _ ⟨a, rfl, ha⟩
  exact hnext a ha

theorem blameless_ofCard (context : String) {result : Except CardError α}
    (h : Remote.Heeds none result) :
    Blameless (orFail (.ofCard context) result) := by
  refine blameless_orFail ?_
  rintro e rfl
  exact Failure.code_ofCard_ne context fun cause hcause =>
    (h cause hcause).resolve_right nofun

/-- An operation that is not turned down is not to blame. -/
theorem blameless_onCard (rounds : Nat) (context : String)
    {op : Card.Operation} (h : Remote.refusalOf op = none) (card : Remote) :
    Blameless ((onCard rounds context op).run card) := by
  rw [run_onCard]
  refine blameless_onSocket (Remote.yields_perform rounds op card) ?_
  intro r hr
  rw [h] at hr
  exact (blameless_ofCard context hr).bind fun _ => blameless_pure _

theorem blameless_exchange (rounds : Nat) {apdu : Bytes}
    (hone : apdu.length ≠ 1) (hfits : apdu.length ≤ maxPayload)
    (card : Remote) : Blameless ((exchange rounds apdu).run card) := by
  have hop : Remote.refusalOf (.transmit apdu) = none :=
    (refusal_apdu_eq_none_iff apdu).mpr ⟨hone, hfits⟩
  rw [run_exchange]
  refine (blameless_onCard rounds _ hop card).bind fun _ => ?_
  exact (blameless_lift _).bind fun _ => blameless_pure _

theorem blameless_checkDeadline (timeout : Option Duration)
    (last : Option Instant) : Blameless (checkDeadline timeout last) := by
  cases last with
  | none => exact blameless_pure ()
  | some last =>
    refine (blameless_lift _).bind fun t => ?_
    split
    · refine blameless_throw fun e he => ?_
      cases he
      exact nofun
    · exact blameless_pure ()

theorem blameless_awaitCard (timeout : Option Duration)
    (last : Option Instant) (rounds : Nat) :
    Blameless (awaitCard timeout last rounds) := by
  induction rounds with
  | zero => trivial
  | succ rounds ih =>
    refine (blameless_lift _).bind fun interrupted => ?_
    cases interrupted with
    | true => exact blameless_pure none
    | false =>
      refine (blameless_onNetwork _ _).bind fun answer => ?_
      cases answer with
      | some peer => exact blameless_pure (some peer)
      | none => exact (blameless_checkDeadline timeout last).bind fun _ => ih

theorem blameless_attach : Blameless attach := by
  have hsetup (result : Except TransportError Unit) :
      Blameless (orFail (.ofTransport "socket setup failed") result) :=
    blameless_orFail fun e _ => Failure.code_ofTransport_ne _ e
  refine (blameless_lift _).bind fun r => (hsetup r).bind fun _ => ?_
  refine (blameless_lift _).bind fun r => (hsetup r).bind fun _ => ?_
  exact blameless_onSocket Remote.yields_attach
    fun _ hresult => blameless_ofCard _ hresult

theorem blameless_prepare (args : Args) (timeout : Option Duration) :
    Blameless (prepare args timeout) := by
  have hcatch (r : Except String Unit) : Blameless (orFail (fun text =>
      ⟨.internal, s!"signal handler setup failed: {text}"⟩) r) :=
    blameless_orFail fun _ _ => nofun
  refine (blameless_onNetwork _ _).bind fun port => ?_
  refine (blameless_lift _).bind fun _ => ?_
  refine (blameless_lift _).bind fun r => (hcatch r).bind fun _ => ?_
  cases timeout with
  | none => exact blameless_pure none
  | some d =>
    refine (blameless_lift _).bind fun t => ?_
    split
    · exact blameless_pure _
    · exact blameless_throw fun _ => nofun

/-! ## How far the command comes -/

/-- What the command fails with over an APDU that no frame holds. -/
def tooLong (apdu : Bytes) : Failure :=
  .ofCard "transmit failed"
    (.frame (.payloadTooLarge apdu.length maxPayload))

theorem exchange_of_long (rounds : Nat) {apdu : Bytes}
    (h : maxPayload < apdu.length) (buffer : Bytes) :
    (exchange rounds apdu).run { buffer } =
      throw (.failure (tooLong apdu)) := by
  rw [run_exchange, run_onCard, Remote.perform_of_long rounds h]
  rfl

/-- The turn of an APDU has come that no frame holds: all before it are
answered. -/
structure Stuck (front : List Record) (apdus : List Bytes) (e : Failure)
    (said : List (Exchange Surroundings)) (earlier : List Bytes)
    (apdu : Bytes) (later answers : List Bytes) : Prop where
  apdus_eq : apdus = earlier ++ apdu :: later
  fit : Fit earlier
  long : maxPayload < apdu.length
  failure_eq : e = tooLong apdu
  standing :
    Standing front apdus ([0x01] :: [0x04] :: earlier) answers answers said
  length_eq : answers.length = earlier.length + 1

/-- How a part of the conversation ends: if every APDU fits it may succeed,
and only for the first that does not are the data found invalid. -/
def Sifts (front : List Record) (apdus : List Bytes) :
    Except Stop α → List (Exchange Surroundings) → Prop
  | .ok _, _ => Fit apdus
  | .error stop, said => stop.BlamedOn fun e =>
      ∃ earlier apdu later answers,
        Stuck front apdus e said earlier apdu later answers

/-- How the command fails over an APDU that no frame holds: the card is
powered, the earlier APDUs are answered, and nothing of this one is sent. -/
structure Halted (port : UInt16) (address : String) (earlier : List Bytes)
    (apdu : Bytes) (e : Failure) (said : List (Exchange Surroundings)) :
    Prop where
  fit : Fit earlier
  long : maxPayload < apdu.length
  failure_eq : e = tooLong apdu
  sent_eq : sent said = wires ([0x01] :: [0x04] :: earlier)
  replies_length : (replies said).length = earlier.length + 1
  printed_eq : printed said = .waitingForCard port ::
    .cardConnected address :: records earlier (replies said)
  letGo : LetGo said

/-- How the command ends that was given these APDUs: well only if all of them
fit or there was an interrupt, and for invalid data only over the first that
does not fit. -/
def Judged (apdus : List Bytes) :
    Except Stop ExitCode → List (Exchange Surroundings) → Prop
  | .ok _, said => Fit apdus ∨ ⟨.interrupted, true⟩ ∈ said
  | .error stop, said => stop.BlamedOn fun e =>
      ∃ port address earlier apdu later, apdus = earlier ++ apdu :: later ∧
        Halted port address earlier apdu e said

section

variable {rounds : Nat} {front : List Record} {port : UInt16}
  {apdus done rest answers : List Bytes}
  {before said : List (Exchange Surroundings)}

theorem Blameless.keeps {part : Reading α} (h : Blameless part) :
    part.run.Keeps (heeding Candid) (fun _ _ => True)
      (fun r _ => ∀ stop, r = .error stop → stop.BlamedOn fun _ => False)
      before :=
  ((keeps_of_forall (fun _ _ => trivial) fun _ _ => trivial).yielding h).imp
    fun _ _ hr => hr.2

/-- A part of the conversation that is not to blame, and what comes after
it. -/
theorem sifts_bind {part : Reading (α × Remote)}
    {next : α × Remote → Reading (β × Remote)}
    {Q : α → List (Exchange Surroundings) → Prop}
    (h : part.run.Keeps (heeding Candid) (Orderly rounds apdus)
      (Leads front apdus Q) before) (hpart : Blameless part)
    (hnext : ∀ a said, Q a said →
      (next (a, {})).run.Keeps (heeding Candid) (fun _ _ => True)
        (Sifts front apdus) said) :
    (part >>= next).run.Keeps (heeding Candid) (fun _ _ => True)
      (Sifts front apdus) before := by
  refine (h.yielding hpart).ends.run_bind ?_
  intro r said hr
  match r, hr with
  | .error stop, ⟨_, hblameless⟩ => exact (hblameless stop rfl).imp
  | .ok (a, _), ⟨⟨rfl, ha⟩, _⟩ => exact hnext a said ha

/-- The APDUs in turn, from any of them on, until one is too long. -/
theorem Standing.keeps_sifting
    (h : Standing front apdus ([0x01] :: [0x04] :: done) answers answers
      before)
    (hapdus : done ++ rest = apdus)
    (hlength : answers.length = done.length + 1) (hfit : Fit done)
    (hrest : ∀ apdu ∈ rest, apdu.length ≠ 1) :
    ((rest.forM (exchange rounds)).run {}).run.Keeps (heeding Candid)
      (fun _ _ => True) (Sifts front apdus) before := by
  induction rest generalizing done answers before with
  | nil =>
    rw [List.append_nil] at hapdus
    exact hapdus ▸ hfit
  | cons apdu rest ih =>
    rw [run_exchanges_cons]
    by_cases hlong : maxPayload < apdu.length
    · rw [exchange_of_long rounds hlong []]
      intro e he _
      cases he
      exact ⟨done, apdu, rest, answers, hapdus.symm, hfit, hlong, rfl, h,
        hlength⟩
    · have hfits : apdu.length ≤ maxPayload := Nat.le_of_not_lt hlong
      have hone : apdu.length ≠ 1 := hrest apdu (List.mem_cons_self ..)
      refine sifts_bind (h.keeps_exchange hapdus hlength)
        (blameless_exchange rounds hone hfits {}) ?_
      rintro _ said ⟨answer, hanswer⟩
      exact ih hanswer (by simp [← hapdus]) (by simp [hlength])
        (by simp [hfit, hfits])
        fun later hmem => hrest later (List.mem_cons_of_mem _ hmem)

/-- A card is used up to the first APDU that is too long. -/
theorem Standing.keeps_sifting_card (h : Standing front apdus [] [] [] before)
    (hapdus : ∀ apdu ∈ apdus, apdu.length ≠ 1) :
    ((useCard rounds apdus).run {}).run.Keeps (heeding Candid)
      (fun _ _ => True) (Sifts front apdus) before := by
  rw [run_useCard]
  refine sifts_bind h.keeps_powerOn (blameless_onCard rounds _ rfl {}) ?_
  intro _ said hpowered
  refine sifts_bind hpowered.keeps_atr (blameless_onCard rounds _ rfl {}) ?_
  intro atr said hatr
  refine ⟨trivial, ?_⟩
  rintro _ _ ⟨-, rfl⟩
  have hnothing : [] ++ apdus = apdus := rfl
  refine (hatr.printing_atr.keeps_sifting hnothing rfl fit_nil
    hapdus).run_bind ?_
  intro r said hr
  cases r with
  | error stop => exact hr
  | ok a =>
    have hoff : Blameless
        ((onCard rounds "power off failed" .powerOff).run a.2) :=
      blameless_onCard rounds _ rfl a.2
    refine hoff.keeps.imp ?_
    intro r said hend
    cases r with
    | ok _ => exact hr
    | error stop => exact (hend stop rfl).imp

/-- A card is let go of also when an APDU was too long for it. -/
theorem Stuck.halted {address : String} {e : Failure}
    {earlier rest answers : List Bytes} {apdu : Bytes}
    {later : List (Exchange Surroundings)}
    (h : Stuck [.waitingForCard port, .cardConnected address] apdus e said
      earlier apdu rest answers) (hlater : Parting later) :
    Halted port address earlier apdu e (said ++ later) where
  fit := h.fit
  long := h.long
  failure_eq := h.failure_eq
  sent_eq := hlater.sent_eq.trans h.standing.sent_eq
  replies_length := by
    rw [hlater.replies_eq, h.standing.replies_eq, h.length_eq]
  printed_eq := by
    rw [hlater.printed_eq, hlater.replies_eq, h.standing.replies_eq,
      h.standing.printed_eq, h.apdus_eq, records_append _ h.length_eq]
    rfl
  letGo := ⟨said, later, rfl, h.standing.kept, hlater⟩

theorem Listening.keeps_serving (h : Listening port 0 before)
    (hapdus : ∀ apdu ∈ apdus, apdu.length ≠ 1) (peer : Option Address) :
    (serveCard rounds apdus peer).run.Keeps (heeding Candid)
      (fun _ _ => True) (Judged apdus) before := by
  rw [serveCard]
  have hattach : attach.run.Keeps (heeding Candid) (Orderly rounds apdus) _
      before := keeps_attach h
  refine (hattach.yielding blameless_attach).ends.run_bind ?_
  rintro (stop | card) said ⟨hr, hblameless⟩
  · exact (hblameless stop rfl).imp
  obtain ⟨rfl, hready⟩ := hr
  refine ⟨trivial, ?_⟩
  rintro _ _ ⟨-, rfl⟩
  show Keeps _ _ _ (ExceptT.run (ExceptT.lift _ >>= _)) _
  rw [keeps_run_bind, keeps_run_lift]
  refine ((hready.standing _).keeps_sifting_card hapdus).imp ?_
  intro result said hresult
  have heject : (eject rounds {}).run.Keeps (heeding Candid)
      (Orderly rounds apdus) (fun r said' => r = .ok () ∧
        ∃ later, Parting later ∧ said' = said ++ later) said :=
    keeps_eject fun later hlater => ⟨rfl, later, hlater, rfl⟩
  refine heject.ends.run_bind ?_
  rintro _ _ ⟨rfl, later, hlater, rfl⟩
  cases result with
  | ok _ => exact .inl hresult
  | error stop =>
    intro e he hcode
    obtain ⟨earlier, apdu, rest, answers, hstuck⟩ := hresult e he hcode
    exact ⟨port, _, earlier, apdu, rest, hstuck.apdus_eq,
      hstuck.halted hlater⟩

/-- Whoever waits gives way to nothing but an interrupt. -/
def GivesWay (r : Except Stop (Option (Option Address)))
    (said : List (Exchange Surroundings)) : Prop :=
  r = .ok none → ⟨.interrupted, true⟩ ∈ said

theorem keeps_givingWay (timeout : Option Duration) (last : Option Instant)
    (rounds : Nat) :
    (awaitCard timeout last rounds).run.Keeps noting (fun _ _ => True)
      GivesWay before := by
  induction rounds generalizing before with
  | zero => trivial
  | succ rounds ih =>
    refine keeps_awaitCard_succ trivial ?_ ?_
    · rintro _ rfl _
      simp
    · rintro _ rfl
      refine ⟨trivial, ?_⟩
      rintro answer said -
      have hround : (do
          checkDeadline timeout last
          awaitCard timeout last rounds).run.Keeps noting (fun _ _ => True)
            GivesWay said := by
        have hcheck : (checkDeadline timeout last).run.Keeps noting
            (fun _ _ => True) (fun _ _ => True) said :=
          keeps_of_forall (fun _ _ => trivial) fun _ _ => trivial
        refine hcheck.run_bind ?_
        intro r said _
        cases r with
        | ok _ => exact ih
        | error stop => exact nofun
      rcases answer with cause | _ | peer
      · exact ⟨fun _ => hround, fun _ _ _ => nofun⟩
      · exact ⟨fun _ => hround, nofun⟩
      · exact ⟨trivial, fun _ _ => nofun, fun _ _ _ => nofun⟩

/-- A command that listens waits for a card, and uses the one that comes. -/
theorem Listening.keeps_judged (h : Listening port 0 before)
    (hapdus : ∀ apdu ∈ apdus, apdu.length ≠ 1) {timeout : Option Duration}
    {last : Option Instant} :
    (do match ← awaitCard timeout last rounds with
        | none => return .success
        | some peer => serveCard rounds apdus peer :
        Reading ExitCode).run.Keeps (heeding Candid) (fun _ _ => True)
      (Judged apdus) before := by
  have hwait : (awaitCard timeout last rounds).run.Keeps (heeding Candid)
      (Orderly rounds apdus) (Attended port) before :=
    h.keeps_awaitCard (Nat.le_add_right rounds _)
  refine ((hwait.and (keeps_givingWay timeout last rounds).heed).yielding
    (blameless_awaitCard timeout last rounds)).ends.run_bind ?_
  rintro r said ⟨⟨⟨hlistening, -⟩, hgives⟩, hblameless⟩
  rcases r with stop | _ | peer
  · exact (hblameless stop rfl).imp
  · exact .inr (hgives rfl)
  · exact hlistening.keeps_serving hapdus peer

theorem keeps_judging (hapdus : ∀ apdu ∈ apdus, apdu.length ≠ 1)
    {args : Args} {timeout : Option Duration} :
    (listen rounds args apdus timeout).run.Keeps (heeding Candid)
      (fun _ _ => True) (Judged apdus) [] := by
  have hprepare : (prepare args timeout).run.Keeps (heeding Candid)
      (Orderly rounds apdus) _ [] := keeps_prepare
  rw [listen_eq]
  refine (hprepare.yielding
    (blameless_prepare args timeout)).ends.run_bind ?_
  rintro (stop | last) said ⟨hr, hblameless⟩
  · exact (hblameless stop rfl).imp
  · obtain ⟨port, hlistening⟩ := hr
    exact hlistening.keeps_judged hapdus

end

/-! ## The whole command -/

theorem length_ne_one_of_apdu {text : String} {apdu : Bytes}
    (h : Cli.apdu text = .ok apdu) : apdu.length ≠ 1 := by
  obtain ⟨hdenotes, hlength⟩ := apdu_eq_ok_iff.mp h
  rw [hdenotes.length_eq] at hlength
  omega

/-- An APDU that was read from the command line is refused for nothing but
its length, and refused if it is too long. -/
structure Admitted (text : String) (apdu : Bytes) : Prop where
  long_iff : maxPayload < apdu.length ↔
    2 * maxPayload < (Text.squeeze text.toList).length
  refused : maxPayload < apdu.length → ∀ rounds buffer,
    Remote.perform rounds (.transmit apdu) { buffer } =
      .done (.error (.frame (.payloadTooLarge apdu.length maxPayload)),
        { buffer })
  taken : apdu.length ≤ maxPayload → ∀ rounds card,
    (Remote.perform rounds (.transmit apdu) card).Yields fun r =>
      ∀ cause, r.1 = .error (.frame cause) → cause.OfStream

theorem admitted {text : String} {apdu : Bytes}
    (h : Cli.apdu text = .ok apdu) : Admitted text apdu where
  long_iff := by
    rw [(apdu_eq_ok_iff.mp h).1.length_eq]
    omega
  refused hlong rounds buffer := Remote.perform_of_long rounds hlong buffer
  taken hfits rounds card := by
    have hop : Remote.refusalOf (.transmit apdu) = none :=
      (refusal_apdu_eq_none_iff apdu).mpr ⟨length_ne_one_of_apdu h, hfits⟩
    refine (Remote.yields_perform rounds _ card).imp ?_
    intro r hr cause hcause
    rw [hop, hcause] at hr
    exact (hr cause rfl).resolve_right nofun

theorem length_ne_one_of_map {texts : List String} {apdus : List Bytes}
    (h : texts.map Cli.apdu = apdus.map .ok) :
    ∀ apdu ∈ apdus, apdu.length ≠ 1 := by
  intro apdu hmem
  have hread : Except.ok apdu ∈ texts.map Cli.apdu :=
    h ▸ List.mem_map_of_mem hmem
  obtain ⟨text, -, htext⟩ := List.mem_map.mp hread
  exact length_ne_one_of_apdu htext

theorem forall₂_admitted {texts : List String} {apdus : List Bytes}
    (h : texts.map Cli.apdu = apdus.map .ok) :
    List.Forall₂ Admitted texts apdus := by
  rw [← List.forall₂_eq_eq_eq, List.forall₂_map_left_iff,
    List.forall₂_map_right_iff] at h
  exact h.imp fun _ _ => admitted

/-- Texts that are read as APDUs are refused afterwards for their length
alone: a frame holds half as many octets as there are digits, up to its
limit, and the command finds the data invalid only over the first APDU beyond
that, after it has exchanged those before it. -/
theorem refused_for_size_alone {ω : Type} (machine : Machine Surroundings ω)
    (hmachine : ∀ q w, Candid ⟨q, (machine q w).1⟩) (rounds : Nat)
    (args : Args) (apdus : List Bytes) (w : ω)
    (hread : args.apdus.map Cli.apdu = apdus.map .ok) :
    List.Forall₂ Admitted args.apdus apdus ∧
    ∃ result w' said,
      (run rounds args).run.run machine.handler.noted (w, []) =
        (result, w', said) ∧ ∀ r, result = some r → Judged apdus r said := by
  refine ⟨forall₂_admitted hread, ?_⟩
  have hone := length_ne_one_of_map hread
  have hjudged : (run rounds args).run.Keeps (heeding Candid)
      (fun _ _ => True) (Judged apdus) [] := by
    rw [run, apdus_eq_ok hread]
    cases htimeout : timeout? args.timeout with
    | error e =>
      obtain ⟨text, -, he⟩ := timeout?_eq_error htimeout
      intro failure hfailure hcode
      cases hfailure
      rw [id, code_of_timeout he] at hcode
      cases hcode
    | ok timeout => exact keeps_judging hone
  obtain ⟨result, w', said, hrun, -, hend⟩ := hjudged.run_heeding hmachine w
  refine ⟨result, w', said, hrun, ?_⟩
  rintro r rfl
  exact hend

/-! ## An APDU of one octet too many -/

/-- The digits of so many octets, all of them zero. -/
def zeros (n : Nat) : String :=
  String.ofList (List.replicate (2 * n) '0')

theorem denotes_zeros (n : Nat) :
    Hex.Denotes (List.replicate (2 * n) '0') (List.replicate n 0) := by
  induction n with
  | zero => exact .nil
  | succ n ih =>
    have hzero : ('0', 0) ∈ Hex.digits := by decide
    exact .cons hzero hzero rfl ih

theorem apdu_zeros {n : Nat} (h : n ≠ 1) :
    Cli.apdu (zeros n) = .ok (List.replicate n 0) := by
  have hsqueeze : Text.squeeze (List.replicate (2 * n) '0') =
      List.replicate (2 * n) '0' := by
    have hblank : Text.isBlank '0' = false := by decide
    simp [Text.squeeze, hblank]
  rw [apdu_eq_ok_iff, zeros, String.toList_ofList, hsqueeze]
  refine ⟨denotes_zeros n, ?_⟩
  rw [List.length_replicate]
  omega

/-- The first of two APDUs fits a frame, and the second is one octet too
long. -/
theorem refused_for_size_alone_of_zeros :
    let args : Args := { apdus := ["00 a4", zeros 65536] }
    let apdus : List Bytes := [[0x00, 0xA4], List.replicate 65536 0]
    (∀ q s, Candid ⟨q, (Desk.machine q s).1⟩) ∧
    args.apdus.map Cli.apdu = apdus.map .ok ∧
    List.Forall₂ Admitted args.apdus apdus ∧
    ∃ result w' said,
      (run 10 args).run.run Desk.machine.handler.noted (Desk.attended, []) =
        (result, w', said) ∧
      ∀ r, result = some r → Judged apdus r said := by
  intro args apdus
  have hshort : Cli.apdu "00 a4" = .ok [0x00, 0xA4] := rfl
  have hlong : Cli.apdu (zeros 65536) = .ok (List.replicate 65536 0) :=
    apdu_zeros (by decide)
  have hread : args.apdus.map Cli.apdu = apdus.map .ok := by
    rw [List.map_cons, List.map_cons, hshort, hlong]
    rfl
  exact ⟨candid_desk, hread, refused_for_size_alone Desk.machine candid_desk
    10 args apdus Desk.attended hread⟩

theorem exchange_eq_of_long (rounds : Nat) {apdu : Bytes}
    (h : maxPayload < apdu.length) :
    exchange rounds apdu = fun card => throw (.failure
      (bif card.ejected then .ofCard "transmit failed" .ejected
        else tooLong apdu)) := by
  funext card
  obtain ⟨buffer, ejected⟩ := card
  cases ejected with
  | true => rfl
  | false => exact exchange_of_long rounds h buffer

/-- A card that answers everything is sent the first APDU; the second stops
the command. -/
theorem run_of_long {text : String} {apdu : Bytes}
    (htext : Cli.apdu text = .ok apdu) (hlong : maxPayload < apdu.length) :
    ∃ s said, (run 10 { apdus := ["00 a4", text] }).run.run
        Desk.machine.handler.noted (Desk.attended, []) =
          (some (.error (.failure (tooLong apdu))), s, said) ∧
      printed said = [.waitingForCard defaultPort,
        .cardConnected "192.0.2.1:40001", .atr "3B80",
        .exchange "00A4" "9000"] ∧
      sent said = wires [[0x01], [0x04], [0x00, 0xA4]] := by
  have hread : Cli.apdus ["00 a4", text] = .ok [[0x00, 0xA4], apdu] := by
    apply apdus_eq_ok
    rw [List.map_cons, List.map_cons, htext]
    rfl
  have hrun : run 10 { apdus := ["00 a4", text] } =
      listen 10 { apdus := ["00 a4", text] } [[0x00, 0xA4], apdu] none := by
    rw [run, hread]
    rfl
  rw [hrun]
  simp only [listen, serveCard, useCard, List.forM_eq_forM, List.forM_cons,
    List.forM_nil]
  rw [exchange_eq_of_long 10 hlong]
  exact ⟨_, _, rfl, rfl, rfl⟩

/-- The digits of 65536 octets are read as an APDU, which no frame holds; and
the command fails over it with the card powered and the APDU before it
answered. -/
theorem accepted_apdu_beyond_frame :
    Cli.apdu (zeros 65536) = .ok (List.replicate 65536 0) ∧
    (∀ rounds, Remote.perform rounds
        (.transmit (List.replicate 65536 0)) {} =
      .done (.error (.frame (.payloadTooLarge 65536 65535)), {})) ∧
    ∃ s said, (run 10 { apdus := ["00 a4", zeros 65536] }).run.run
        Desk.machine.handler.noted (Desk.attended, []) =
          (some (.error (.failure (.ofCard "transmit failed"
            (.frame (.payloadTooLarge 65536 65535))))), s, said) ∧
      printed said = [.waitingForCard defaultPort,
        .cardConnected "192.0.2.1:40001", .atr "3B80",
        .exchange "00A4" "9000"] ∧
      sent said = wires [[0x01], [0x04], [0x00, 0xA4]] := by
  have hread : Cli.apdu (zeros 65536) = .ok (List.replicate 65536 0) :=
    apdu_zeros (by decide)
  have hlength : (List.replicate 65536 (0 : UInt8)).length = 65536 :=
    List.length_replicate ..
  have hlong : maxPayload < (List.replicate 65536 (0 : UInt8)).length := by
    rw [hlength]
    decide
  refine ⟨hread, fun rounds => ?_, ?_⟩
  · have hrefused := Remote.perform_of_long rounds hlong []
    rw [hlength] at hrefused
    exact hrefused
  · have hrun := run_of_long hread hlong
    rw [tooLong, hlength] at hrun
    exact hrun

end Reader

end Cli

end CardBridge
