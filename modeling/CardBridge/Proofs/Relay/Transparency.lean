import CardBridge.Proofs.Relay.Line
import CardBridge.Proofs.Session.Scene

/-!
# A card behind a connection is like the card itself

A reader that uses a card through a connection, served by a session at the
other end, gets what the card itself gives (`relay_transparent`). The two
cannot wait for each other, and neither goes on for ever, so every run can be
brought to an end.
-/

namespace CardBridge

open Dialogue Session Session.Account

namespace Relay

variable {σ : Type}

namespace Line

section

variable {machine : Machine Card σ} {peer : Option Address} {card : σ}
  {config : SessionConfig} {ops : List Card.Operation} {s : Line σ}

/-! ## No run goes on for ever -/

/-- What is left of the session gets smaller where the reader does not. -/
theorem acc_of_reader
    {reader : Dialogue Socket (Except CardError (List (Exchange Card)))}
    (h : ∀ q next, reader = .ask q next →
      ∀ a outpost session encounter, Acc (fun t s => Step machine peer s t)
        ⟨next a, outpost, session, encounter⟩)
    (outpost : Outpost) (session : Dialogue Session Outcome)
    (encounter : Encounter σ Doorstep) :
    Acc (fun t s => Step machine peer s t)
      ⟨reader, outpost, session, encounter⟩ := by
  induction session generalizing outpost encounter with
  | done r =>
    refine .intro _ fun t hstep => ?_
    cases hstep with
    | reader hreader _ => exact h _ _ hreader _ _ _ _
    | session hsession _ => cases hsession
  | cut =>
    refine .intro _ fun t hstep => ?_
    cases hstep with
    | reader hreader _ => exact h _ _ hreader _ _ _ _
    | session hsession _ => cases hsession
  | ask q next ih =>
    refine .intro _ fun t hstep => ?_
    cases hstep with
    | reader hreader _ => exact h _ _ hreader _ _ _ _
    | session hsession _ =>
      cases hsession
      exact ih _ _ _

/-- Every run comes to an end. -/
theorem acc (s : Line σ) : Acc (fun t s => Step machine peer s t) s := by
  obtain ⟨reader, outpost, session, encounter⟩ := s
  -- a step of the session leaves the reader as it is
  induction reader generalizing outpost session encounter with
  | done r =>
    refine acc_of_reader (fun q next hask => ?_) _ _ _
    cases hask
  | cut =>
    refine acc_of_reader (fun q next hask => ?_) _ _ _
    cases hask
  | ask q next ih =>
    refine acc_of_reader (fun q' next' hask => ?_) _ _ _
    cases hask
    exact ih

/-- A run can be brought to where no step is left. -/
theorem exists_end (s : Line σ) :
    ∃ t, Run machine peer s t ∧ ∀ u, ¬ Step machine peer t u := by
  have hacc : Acc (fun t s => Step machine peer s t) s := acc s
  induction hacc with
  | intro s _ ih =>
    by_cases hend : ∀ u, ¬ Step machine peer s u
    · exact ⟨s, .start, hend⟩
    · obtain ⟨u, hstep⟩ := Classical.not_forall_not.mp hend
      obtain ⟨t, hrun, ht⟩ := ih u hstep
      exact ⟨t, hrun.before hstep, ht⟩

/-! ## Nobody waits in vain -/

/-- What is not all of a list can be continued. -/
theorem exists_concat {α : Type} {part all : List α}
    (h : part <+: all) (hne : part ≠ all) :
    ∃ next, part ++ [next] <+: all := by
  obtain ⟨later, rfl⟩ := h
  cases later with
  | nil => exact absurd (List.append_nil part).symm hne
  | cons next later => exact ⟨next, ⟨later, by simp⟩⟩

section

variable (h : Kept machine peer card config ops s)
  (hend : ∀ t, ¬ Step machine peer s t)

include h hend

/-- A reader that cannot go on has heard all that was sent so far. -/
theorem Kept.reader_waits {q : Socket.Ask} {next : Socket.Answer q →
      Dialogue Socket (Except CardError (List (Exchange Card)))}
    (hreader : s.reader = .ask q next) :
    .hungUp ∉ s.encounter.deeds ∧
      s.outpost.heard = sentOf s.encounter.deeds ∧
      (Outpost.Failing machine card s.outpost.written ↔
        s.outpost.heard = Outpost.due machine card s.outpost.written) := by
  have hno (a : Socket.Answer q) (outpost : Outpost) :
      ¬ Line.atReader s.encounter q s.outpost a outpost :=
    fun ha => hend _ (.reader hreader ha)
  have hprudent := h.reader
  rw [hreader] at hprudent
  replace hprudent := hprudent.1
  match q, hprudent, hno with
  | .stream (.receive size), ⟨_, hsize, hwaits⟩, hno =>
    have hhungUp : .hungUp ∉ s.encounter.deeds := by
      intro hhungUp
      exact hno (.error ⟨.connectionReset, ""⟩) s.outpost
        (.inr ⟨hhungUp, rfl, .inr ⟨_, rfl, rfl⟩⟩)
    refine ⟨hhungUp, ?_, hwaits⟩
    -- an octet on the way could be delivered
    apply Decidable.byContradiction
    intro hne
    obtain ⟨octet, hmore⟩ := exists_concat h.heard hne
    exact hno (.ok [octet]) { s.outpost with
      heard := s.outpost.heard ++ [octet] }
      (.inl ⟨[octet], List.cons_ne_nil _ _, hsize, hmore, rfl, rfl⟩)
  | .stream (.send offered), ⟨_, hoffered, _⟩, hno =>
    by_cases hhungUp : .hungUp ∈ s.encounter.deeds
    · exact absurd (.inr ⟨hhungUp, rfl, .inr ⟨⟨.brokenPipe, ""⟩, rfl, rfl⟩⟩)
        (hno _ _)
    · exact absurd (.inl ⟨hhungUp, offered.length,
        List.length_pos_iff.mpr hoffered, Nat.le_refl _, rfl, rfl⟩) (hno _ _)
  | .stream .flush, _, hno | .noDelay _, _, hno | .readTimeout _, _, hno
  | .writeTimeout _, _, hno | .duplicate, _, hno =>
    exact absurd ⟨rfl, rfl⟩ (hno (.ok ()) s.outpost)
  | .shutdown, _, hno =>
    exact absurd rfl (hno (.ok ()) { s.outpost with left := true })

/-- A session that cannot go on has done all that it was asked to do. -/
theorem Kept.session_waits {q : Ask}
    {next : Session.Answer q → Dialogue Session Outcome}
    (hsession : s.session = .ask q next) :
    s.outpost.left = false ∧ s.encounter.taken = s.outpost.written ∧
      (s.encounter.account machine card).fault = none ∧
      sentOf s.encounter.deeds =
        sentOf (s.encounter.account machine card).deeds := by
  have hno (a : Session.Answer q) (encounter : Encounter σ Doorstep) :
      ¬ Encounter.surroundings (Doorstep.surroundings peer) machine
        (Line.atSession s.outpost) q s.encounter a encounter :=
    fun ha => hend _ (.session hsession ha)
  have hattentive := h.session
  rw [hsession] at hattentive
  replace hattentive := hattentive.1
  by_cases hstream : ∃ q', q = .socket (.stream q')
  · obtain ⟨q', rfl⟩ := hstream
    match q', hattentive, hno with
    | .receive size, ⟨hsize, hfault, before, hquiet, hsettled⟩, hno =>
      have htaken : s.encounter.taken = s.outpost.written := by
        apply Decidable.byContradiction
        intro hne
        obtain ⟨octet, hmore⟩ := exists_concat h.taken hne
        exact hno (.ok [octet]) { s.encounter with
          taken := s.encounter.taken ++ [octet] }
          (.inl ⟨[octet], List.cons_ne_nil _ _, hsize, hmore, rfl, rfl⟩)
      refine ⟨Bool.eq_false_iff.mpr fun hleft => ?_, htaken, hfault, ?_⟩
      · exact hno (.ok []) { s.encounter with ended := true }
          (.inr (.inl ⟨hleft, htaken, rfl, rfl⟩))
      · rw [hsettled.deeds_eq, sentOf_append, hquiet.sentOf_eq,
          List.nil_append]
    | .send offered, hoffered, hno =>
      cases hleft : s.outpost.left with
      | true =>
        exact absurd (.inr ⟨hleft, rfl, .inr ⟨⟨.brokenPipe, ""⟩, rfl⟩⟩)
          (hno _ _)
      | false =>
        exact absurd (.inl ⟨hleft, offered.length,
          List.length_pos_iff.mpr hoffered, Nat.le_refl _, rfl, rfl⟩)
          (hno _ _)
    | .flush, _, hno => exact absurd ⟨rfl, rfl⟩ (hno (.ok ()) s.encounter)
  · -- whatever else it asks can be answered at once
    obtain ⟨a, w', hr, -⟩ : ∃ a w', Encounter.surroundings
        (Doorstep.surroundings peer) machine (Encounter.undisturbed 0)
        q s.encounter a w' ∧ _ := Encounter.exists_answer hattentive
    exact absurd (aside hr fun q' hq' => hstream ⟨q', hq'⟩).1 (hno a w')

/-- A reader that cannot go on is done: what it waits for comes. -/
theorem Kept.reader_done :
    ∃ r, s.reader = .done r ∧ Outpost.Used machine card ops r s.outpost := by
  have hreaderKeeps := h.reader
  have hsessionKeeps := h.session
  cases hreader : s.reader with
  | done r =>
    rw [hreader] at hreaderKeeps
    exact ⟨r, rfl, hreaderKeeps⟩
  | cut =>
    rw [hreader] at hreaderKeeps
    exact absurd hreaderKeeps id
  | ask q next =>
    obtain ⟨hhungUp, hheard, hwaits⟩ := h.reader_waits hend hreader
    cases hsession : s.session with
    | done r =>
      rw [hsession] at hsessionKeeps
      exact absurd (Encounter.Over.spent hsessionKeeps).hungUp_mem hhungUp
    | cut =>
      rw [hsession] at hsessionKeeps
      exact absurd hsessionKeeps.2.spent.hungUp_mem hhungUp
    | ask q' next' =>
      -- both wait, and yet all that is due was sent and heard
      obtain ⟨-, htaken, hfault, hsent⟩ := h.session_waits hend hsession
      have hfailing : Outpost.Failing machine card s.outpost.written := by
        refine hwaits.mpr ?_
        rw [hheard, hsent, Encounter.account, htaken, Outpost.due]
      rw [Encounter.account, htaken] at hfault
      exact absurd hfault hfailing

/-- A session that cannot go on is over, or listens again. -/
theorem Kept.session_done :
    (∃ r, s.session = .done r ∧
      Encounter.Over machine card config r s.encounter) ∨
    (s.session = .cut ∧
      Encounter.Resting machine card config s.encounter) := by
  have hkeeps := h.session
  cases hsession : s.session with
  | done r =>
    rw [hsession] at hkeeps
    exact .inl ⟨r, rfl, hkeeps⟩
  | cut =>
    rw [hsession] at hkeeps
    exact .inr ⟨rfl, hkeeps⟩
  | ask q next =>
    obtain ⟨r, -, hused⟩ := h.reader_done hend
    have hleft := (h.session_waits hend hsession).1
    rw [hused.left] at hleft
    cases hleft

end

/-! ## How a relay ends -/

section

variable (machine : Machine Card σ) (card : σ) (config : SessionConfig)
  (ops : List Card.Operation)

/-- So far the card got the calls for the operations in order, and was
ejected at most in the end. Once the reader is done, its operations have come
to what they come to on the card itself. -/
structure InOrder (s : Line σ) : Prop where
  calls : ∃ called, called <+: ops.flatMap (·.calls) ∧
    (callsOf s.encounter.deeds = called ∨
      callsOf s.encounter.deeds = called ++ [.eject])
  results : ∀ r, s.reader = .done r → ∃ results, r = .ok results ∧
    results.map (·.question) = ops ∧ Card.Relayed machine card results

/-- The reader is done. A session whose card did not fail has carried
everything out, and has then ended and ejected the card, or listens again;
one whose card failed has ended with that failure. -/
structure Concluded (s : Line σ) : Prop where
  reader : ∃ results, s.reader = .done (.ok results) ∧
    results.map (·.question) = ops ∧ Card.Relayed machine card results
  closed : Card.Unfailing machine card ops → config.listen = false →
    s.session = .done (.ended .peerClosed) ∧
      callsOf s.encounter.deeds = ops.flatMap (·.calls) ++ [.eject]
  listening : Card.Unfailing machine card ops → config.listen = true →
    s.session = .cut ∧ callsOf s.encounter.deeds = ops.flatMap (·.calls)
  failed : ¬ Card.Unfailing machine card ops →
    ∃ kind called, s.session = .done (.ended (.failed kind)) ∧
      called <+: ops.flatMap (·.calls) ∧
      callsOf s.encounter.deeds = called ++ [.eject]

end

/-- What was taken amounts to no calls but those for the operations. -/
theorem Kept.calls_of_taken (h : Kept machine peer card config ops s)
    (hmachine : Card.Concise machine) (hops : ∀ op ∈ ops, op.Relayable) :
    callsOf (s.encounter.account machine card).deeds <+:
      ops.flatMap (·.calls) := by
  refine (callsOf_mono (deeds_mono (h.taken.trans h.written))).trans ?_
  rw [ofStream_requests hops]
  exact (callsOf_tally hmachine hops).1

theorem Kept.inOrder (h : Kept machine peer card config ops s)
    (hmachine : Card.Concise machine) (hops : ∀ op ∈ ops, op.Relayable) :
    InOrder machine card ops s := by
  have hcalls := h.calls_of_taken hmachine hops
  refine ⟨?_, fun r hreader => ?_⟩
  · rcases List.prefix_concat_iff.mp h.settling.calls with heq | hpart
    · exact ⟨_, hcalls, .inr heq⟩
    · exact ⟨_, hpart.trans hcalls, .inl rfl⟩
  · have hkeeps := h.reader
    rw [hreader] at hkeeps
    exact hkeeps.results

/-- A session that has ended without a fault has taken all requests. -/
theorem Kept.taken_eq (h : Kept machine peer card config ops s)
    (hspent : Encounter.Spent machine card s.encounter)
    (hfault : (s.encounter.account machine card).fault = none) :
    s.encounter.taken = requests ops := by
  obtain ⟨hleft, htaken⟩ := h.ended (hspent.all hfault)
  obtain ⟨r, -, hused⟩ := h.used hleft
  rw [Encounter.account, htaken] at hfault
  rw [htaken]
  exact hused.written fun hfailing => hfailing hfault

theorem Kept.concluded (h : Kept machine peer card config ops s)
    (hend : ∀ t, ¬ Step machine peer s t) (hmachine : Card.Concise machine)
    (hops : ∀ op ∈ ops, op.Relayable) :
    Concluded machine card config ops s := by
  have htally (hspent : Encounter.Spent machine card s.encounter)
      (hfault : (s.encounter.account machine card).fault = none) :
      s.encounter.account machine card = tally machine card ops := by
    rw [Encounter.account, h.taken_eq hspent hfault, ofStream_requests hops]
  have hfault (hunfailing : Card.Unfailing machine card ops) :
      (s.encounter.account machine card).fault = none := by
    refine fault_of_part (h.taken.trans h.written) ?_
    rw [ofStream_requests hops]
    exact (fault_tally_iff hmachine hops).mpr hunfailing
  have hunfailing (hspent : Encounter.Spent machine card s.encounter)
      (hnone : (s.encounter.account machine card).fault = none) :
      Card.Unfailing machine card ops := by
    rw [htally hspent hnone] at hnone
    exact (fault_tally_iff hmachine hops).mp hnone
  obtain ⟨r, hreader, hused⟩ := h.reader_done hend
  obtain ⟨results, rfl, hresults⟩ := hused.results
  rcases h.session_done hend with ⟨r, hsession, hover⟩ | ⟨hsession, hresting⟩
  · refine ⟨⟨results, hreader, hresults⟩, fun hcard _ => ?_,
      fun hcard hlisten => ?_, fun hcard => ?_⟩
    · have hnone := hfault hcard
      refine ⟨?_, ?_⟩
      · rw [hsession, hover.outcome, Account.reason, hnone]
      · rw [hover.calls, htally hover.spent hnone,
          (callsOf_tally hmachine hops).2 hcard]
    · exact absurd (hfault hcard) (hover.fault hlisten)
    · cases hsome : (s.encounter.account machine card).fault with
      | none => exact absurd (hunfailing hover.spent hsome) hcard
      | some e =>
        refine ⟨e.kind, callsOf (s.encounter.account machine card).deeds,
          ?_, ?_, hover.calls⟩
        · rw [hsession, hover.outcome, Account.reason, hsome]
        · exact h.calls_of_taken hmachine hops
  · -- at rest there was no fault, so the card has not failed
    have hspent := hresting.2.spent
    have hcard := hunfailing hspent hresting.2.fault
    refine ⟨⟨results, hreader, hresults⟩, fun _ hclient => ?_, fun _ _ => ?_,
      fun hfailing => absurd hcard hfailing⟩
    · rw [hresting.1] at hclient
      cases hclient
    · refine ⟨hsession, ?_⟩
      rw [hresting.2.calls, htally hspent hresting.2.fault,
        (callsOf_tally hmachine hops).2 hcard]

end

/-- Before the first step: a reader that will carry out the operations `ops`
and then eject the card, and a session that has to dial it, or that waits for
it for `patience` intervals. -/
def opening (config : SessionConfig) (cardName : String)
    (rounds sessionRounds patience : Nat) (card : σ)
    (ops : List Card.Operation) : Line σ where
  reader := Remote.use rounds ops
  session := Session.run sessionRounds config cardName
  encounter := { network := { patience }, card }

end Line

/-- Relaying is transparent. A reader carries out operations on a card
through a connection, which a session serves at the other end; the two take
their steps in any order, and the connection delivers in any pieces. Up to
the first failure of the card, each operation comes to what the card itself
gives, and from there on to errors; the card gets the calls for the
operations in order. No run goes on for ever, and where none of the two can
take a step the reader is done, and the session has carried out all that it
was sent. -/
theorem relay_transparent (machine : Machine Card σ)
    (hmachine : Card.Concise machine) (card : σ)
    (ops : List Card.Operation) (hops : ∀ op ∈ ops, op.Relayable)
    (config : SessionConfig) (cardName : String) (peer : Option Address)
    (rounds sessionRounds patience : Nat)
    (hrounds : Frame.headerSize + Frame.maxPayload < rounds)
    (hsession : (requests ops).length + Frame.headerSize + Frame.maxPayload <
      sessionRounds)
    (hpatience : patience < sessionRounds) :
    (∀ s, Line.Run machine peer
        (.opening config cardName rounds sessionRounds patience card ops) s →
      Line.InOrder machine card ops s ∧
        ((∀ t, ¬ Line.Step machine peer s t) →
          Line.Concluded machine card config ops s)) ∧
    Acc (fun t s => Line.Step machine peer s t)
      (.opening config cardName rounds sessionRounds patience card ops) := by
  have hopening : Line.Kept machine peer card config ops
      (.opening config cardName rounds sessionRounds patience card ops) :=
    ⟨Outpost.keeps_use hmachine hrounds hops,
      Encounter.keeps_run_of_one cardName rfl rfl hpatience hsession rfl,
      List.nil_prefix, List.nil_prefix, List.nil_prefix, nofun, nofun⟩
  refine ⟨fun s hrun => ?_, Line.acc _⟩
  have hkept := hrun.kept hopening
  exact ⟨hkept.inOrder hmachine hops,
    fun hend => hkept.concluded hend hmachine hops⟩

/-- A card is given power, shows its answer to reset, and exchanges a
command. -/
theorem relay_transparent_of_steadyCard :
    ∃ s : Line Unit, Line.Run (steadyCard [0x3b] [0x90, 0x00]) (some "peer")
        (.opening (.client "reader" 1) "card" 65600 65700 0 ()
          [.powerOn, .atr, .transmit [0x00, 0xa4]]) s ∧
      s.reader = .done (.ok [⟨.powerOn, .ok ()⟩, ⟨.atr, .ok [0x3b]⟩,
        ⟨.transmit [0x00, 0xa4], .ok [0x90, 0x00]⟩]) ∧
      s.session = .done (.ended .peerClosed) ∧
      callsOf s.encounter.deeds =
        [.powerOn, .atr, .atr, .transmit [0x00, 0xa4], .eject] := by
  obtain ⟨s, hrun, hend⟩ := Line.exists_end (.opening (.client "reader" 1)
    "card" 65600 65700 0 () [.powerOn, .atr, .transmit [0x00, 0xa4]])
  have hmachine : Card.Concise (steadyCard [0x3b] [0x90, 0x00]) := by
    refine ⟨?_, ?_⟩
    · intro card response card' h
      cases h
      decide
    · intro apdu card response card' h
      cases h
      decide
  obtain ⟨hall, -⟩ := relay_transparent (steadyCard [0x3b] [0x90, 0x00])
    hmachine () [.powerOn, .atr, .transmit [0x00, 0xa4]]
    (by simp [Card.Operation.Relayable, Frame.maxPayload])
    (.client "reader" 1) "card" (some "peer") 65600 65700 0 (by decide)
    (by decide) (by decide)
  obtain ⟨⟨results, hreader, hquestions, hrelayed⟩, hclosed, -, -⟩ :=
    (hall s hrun).2 hend
  obtain ⟨hsession, hcalls⟩ := hclosed trivial rfl
  refine ⟨s, hrun, ?_, hsession, hcalls⟩
  obtain ⟨⟨q₁, a⟩, results, rfl, hq₁, hlater⟩ :=
    List.map_eq_cons_iff.mp hquestions
  obtain ⟨⟨q₂, b⟩, results, rfl, hq₂, hlater⟩ :=
    List.map_eq_cons_iff.mp hlater
  obtain ⟨⟨q₃, c⟩, results, rfl, hq₃, hnone⟩ :=
    List.map_eq_cons_iff.mp hlater
  obtain rfl : q₁ = .powerOn := hq₁
  obtain rfl : q₂ = .atr := hq₂
  obtain rfl : q₃ = .transmit [0x00, 0xa4] := hq₃
  obtain rfl := List.map_eq_nil_iff.mp hnone
  obtain ⟨ha, hb, hc, -⟩ := hrelayed
  replace ha : a = .ok () := ha
  replace hb : b = .ok [0x3b] := hb
  replace hc : c = .ok [0x90, 0x00] := hc
  rw [hreader, ha, hb, hc]

end Relay

end CardBridge
