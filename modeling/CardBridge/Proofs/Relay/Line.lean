import CardBridge.Proofs.Relay.Prospect
import CardBridge.Proofs.Relay.Reader

/-!
# A reader and a session, each at its end of a connection

The two take their steps in any order. The connection keeps the octets of
each direction in order and delivers them in any pieces; what is written to
an end that was shut down is lost, and an end that was shut down with octets
on the way to it may make the connection fail for the other. What each end
was promised about the other (`Outpost.surroundings`,
`Encounter.undisturbed`) is then kept by every step (`Step.kept`).
-/

namespace CardBridge

open Dialogue Session Session.Account

namespace Relay

variable {σ : Type}

/-- A reader and a session that serves it. -/
structure Line (σ : Type) where
  /-- What is left of the reader. -/
  reader : Dialogue Socket (Except CardError (List (Exchange Card)))
  /-- The reader's end. -/
  outpost : Outpost := {}
  /-- What is left of the session. -/
  session : Dialogue Session Outcome
  /-- The session's end, with its card. -/
  encounter : Encounter σ Doorstep

namespace Line

/-- What the connection does for a reader while its session is at `v`. -/
def atReader (v : Encounter σ Doorstep) : Surroundings Socket Outpost
  | .stream (.receive size), w, a, w' =>
    (∃ octets, octets ≠ [] ∧ octets.length ≤ size ∧
      w.heard ++ octets <+: sentOf v.deeds ∧ a = .ok octets ∧
      w' = { w with heard := w.heard ++ octets }) ∨
    (.hungUp ∈ v.deeds ∧ w' = w ∧ (w.heard = sentOf v.deeds ∧ a = .ok [] ∨
      ∃ cause, cause.isInterrupted = false ∧ a = .error cause))
  | .stream (.send offered), w, a, w' =>
    (.hungUp ∉ v.deeds ∧ ∃ accepted, 0 < accepted ∧
      accepted ≤ offered.length ∧ a = .ok accepted ∧
      w' = { w with written := w.written ++ offered.take accepted }) ∨
    (.hungUp ∈ v.deeds ∧ w' = { w with gone := true } ∧
      ((∃ accepted, 0 < accepted ∧ accepted ≤ offered.length ∧
          a = .ok accepted) ∨
        ∃ cause, cause.isInterrupted = false ∧ a = .error cause))
  | .stream .flush, w, a, w' => a = .ok () ∧ w' = w
  | .noDelay _, w, a, w' => a = .ok () ∧ w' = w
  | .readTimeout _, w, a, w' => a = .ok () ∧ w' = w
  | .writeTimeout _, w, a, w' => a = .ok () ∧ w' = w
  | .duplicate, w, a, w' => a = .ok () ∧ w' = w
  | .shutdown, w, _, w' => w' = { w with left := true }

/-- What the connection does for a session while its reader is at `v`. -/
def atSession (v : Outpost) : Surroundings Stream (Encounter σ Doorstep)
  | .receive size, w, a, w' =>
    (∃ octets, octets ≠ [] ∧ octets.length ≤ size ∧
      w.taken ++ octets <+: v.written ∧ a = .ok octets ∧
      w' = { w with taken := w.taken ++ octets }) ∨
    (v.left = true ∧ w.taken = v.written ∧ a = .ok [] ∧
      w' = { w with ended := true }) ∨
    (v.left = true ∧ v.heard ≠ sentOf w.deeds ∧ w' = w ∧
      ∃ cause, a = .error cause)
  | .send offered, w, a, w' =>
    (v.left = false ∧ ∃ accepted, 0 < accepted ∧
      accepted ≤ offered.length ∧ a = .ok accepted ∧
      w' = w.see ((offered.take accepted).map .sent)) ∨
    (v.left = true ∧ w' = w ∧
      ((∃ accepted, 0 < accepted ∧ accepted ≤ offered.length ∧
          a = .ok accepted) ∨
        ∃ cause, a = .error cause))
  | .flush, w, a, w' => a = .ok () ∧ w' = w

/-- One of the two asks something and is answered. -/
inductive Step (machine : Machine Card σ) (peer : Option Address) :
    Line σ → Line σ → Prop
  | reader {s : Line σ} {q : Socket.Ask} {next : Socket.Answer q →
        Dialogue Socket (Except CardError (List (Exchange Card)))}
      {a : Socket.Answer q} {outpost : Outpost}
      (hreader : s.reader = .ask q next)
      (ha : atReader s.encounter q s.outpost a outpost) :
    Step machine peer s { s with reader := next a, outpost }
  | session {s : Line σ} {q : Ask}
      {next : Session.Answer q → Dialogue Session Outcome}
      {a : Session.Answer q} {encounter : Encounter σ Doorstep}
      (hsession : s.session = .ask q next)
      (ha : Encounter.surroundings (Doorstep.surroundings peer) machine
        (atSession s.outpost) q s.encounter a encounter) :
    Step machine peer s { s with session := next a, encounter }

/-- Any number of steps in a row. -/
inductive Run (machine : Machine Card σ) (peer : Option Address)
    (s : Line σ) : Line σ → Prop
  | start : Run machine peer s s
  | next {s' s'' : Line σ} (hrun : Run machine peer s s')
      (hstep : Step machine peer s' s'') : Run machine peer s s''

section

variable (machine : Machine Card σ) (peer : Option Address) (card : σ)
  (config : SessionConfig) (ops : List Card.Operation)

/-- What each of the two keeps to, and how far what it did has come to the
other. -/
structure Kept (s : Line σ) : Prop where
  reader : s.reader.Keeps (Outpost.surroundings machine card)
    (Outpost.Prudent machine card (requests ops))
    (Outpost.Used machine card ops) s.outpost
  session : s.session.Keeps
    (Encounter.surroundings (Doorstep.surroundings peer) machine
      (Encounter.undisturbed (requests ops).length))
    (Encounter.Attentive machine card (Encounter.Resting machine card config))
    (Encounter.Over machine card config) s.encounter
  written : s.outpost.written <+: requests ops
  taken : s.encounter.taken <+: s.outpost.written
  heard : s.outpost.heard <+: sentOf s.encounter.deeds
  gone : s.outpost.gone = true → .hungUp ∈ s.encounter.deeds
  ended : s.encounter.ended = true →
    s.outpost.left = true ∧ s.encounter.taken = s.outpost.written

end

section

variable {machine : Machine Card σ} {peer : Option Address} {card : σ}
  {config : SessionConfig} {ops : List Card.Operation} {s s' : Line σ}

/-! ## What each end knows of the other -/

theorem Kept.settling (h : Kept machine peer card config ops s) :
    Encounter.Settling machine card s.encounter :=
  Encounter.settling (fun _ _ => Encounter.Over.spent)
    (fun _ hrest => hrest.2.spent) h.session

/-- A reader that asks something has not left. -/
theorem Kept.not_left (h : Kept machine peer card config ops s)
    {q : Socket.Ask} {next : Socket.Answer q →
      Dialogue Socket (Except CardError (List (Exchange Card)))}
    (hreader : s.reader = .ask q next) : s.outpost.left = false := by
  have hkeeps := h.reader
  rw [hreader] at hkeeps
  exact hkeeps.1.left

/-- A reader that has left is done. -/
theorem Kept.used (h : Kept machine peer card config ops s)
    (hleft : s.outpost.left = true) :
    ∃ r, s.reader = .done r ∧ Outpost.Used machine card ops r s.outpost := by
  have hkeeps := h.reader
  cases hreader : s.reader with
  | done r =>
    rw [hreader] at hkeeps
    exact ⟨r, rfl, hkeeps⟩
  | ask q next =>
    rw [h.not_left hreader] at hleft
    cases hleft
  | cut =>
    rw [hreader] at hkeeps
    exact absurd hkeeps id

/-- All that was sent is due for what was written. -/
theorem Kept.sent (h : Kept machine peer card config ops s) :
    sentOf s.encounter.deeds <+: Outpost.due machine card s.outpost.written :=
  h.settling.sent.trans (sentOf_mono (deeds_mono h.taken))

/-- A session that hangs up before its reader has met a fault. -/
theorem Kept.failing (h : Kept machine peer card config ops s)
    (hhungUp : .hungUp ∈ s.encounter.deeds)
    (hleft : s.outpost.left = false) :
    Outpost.Failing machine card s.outpost.written := by
  intro hfault
  have hended := (h.settling.finished hhungUp).2 (fault_of_part h.taken hfault)
  have hleft' := (h.ended hended).1
  rw [hleft] at hleft'
  cases hleft'

/-- A reader that has left has heard all there was to hear. -/
theorem Kept.heard_eq (h : Kept machine peer card config ops s)
    (hleft : s.outpost.left = true) :
    s.outpost.heard = sentOf s.encounter.deeds ∧
      sentOf s.encounter.deeds =
        Outpost.due machine card s.outpost.written := by
  obtain ⟨r, -, hused⟩ := h.used hleft
  have hsent := h.sent
  rw [← hused.heard] at hsent
  have heq := h.heard.eq_of_length_le hsent.length_le
  exact ⟨heq, by rw [← heq, hused.heard]⟩

/-! ## One step -/

/-- A reader is answered as it may expect. -/
theorem Kept.atReader (h : Kept machine peer card config ops s)
    {q : Socket.Ask} {next : Socket.Answer q →
      Dialogue Socket (Except CardError (List (Exchange Card)))}
    {a : Socket.Answer q} {outpost : Outpost}
    (hreader : s.reader = .ask q next)
    (ha : Line.atReader s.encounter q s.outpost a outpost) :
    Outpost.surroundings machine card q s.outpost a outpost := by
  have hleft := h.not_left hreader
  match q, a, ha with
  | .stream (.receive size), a, ha =>
    rcases ha with ⟨octets, hne, hsize, hpart, hgiven⟩ | ⟨hhungUp, hw, hgiven⟩
    · exact .inl ⟨octets, hne, hsize, hpart.trans h.sent, hgiven⟩
    · refine .inr ⟨h.failing hhungUp hleft, hw, ?_⟩
      exact hgiven.imp_left And.right
  | .stream (.send offered), a, ha =>
    rcases ha with ⟨hhungUp, hgiven⟩ | ⟨hhungUp, hw, hgiven⟩
    · refine .inl ⟨Bool.eq_false_iff.mpr fun hgone => ?_, hgiven⟩
      exact hhungUp (h.gone hgone)
    · refine .inr ⟨h.failing hhungUp hleft, hw, ?_⟩
      rcases hgiven with ⟨accepted, hpos, -, hgiven⟩ | hgiven
      · exact .inl ⟨accepted, hpos, hgiven⟩
      · exact .inr hgiven
  | .stream .flush, a, ha => exact ha
  | .noDelay _, a, ha | .readTimeout _, a, ha | .writeTimeout _, a, ha
  | .duplicate, a, ha | .shutdown, a, ha => exact ha

/-- How far a step of the reader gets at its end. -/
theorem Kept.outpost (h : Kept machine peer card config ops s)
    {q : Socket.Ask} {next : Socket.Answer q →
      Dialogue Socket (Except CardError (List (Exchange Card)))}
    {a : Socket.Answer q} {outpost : Outpost}
    (hreader : s.reader = .ask q next)
    (ha : Line.atReader s.encounter q s.outpost a outpost) :
    outpost.written <+: requests ops ∧
      s.outpost.written <+: outpost.written ∧
      outpost.heard <+: sentOf s.encounter.deeds ∧
      (outpost.gone = true → .hungUp ∈ s.encounter.deeds) := by
  have hsame : s.outpost.written <+: s.outpost.written := List.prefix_refl _
  have hprudent := h.reader
  rw [hreader] at hprudent
  replace hprudent := hprudent.1
  match q, a, ha, hprudent with
  | .stream (.receive size), a, ha, _ =>
    rcases ha with ⟨octets, -, -, hpart, -, rfl⟩ | ⟨-, rfl, -⟩
    · exact ⟨h.written, hsame, hpart, h.gone⟩
    · exact ⟨h.written, hsame, h.heard, h.gone⟩
  | .stream (.send offered), a, ha, hprudent =>
    rcases ha with ⟨hhungUp, accepted, -, -, -, rfl⟩ | ⟨hhungUp, rfl, -⟩
    · have hgone : s.outpost.gone = false :=
        Bool.eq_false_iff.mpr fun hgone => hhungUp (h.gone hgone)
      refine ⟨?_, List.prefix_append _ _, h.heard, h.gone⟩
      exact ((List.prefix_append_right_inj _).mpr
        (List.take_prefix _ _)).trans (hprudent.2.2 hgone)
    · exact ⟨h.written, hsame, h.heard, fun _ => hhungUp⟩
  | .stream .flush, a, ha, _ | .noDelay _, a, ha, _
  | .readTimeout _, a, ha, _ | .writeTimeout _, a, ha, _
  | .duplicate, a, ha, _ =>
    obtain ⟨-, rfl⟩ := ha
    exact ⟨h.written, hsame, h.heard, h.gone⟩
  | .shutdown, a, ha, _ =>
    subst ha
    exact ⟨h.written, hsame, h.heard, h.gone⟩

theorem Kept.reader_step (h : Kept machine peer card config ops s)
    {q : Socket.Ask} {next : Socket.Answer q →
      Dialogue Socket (Except CardError (List (Exchange Card)))}
    {a : Socket.Answer q} {outpost : Outpost}
    (hreader : s.reader = .ask q next)
    (ha : Line.atReader s.encounter q s.outpost a outpost) :
    Kept machine peer card config ops
      { s with reader := next a, outpost } := by
  obtain ⟨hwritten, hmore, hheard, hgone⟩ := h.outpost hreader ha
  have hkeeps := h.reader
  rw [hreader] at hkeeps
  refine ⟨hkeeps.step (h.atReader hreader ha), h.session, hwritten,
    h.taken.trans hmore, hheard, hgone, fun hended => ?_⟩
  have hleft := (h.ended hended).1
  rw [h.not_left hreader] at hleft
  cases hleft

/-- A session is answered as it may expect. -/
theorem Kept.atSession (h : Kept machine peer card config ops s)
    {q : Stream.Ask} {next : Stream.Answer q → Dialogue Session Outcome}
    {a : Stream.Answer q} {encounter : Encounter σ Doorstep}
    (hsession : s.session = Dialogue.ask (Ask.socket (.stream q)) next)
    (ha : Line.atSession s.outpost q s.encounter a encounter) :
    Encounter.undisturbed (requests ops).length q s.encounter a encounter ∧
      encounter.taken <+: s.outpost.written ∧
      s.encounter.deeds <+: encounter.deeds ∧
      (encounter.ended = true →
        s.outpost.left = true ∧ encounter.taken = s.outpost.written) := by
  have hsame : s.encounter.deeds <+: s.encounter.deeds := List.prefix_refl _
  have hkeeps := h.session
  rw [hsession] at hkeeps
  match q, next, a, ha, hkeeps with
  | .receive size, next, a, ha, hkeeps =>
    rcases ha with ⟨octets, hne, hsize, hpart, rfl, rfl⟩ |
      ⟨hleft, htaken, rfl, rfl⟩ | ⟨hleft, hheard, -⟩
    · have hlength := hpart.length_le
      refine ⟨.inl ⟨octets, hne, hsize, ?_, rfl, rfl⟩, hpart, hsame,
        fun hended => ?_⟩
      · exact Nat.le_trans hlength h.written.length_le
      · have hpos := List.length_pos_iff.mpr hne
        rw [(h.ended hended).2, List.length_append] at hlength
        omega
    · exact ⟨.inr ⟨rfl, rfl⟩, h.taken, hsame, fun _ => ⟨hleft, htaken⟩⟩
    · -- it fails only if something was sent that nobody took
      exact absurd (h.heard_eq hleft).1 hheard
  | .send offered, next, a, ha, hkeeps =>
    rcases ha with ⟨hleft, accepted, hpos, hle, rfl, rfl⟩ | ⟨hleft, -⟩
    · exact ⟨⟨accepted, hpos, hle, rfl, rfl⟩, h.taken,
        List.prefix_append _ _, h.ended⟩
    · -- there is more to be sent, but its reader has heard all there is
      have hmore := (Encounter.settling_send (fun _ _ => Encounter.Over.spent)
        (fun _ hrest => hrest.2.spent) hkeeps).2
      have hfirst := h.settling.sent
      have hsecond : sentOf (s.encounter.account machine card).deeds <+:
          Outpost.due machine card s.outpost.written :=
        sentOf_mono (deeds_mono h.taken)
      rw [← (h.heard_eq hleft).2] at hsecond
      exact absurd (hfirst.eq_of_length_le hsecond.length_le) hmore
  | .flush, next, a, ha, hkeeps =>
    obtain ⟨rfl, rfl⟩ := ha
    exact ⟨⟨rfl, rfl⟩, h.taken, hsame, h.ended⟩

/-- What is not asked of the stream does not depend on the connection. -/
theorem aside {flow flow' : Surroundings Stream (Encounter σ Doorstep)}
    {q : Ask} {a : Session.Answer q} {w w' : Encounter σ Doorstep}
    (h : Encounter.surroundings (Doorstep.surroundings peer) machine flow
      q w a w') (hq : ∀ q', q ≠ .socket (.stream q')) :
    Encounter.surroundings (Doorstep.surroundings peer) machine flow'
        q w a w' ∧
      w'.taken = w.taken ∧ w.deeds <+: w'.deeds ∧ w'.ended = w.ended := by
  have hsame : w.deeds <+: w.deeds := List.prefix_refl _
  match q, a, h, hq with
  | .socket (.stream q), a, h, hq => exact absurd rfl (hq q)
  | .network _, a, h, _ =>
    obtain ⟨network, hnetwork, rfl⟩ := h
    exact ⟨⟨network, hnetwork, rfl⟩, rfl, hsame, rfl⟩
  | .socket (.noDelay _), a, h, _ | .socket (.readTimeout _), a, h, _
  | .socket (.writeTimeout _), a, h, _ | .socket .duplicate, a, h, _
  | .token .isCancelled, a, h, _ | .token .register, a, h, _ =>
    obtain ⟨rfl, rfl⟩ := h
    exact ⟨⟨rfl, rfl⟩, rfl, hsame, rfl⟩
  | .socket .shutdown, a, h, _ =>
    subst h
    exact ⟨rfl, rfl, List.prefix_append _ _, rfl⟩
  | .card _, a, h, _ | .emit _, a, h, _ =>
    obtain ⟨rfl, rfl⟩ := h
    exact ⟨⟨rfl, rfl⟩, rfl, List.prefix_append _ _, rfl⟩
  | .token .clear, a, h, _ | .localAddresses, a, h, _ | .advance _, a, h, _
  | .log _, a, h, _ =>
    subst h
    exact ⟨rfl, rfl, hsame, rfl⟩

theorem Kept.session_step (h : Kept machine peer card config ops s)
    {q : Ask} {next : Session.Answer q → Dialogue Session Outcome}
    {a : Session.Answer q} {encounter : Encounter σ Doorstep}
    (hsession : s.session = .ask q next)
    (ha : Encounter.surroundings (Doorstep.surroundings peer) machine
      (Line.atSession s.outpost) q s.encounter a encounter) :
    Kept machine peer card config ops
      { s with session := next a, encounter } := by
  have hkeeps := h.session
  rw [hsession] at hkeeps
  have hafter : Encounter.surroundings (Doorstep.surroundings peer) machine
        (Encounter.undisturbed (requests ops).length) q s.encounter a
        encounter ∧
      encounter.taken <+: s.outpost.written ∧
      s.encounter.deeds <+: encounter.deeds ∧
      (encounter.ended = true → s.outpost.left = true ∧
        encounter.taken = s.outpost.written) := by
    by_cases hstream : ∃ q', q = .socket (.stream q')
    · obtain ⟨q', rfl⟩ := hstream
      exact h.atSession hsession ha
    · obtain ⟨hr, htaken, hdeeds, hended⟩ :=
        aside ha fun q' hq' => hstream ⟨q', hq'⟩
      rw [htaken, hended]
      exact ⟨hr, h.taken, hdeeds, h.ended⟩
  obtain ⟨hr, htaken, hdeeds, hended⟩ := hafter
  exact ⟨h.reader, hkeeps.step hr, h.written, htaken,
    h.heard.trans (sentOf_mono hdeeds),
    fun hgone => hdeeds.subset (h.gone hgone), hended⟩

theorem Run.before {s'' : Line σ} (hrun : Run machine peer s' s'')
    (hstep : Step machine peer s s') : Run machine peer s s'' := by
  induction hrun with
  | start => exact .next .start hstep
  | next _ hlast ih => exact .next ih hlast

theorem Step.kept (hstep : Step machine peer s s')
    (h : Kept machine peer card config ops s) :
    Kept machine peer card config ops s' := by
  cases hstep with
  | reader hreader ha => exact h.reader_step hreader ha
  | session hsession ha => exact h.session_step hsession ha

/-- Whatever the order of the steps, each end is answered as it may
expect. -/
theorem Run.kept (hrun : Run machine peer s s')
    (h : Kept machine peer card config ops s) :
    Kept machine peer card config ops s' := by
  induction hrun with
  | start => exact h
  | next _ hstep ih => exact hstep.kept ih

end

end Line

end Relay

end CardBridge
