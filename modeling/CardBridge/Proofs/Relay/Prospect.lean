import CardBridge.Proofs.Relay.Errands
import CardBridge.Proofs.Session.Listening

/-!
# What a session is going to do

Whenever a session is interrupted, its reader may fall silent and end its
side: all that the session has still to do is then settled by what it took.
So what it has done so far is the first part of that (`Encounter.Settling`),
and it has hung up only at the end of it.
-/

namespace CardBridge.Session

open Dialogue

/-! ## Nobody hangs up before the end -/

namespace Account

variable {σ : Type} {machine : Machine Card σ} {card : σ}

/-- Nothing that is seen is the end of the connection. -/
def Connected (account : Account σ) : Prop :=
  .hungUp ∉ account.deeds

theorem Connected.after {deeds : List Deed} {account : Account σ}
    (h : account.Connected) (hdeeds : .hungUp ∉ deeds) :
    (account.after deeds).Connected := by
  intro hmem
  rcases List.mem_append.mp hmem with hmem | hmem
  · exact hdeeds hmem
  · exact h hmem

theorem connected_calling {op : Card.Operation}
    {next : Card.Reply op → σ → Account σ}
    (h : ∀ reply card, (next reply card).Connected) :
    (calling machine op card next).Connected := by
  cases hm : machine op card with
  | mk result card' =>
    cases result with
    | ok reply =>
      rw [calling_ok hm]
      exact (h reply card').after (by simp)
    | error e =>
      rw [calling_error hm]
      simp [Connected]

theorem connected_telling (event : Event) (card : σ) :
    (telling event card).Connected := by
  simp [Connected, telling]

theorem connected_answering (response : Bytes) (card : σ) :
    (answering response card).Connected := by
  rw [answering]
  split <;> simp [Connected]

theorem connected_exchanging (apdu : Bytes) :
    (exchanging machine apdu card).Connected := by
  refine (connected_calling fun response card => ?_).after (by simp)
  exact (connected_answering response card).after (by simp)

theorem connected_ofPayload (payload : Bytes) :
    (ofPayload machine card payload).Connected := by
  unfold ofPayload
  split
  · exact connected_calling fun _ => connected_telling _
  · refine connected_calling fun _ card => ?_
    exact (connected_calling fun _ => connected_telling _).after (by simp)
  · exact connected_calling fun _ => connected_telling _
  · exact connected_calling fun response card =>
      connected_answering response card
  · simp [Connected]
  · exact connected_exchanging _

theorem connected_ofPayloads (payloads : List Bytes) :
    (ofPayloads machine card payloads).Connected := by
  induction payloads generalizing card with
  | nil => simp [Connected]
  | cons payload payloads ih =>
    have hfirst : (ofPayload machine card payload).Connected :=
      connected_ofPayload payload
    by_cases hf : (ofPayload machine card payload).fault = none
    · rw [ofPayloads_cons hf]
      exact ih.after hfirst
    · rw [ofPayloads_cons_of_fault hf]
      exact hfirst

theorem connected_ofStream (stream : Bytes) :
    (ofStream machine card stream).Connected :=
  connected_ofPayloads _

end Account

/-! ## What is still to be done -/

namespace Encounter

variable {σ α : Type} {machine : Machine Card σ} {card : σ} {most : Nat}
  {peer : Option Address} {config : SessionConfig}
  {w w' : Encounter σ Doorstep} {r : Outcome}

section

variable (machine card)

/-- All is done that a session is going to do with its reader, and nothing
has happened since but the end of the session. -/
structure Spent (w : Encounter σ Doorstep) : Prop where
  deeds : ∃ before after, Quiet before ∧ sentOf after = [] ∧
    callsOf after <+: [.eject] ∧
    w.deeds = before ++ (w.account machine card).deeds ++ .hungUp :: after
  all : (w.account machine card).fault = none → w.ended = true

/-- What was done so far is the first part of what the octets taken amount
to. -/
structure Settling (w : Encounter σ Doorstep) : Prop where
  sent : sentOf w.deeds <+: sentOf (w.account machine card).deeds
  calls : callsOf w.deeds <+:
    callsOf (w.account machine card).deeds ++ [.eject]
  finished : .hungUp ∈ w.deeds →
    sentOf w.deeds = sentOf (w.account machine card).deeds ∧
      ((w.account machine card).fault = none → w.ended = true)

end

theorem AtRest.spent (h : AtRest machine card w) : Spent machine card w := by
  obtain ⟨before, address, hquiet, hdeeds⟩ := h.seen
  refine ⟨⟨before, [.told (.clientDisconnected address)], hquiet, rfl,
    List.nil_prefix, hdeeds⟩, fun _ => h.ended⟩

theorem Over.spent (h : Over machine card config r w) :
    Spent machine card w := by
  obtain ⟨before, address, hquiet, hwound⟩ := h.woundUp
  refine ⟨⟨before ++ [.told (.connected address)],
    (w.account machine card).complaint ++ [.called .eject,
      .told (.disconnected (w.account machine card).reason)],
    hquiet.concat _, ?_, ?_, ?_⟩, hwound.all⟩
  · rw [Account.complaint]
    split <;> rfl
  · rw [Account.complaint]
    split <;> exact List.prefix_refl _
  · rw [hwound.deeds_eq, Account.wound]
    simp

/-- A session that listens again has not ejected its card. -/
theorem AtRest.calls (h : AtRest machine card w) :
    callsOf w.deeds = callsOf (w.account machine card).deeds := by
  obtain ⟨before, address, hquiet, hdeeds⟩ := h.seen
  rw [hdeeds, callsOf_append, callsOf_append, hquiet.callsOf_eq,
    List.nil_append]
  exact List.append_nil _

/-- A session that is over has ejected its card, once and in the end. -/
theorem Over.calls (h : Over machine card config r w) :
    callsOf w.deeds = callsOf (w.account machine card).deeds ++ [.eject] := by
  obtain ⟨before, address, hquiet, hwound⟩ := h.woundUp
  have hcomplaint : callsOf (w.account machine card).complaint = [] := by
    rw [Account.complaint]
    split <;> rfl
  rw [hwound.deeds_eq, Account.wound]
  simp only [callsOf_append, hquiet.callsOf_eq, hcomplaint, List.nil_append]
  show [] ++ callsOf (w.account machine card).deeds ++ [] ++ [] ++ [.eject] =
    _
  simp

theorem Over.outcome (h : Over machine card config r w) :
    r = .ended (w.account machine card).reason := by
  obtain ⟨before, address, -, hwound⟩ := h.woundUp
  exact hwound.outcome

theorem Spent.hungUp_mem (h : Spent machine card w) :
    .hungUp ∈ w.deeds := by
  obtain ⟨before, after, -, -, -, hdeeds⟩ := h.deeds
  rw [hdeeds]
  exact List.mem_append_right _ (List.mem_cons_self ..)

/-- A session waits for more only while its connection is there. -/
theorem Attentive.connected {rest : Encounter σ Doorstep → Prop} {size : Nat}
    (h : Attentive machine card rest
      (some (.socket (.stream (.receive size)))) w) : .hungUp ∉ w.deeds := by
  obtain ⟨-, -, before, hquiet, hsettled⟩ := h
  rw [hsettled.deeds_eq]
  intro hmem
  rcases List.mem_append.mp hmem with hmem | hmem
  · obtain ⟨event, hevent⟩ := hquiet _ hmem
    cases hevent
  · exact Account.connected_ofStream _ hmem

/-- Every question can be answered so that nothing more is taken. -/
theorem exists_answer {rest : Encounter σ Doorstep → Prop} {q : Ask}
    (h : Attentive machine card rest (some q) w) :
    ∃ a w', surroundings (Doorstep.surroundings peer) machine
        (undisturbed most) q w a w' ∧
      w.deeds <+: w'.deeds ∧ w'.taken = w.taken ∧
      (.hungUp ∈ w.deeds → w'.ended = w.ended) := by
  have hsame : w.deeds <+: w.deeds := List.prefix_refl _
  match q, h with
  | .network (.resolve _ _), _ =>
    exact ⟨.ok [""], w, ⟨w.network, ⟨⟨[""], List.cons_ne_nil _ _, rfl⟩, rfl⟩,
      rfl⟩, hsame, rfl, fun _ => rfl⟩
  | .network (.connect _ _), _ =>
    exact ⟨.ok peer,
      { w with network := { w.network with connected := true } },
      ⟨_, ⟨rfl, rfl⟩, rfl⟩, hsame, rfl, fun _ => rfl⟩
  | .network (.listen _), _ =>
    exact ⟨.ok 0, w, ⟨w.network, ⟨⟨0, rfl⟩, rfl⟩, rfl⟩, hsame, rfl,
      fun _ => rfl⟩
  | .network (.poll _), _ =>
    cases hconnected : w.network.connected with
    | false =>
      exact ⟨.ok (some peer),
        { w with network := { w.network with connected := true } },
        ⟨_, .inl ⟨hconnected, rfl, rfl⟩, rfl⟩, hsame, rfl, fun _ => rfl⟩
    | true =>
      exact ⟨.ok none, { w with
          network := { w.network with patience := w.network.patience - 1 } },
        ⟨_, .inr ⟨.inl hconnected, .inl rfl, rfl⟩, rfl⟩, hsame, rfl,
        fun _ => rfl⟩
  | .network .unpoll, _ =>
    exact ⟨.ok (), w, ⟨w.network, ⟨rfl, rfl⟩, rfl⟩, hsame, rfl, fun _ => rfl⟩
  | .socket (.stream (.receive _)), h =>
    refine ⟨.ok [], { w with ended := true }, .inr ⟨rfl, rfl⟩, hsame, rfl,
      fun hmem => ?_⟩
    exact absurd hmem h.connected
  | .socket (.stream (.send offered)), h =>
    exact ⟨.ok offered.length, _,
      ⟨offered.length, List.length_pos_iff.mpr h, Nat.le_refl _, rfl, rfl⟩,
      List.prefix_append _ _, rfl, fun _ => rfl⟩
  | .socket (.stream .flush), _ | .socket (.noDelay _), _
  | .socket (.readTimeout _), _ | .socket (.writeTimeout _), _
  | .socket .duplicate, _ =>
    exact ⟨.ok (), w, ⟨rfl, rfl⟩, hsame, rfl, fun _ => rfl⟩
  | .socket .shutdown, _ =>
    exact ⟨.ok (), _, rfl, List.prefix_append _ _, rfl, fun _ => rfl⟩
  | .card op, _ =>
    exact ⟨_, _, ⟨rfl, rfl⟩, List.prefix_append _ _, rfl, fun _ => rfl⟩
  | .token .isCancelled, _ =>
    exact ⟨false, w, ⟨rfl, rfl⟩, hsame, rfl, fun _ => rfl⟩
  | .token .register, _ =>
    exact ⟨true, w, ⟨rfl, rfl⟩, hsame, rfl, fun _ => rfl⟩
  | .localAddresses, _ =>
    exact ⟨.ok [], w, rfl, hsame, rfl, fun _ => rfl⟩
  | .token .clear, _ | .advance _, _ | .log _, _ =>
    exact ⟨(), w, rfl, hsame, rfl, fun _ => rfl⟩
  | .emit event, _ =>
    exact ⟨.returned (), _, ⟨rfl, rfl⟩, List.prefix_append _ _, rfl,
      fun _ => rfl⟩

theorem Spent.settling {v : Encounter σ Doorstep}
    (hspent : Spent machine card v) (hdeeds : w.deeds <+: v.deeds)
    (htaken : v.taken = w.taken)
    (hended : .hungUp ∈ w.deeds → v.ended = w.ended) :
    Settling machine card w := by
  obtain ⟨⟨before, after, hquiet, hsent, hcalls, hv⟩, hall⟩ := hspent
  have haccount : v.account machine card = w.account machine card := by
    rw [account, account, htaken]
  rw [haccount] at hv hall
  rw [hv] at hdeeds
  have hfirst := sentOf_mono hdeeds
  simp only [sentOf_append, hquiet.sentOf_eq, List.nil_append] at hfirst
  rw [show sentOf (.hungUp :: after) = [] from hsent,
    List.append_nil] at hfirst
  refine ⟨hfirst, ?_, fun hmem => ?_⟩
  · refine (callsOf_mono hdeeds).trans ?_
    simp only [callsOf_append, hquiet.callsOf_eq, List.nil_append]
    exact (List.prefix_append_right_inj _).mpr hcalls
  · -- the connection ends behind all that the octets taken amount to
    have hbehind : before ++ (w.account machine card).deeds <+: w.deeds := by
      rcases List.prefix_or_prefix_of_prefix hdeeds
        (List.prefix_append _ (.hungUp :: after)) with hshort | hlong
      · have hmem' := hshort.subset hmem
        rcases List.mem_append.mp hmem' with hmem' | hmem'
        · obtain ⟨event, hevent⟩ := hquiet _ hmem'
          cases hevent
        · exact absurd hmem' (Account.connected_ofStream _)
      · exact hlong
    have hsecond := sentOf_mono hbehind
    rw [sentOf_append, hquiet.sentOf_eq, List.nil_append] at hsecond
    refine ⟨hfirst.eq_of_length_le hsecond.length_le, fun hfault => ?_⟩
    rw [← hended hmem]
    exact hall hfault

section

variable {rest : Encounter σ Doorstep → Prop}
  {Q : α → Encounter σ Doorstep → Prop} {d : Dialogue Session α}

/-- What a session has done is settled at any time by what it took. -/
theorem settling (hdone : ∀ a w, Q a w → Spent machine card w)
    (hrest : ∀ w, rest w → Spent machine card w)
    (h : d.Keeps
      (surroundings (Doorstep.surroundings peer) machine (undisturbed most))
      (Attentive machine card rest) Q w) :
    Settling machine card w := by
  -- the reader falls silent here and now, and the session is run to its end
  obtain ⟨v, hJ, hspent⟩ := h.foresee
    (J := fun v => w.deeds <+: v.deeds ∧ v.taken = w.taken ∧
      (.hungUp ∈ w.deeds → v.ended = w.ended))
    ⟨List.prefix_refl _, rfl, fun _ => rfl⟩
    (fun q v hq hJ => by
      obtain ⟨hdeeds, htaken, hended⟩ := hJ
      obtain ⟨a, v', hr, hdeeds', htaken', hended'⟩ := exists_answer hq
      refine ⟨a, v', hr, hdeeds.trans hdeeds', htaken'.trans htaken, ?_⟩
      intro hmem
      exact (hended' (hdeeds.subset hmem)).trans (hended hmem))
    hdone hrest
  exact hspent.settling hJ.1 hJ.2.1 hJ.2.2

/-- While a session offers octets there is more to be sent, and its
connection is there. -/
theorem settling_send {offered : Bytes} {next : Except IoError Nat →
      Dialogue Session α} (hdone : ∀ a w, Q a w → Spent machine card w)
    (hrest : ∀ w, rest w → Spent machine card w)
    (h : (Dialogue.ask (Ask.socket (.stream (.send offered))) next).Keeps
      (surroundings (Doorstep.surroundings peer) machine (undisturbed most))
      (Attentive machine card rest) Q w) :
    .hungUp ∉ w.deeds ∧
      sentOf w.deeds ≠ sentOf (w.account machine card).deeds := by
  obtain ⟨octet, octets, rfl⟩ : ∃ octet octets, offered = octet :: octets :=
    List.exists_cons_of_ne_nil h.1
  -- if one octet more is accepted, that octet belongs to what is settled
  have hnext := h.2 (Except.ok 1) (w.see [.sent octet])
    ⟨1, Nat.one_pos, by simp, rfl, rfl⟩
  have hafter := settling hdone hrest hnext
  have hlength := hafter.sent.length_le
  rw [see, sentOf_append, List.length_append] at hlength
  replace hlength : (sentOf w.deeds).length + 1 ≤
    (sentOf (w.account machine card).deeds).length := hlength
  refine ⟨fun hmem => ?_, fun heq => ?_⟩
  · have hnow := (settling hdone hrest h).finished hmem
    rw [hnow.1] at hlength
    omega
  · rw [heq] at hlength
    omega

end

end Encounter

end CardBridge.Session
