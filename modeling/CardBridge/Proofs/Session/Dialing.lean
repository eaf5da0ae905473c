import CardBridge.Proofs.Session.During
import CardBridge.Proofs.Session.Serving

/-!
# A session that dials

A session in client mode that is neither cancelled nor disturbed does what
it takes of the stream of its reader amounts to, from the connection to the
last event (`Encounter.keeps_run`).
-/

namespace CardBridge.Session

open Dialogue

namespace Encounter

variable {σ ν α : Type} {net : Surroundings Network ν}
  {machine : Machine Card σ} {flow : Surroundings Stream (Encounter σ ν)}
  {most : Nat} {card : σ} {before : List Deed}
  {rest : Encounter σ ν → Prop} {w : Encounter σ ν} {rounds : Nat}

/-! ## A connection from beginning to end -/

theorem keeps_setUp (config : SessionConfig) :
    (setUp config).run.Keeps (surroundings net machine flow)
      (Attentive machine card rest) (fun r w' => r = .ok () ∧ w' = w) w := by
  simp only [setUp, Socket.setNoDelay, Socket.duplicate,
    Socket.setReadTimeout, Socket.setWriteTimeout, Socket.ask, keeps_run_bind,
    keeps_onSocket, keeps_bind, keeps_orFail, pure_eq, keeps_done]
  -- two options, and two timeouts each on a handle of its own
  iterate 5
    refine ⟨trivial, ?_⟩
    intro _ _ h
    obtain ⟨rfl, rfl⟩ := h
  exact ⟨rfl, rfl⟩

section

variable (machine card before)

/-- A connection was served to its end, and shut down. -/
structure Served (w : Encounter σ ν) : Prop where
  card_eq : w.card = (w.account machine card).card
  deeds_eq : w.deeds = before ++ (w.account machine card).deeds ++ [.hungUp]
  all : (w.account machine card).fault = none → w.ended = true

end

/-- The network is left alone while a connection is served. -/
theorem network_eq {q : Ask} {a : Answer q} {w' : Encounter σ ν}
    (hq : During q)
    (h : surroundings net machine (undisturbed most) q w a w') :
    w'.network = w.network := by
  match q, a, hq, h with
  | .socket (.stream (.receive _)), _, _, h =>
    rcases h with ⟨octets, -, -, -, -, rfl⟩ | ⟨-, rfl⟩
    · rfl
    · rfl
  | .socket (.stream (.send _)), _, _, h =>
    obtain ⟨accepted, -, -, -, rfl⟩ := h
    rfl
  | .socket (.stream .flush), _, _, h | .socket (.noDelay _), _, _, h
  | .socket (.readTimeout _), _, _, h | .socket (.writeTimeout _), _, _, h
  | .socket .duplicate, _, _, h | .token .isCancelled, _, _, h
  | .emit _, _, _, h =>
    obtain ⟨-, rfl⟩ := h
    rfl
  | .card _, _, _, h =>
    obtain ⟨-, rfl⟩ := h
    rfl

theorem keeps_serveConnection (config : SessionConfig)
    (hrounds : most + Frame.headerSize + Frame.maxPayload < rounds)
    (hquiet : Quiet w.deeds) (htaken : w.taken = []) :
    (serveConnection rounds config).run.Keeps
      (surroundings net machine (undisturbed most))
      (Attentive machine w.card rest)
      (fun r w' => r = (w'.account machine w.card).verdict ∧
        Served machine w.card w.deeds w' ∧ w'.network = w.network) w := by
  refine Session.keeps_serveConnection.mpr (keeps_run_bind.mpr ?_)
  refine (keeps_setUp config).imp ?_
  intro _ w' h
  obtain ⟨rfl, hw'⟩ := h
  rw [hw']
  have hexchange : (exchange rounds rounds []).run.Keeps
      (surroundings net machine (undisturbed most))
      (Attentive machine w.card rest) (Exchanged machine w.card w.deeds) w :=
    keeps_exchange (by omega) (midway_nil htaken) hquiet
      (by rw [List.length_nil]; omega)
  -- `During` is what is asked meanwhile, and the network is not
  have hduring := (asks_exchange rounds rounds []).mono
    fun _ => Exchanging.during
  have hnetwork := hduring.keeps
    (R := surroundings net machine (undisturbed most))
    (P := fun _ _ => True) (J := fun v => v.network = w.network)
    (fun _ _ _ _ => trivial) (fun _ _ => trivial)
    (fun q v a v' hq hv hr => (network_eq hq hr).trans hv) rfl
  refine (hexchange.and hnetwork).mono (fun _ _ h => h.1) ?_
  intro r w' h
  obtain ⟨h, hw'⟩ := h
  refine ⟨fun hr => ?_, fun _ => ⟨trivial, ?_⟩⟩
  · exact absurd (h.verdict.symm.trans hr) (Account.verdict_ne_unwound _)
  · intro _ _ hcleared
    subst hcleared
    refine ⟨trivial, ?_⟩
    intro _ _ hshut
    subst hshut
    exact ⟨h.verdict, ⟨h.settled.card_eq,
      congrArg (· ++ [Deed.hungUp]) h.settled.deeds_eq, h.all⟩, hw'⟩

/-! ## A session from beginning to end -/

theorem keeps_takeOn {Q : Except Stop Bool → Encounter σ ν → Prop}
    (address : Address)
    (hQ : Q (.ok true) (w.see [.told (.connected address)])) :
    (takeOn address).run.Keeps (surroundings net machine flow)
      (Attentive machine card rest) Q w := by
  simp only [takeOn, Socket.duplicate, Socket.ask, keeps_run_bind,
    keeps_onSocket, keeps_bind, keeps_orFail, pure_eq, keeps_done,
    keeps_run_liftM]
  refine ⟨trivial, ?_⟩
  intro _ _ hduplicated
  obtain ⟨rfl, rfl⟩ := hduplicated
  refine ⟨trivial, ?_⟩
  intro _ _ hregistered
  obtain ⟨rfl, rfl⟩ := hregistered
  refine ⟨trivial, ?_⟩
  intro _ _ hadvanced
  subst hadvanced
  exact keeps_telling trivial hQ

theorem keeps_eject {Q : Except Stop Unit → Encounter σ ν → Prop}
    (cardName : String)
    (hQ : Q (.ok ())
      { w.see [.called .eject] with card := (machine .eject w.card).2 }) :
    (eject cardName false).run.Keeps (surroundings net machine flow)
      (Attentive machine card rest) Q w := by
  rw [eject, keeps_run_bind, keeps_run_liftM]
  refine ⟨trivial, ?_⟩
  intro _ _ h
  obtain ⟨rfl, rfl⟩ := h
  show Keeps _ _ _ _ _
  cases (machine .eject w.card).1 with
  | ok reply => exact hQ
  | error e =>
    refine ⟨trivial, ?_⟩
    intro _ _ hlogged
    subst hlogged
    exact hQ

theorem keeps_conclude {Q : Outcome → Encounter σ ν → Prop}
    (cardName : String) (reason : ExitReason)
    (hQ : Q (.ended reason)
      { w.see [.called .eject, .told (.disconnected reason)] with
        card := (machine .eject w.card).2 }) :
    (conclude cardName reason).Keeps (surroundings net machine flow)
      (Attentive machine card rest) Q w := by
  simp only [conclude, windUp, keeps_bind, keeps_run_bind, keeps_run_liftM]
  refine ⟨trivial, ?_⟩
  intro _ _ hadvanced
  subst hadvanced
  refine ⟨trivial, ?_⟩
  intro _ _ hcleared
  subst hcleared
  refine keeps_eject cardName (keeps_told trivial ?_)
  refine ⟨trivial, ?_⟩
  intro _ _ hfinished
  subst hfinished
  show Q (.ended reason) _
  simpa [see] using hQ

/-- What the network is asked is not seen. -/
theorem keeps_network {d : Dialogue Network (Except TransportError α)}
    {Q : Except Stop α → Encounter σ ν → Prop}
    {T : Except TransportError α → ν → Prop}
    (hd : d.Keeps net (fun q _ => q ≠ none) T w.network)
    (hQ : ∀ r network, T r network →
      Q (r.mapError fun e => .failure (.transport e)) { w with network }) :
    (onNetwork d).run.Keeps (surroundings net machine flow)
      (Attentive machine card rest) Q w := by
  refine keeps_onNetwork.mpr ?_
  have hsimulate := hd.simulate (S := fun q w a w' =>
      surroundings net machine flow (.network q) w a w')
    (V := fun v n => v = { w with network := n }) rfl ?_
  · refine hsimulate.mono ?_ ?_
    · intro q _ h
      obtain ⟨n, rfl, hq⟩ := h
      cases q with
      | none => exact absurd rfl hq
      | some q => trivial
    · intro r _ h
      obtain ⟨n, rfl, hr⟩ := h
      exact hQ r n hr
  · intro q _ n a _ hV _ h
    subst hV
    obtain ⟨n', hn, rfl⟩ := h
    exact ⟨n', hn, rfl⟩

section

variable (machine card before)

/-- A session was wound up whose only connection was served to its end. -/
structure WoundUp (address : Address) (r : Outcome) (w : Encounter σ ν) :
    Prop where
  outcome : r = .ended (w.account machine card).reason
  card_eq : w.card =
    ((w.account machine card).wound machine address).card
  deeds_eq : w.deeds =
    before ++ ((w.account machine card).wound machine address).deeds
  all : (w.account machine card).fault = none → w.ended = true

end

/-- What is left to be seen of a session that has served its reader. -/
theorem Served.woundUp {address : Address}
    (h : Served machine card (before ++ [.told (.connected address)]) w) :
    WoundUp machine card before address
      (.ended (w.account machine card).reason)
      { w.see ((w.account machine card).complaint ++ [.called .eject,
          .told (.disconnected (w.account machine card).reason)]) with
        card := (machine .eject w.card).2 } := by
  refine ⟨rfl, ?_, ?_, h.all⟩
  · show (machine .eject w.card).2 = _
    rw [h.card_eq]
    rfl
  · show w.deeds ++ _ = _
    rw [h.deeds_eq]
    show _ = before ++ (Account.wound machine address
      (w.account machine card)).deeds
    simp [Account.wound]

/-- An error of a session that nobody told to stop is told to those who
watch. -/
theorem keeps_conclude_failure {e : SessionError} {address : Address}
    (cardName : String)
    (h : Served machine card (before ++ [.told (.connected address)]) w)
    (hfault : (w.account machine card).fault = some e) :
    (concluding cardName (.error (.failure e))).Keeps
      (surroundings net machine flow) (Attentive machine card rest)
      (fun r w' => WoundUp machine card before address r w' ∧
        (w'.account machine card).fault = some e) w := by
  refine keeps_bind.mpr ⟨trivial, ?_⟩
  intro _ w' hread
  obtain ⟨rfl, hw'⟩ := hread
  rw [hw']
  refine keeps_bind.mpr (keeps_told trivial ?_)
  have hwound := h.woundUp
  rw [Account.reason, Account.complaint, hfault] at hwound
  refine keeps_conclude cardName (.failed e.kind) ?_
  rw [see_see]
  exact ⟨hwound, hfault⟩

section

variable {config : SessionConfig} {peer : Option Address}
  (hdial : (Network.dial config.hostname config.port
    config.connectTimeout).Keeps net (fun q _ => q ≠ none)
      (fun r _ => r = .ok peer) w.network)
  (hrounds : most + Frame.headerSize + Frame.maxPayload < rounds)
  (hquiet : Quiet w.deeds) (htaken : w.taken = [])

include hdial hrounds hquiet htaken

theorem keeps_serveReader :
    (serveReader rounds config).run.Keeps
      (surroundings net machine (undisturbed most))
      (Attentive machine w.card rest)
      (fun r w' =>
        r = (w'.account machine w.card).verdict.map (fun _ => .peerClosed) ∧
        Served machine w.card
          (w.deeds ++ [.told (.connected (peer.getD config.hostname))]) w')
      w := by
  rw [serveReader, keeps_run_bind, keeps_run_liftM]
  refine ⟨trivial, ?_⟩
  intro _ w' h
  obtain ⟨rfl, hw'⟩ := h
  rw [hw']
  refine keeps_run_bind.mpr (keeps_network hdial ?_)
  intro _ network hconnected
  subst hconnected
  refine keeps_run_bind.mpr (keeps_takeOn _ ?_)
  refine (keeps_serveConnection (w := ({ w with network } :
    Encounter σ ν).see [.told (.connected (peer.getD config.hostname))])
    config hrounds (hquiet.concat _) htaken).run_bind ?_
  intro r w' h
  obtain ⟨hr, hserved, -⟩ := h
  have hverdict := congrArg (Except.map fun _ => ExitReason.peerClosed) hr
  cases r with
  | ok a =>
    rw [keeps_run_bind, keeps_run_liftM]
    refine ⟨trivial, ?_⟩
    intro _ w'' hread
    obtain ⟨rfl, hw''⟩ := hread
    rw [hw'']
    exact ⟨hverdict, hserved⟩
  | error e => exact ⟨hverdict, hserved⟩

/-- A session in client mode does what it takes of the stream amounts to. -/
theorem keeps_run (cardName : String) (hclient : config.listen = false) :
    (run rounds config cardName).Keeps
      (surroundings net machine (undisturbed most))
      (Attentive machine w.card rest)
      (WoundUp machine w.card w.deeds (peer.getD config.hostname)) w := by
  rw [run_eq_concluding, keeps_bind, serve, hclient, keeps_run_bind,
    keeps_run_liftM]
  refine ⟨trivial, ?_⟩
  intro _ w' hw'
  rw [hw']
  refine (keeps_serveReader hdial hrounds hquiet htaken).imp ?_
  intro r w' h
  obtain ⟨hr, hserved⟩ := h
  cases hf : (w'.account machine w.card).fault with
  | none =>
    rw [Account.verdict, hf] at hr
    subst hr
    have hwound := hserved.woundUp
    rw [Account.reason, Account.complaint, hf] at hwound
    exact keeps_conclude cardName .peerClosed hwound
  | some e =>
    rw [Account.verdict, hf] at hr
    subst hr
    exact (keeps_conclude_failure cardName hserved hf).imp fun _ _ h => h.1

end

end Encounter

end CardBridge.Session
