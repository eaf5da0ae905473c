import CardBridge.Proofs.Session.Dialing

/-!
# A session that has one reader

What `Encounter.keeps_run` says of a session in client mode, for both modes:
a network with a single reader, which is dialed or waited for. A session that
listens goes on doing so when its reader is gone, and is then at rest.
-/

namespace CardBridge.Session

open Dialogue

/-- A network with a single reader. -/
structure Doorstep where
  /-- So many waits may pass before the reader is there. -/
  patience : Nat
  /-- The reader was connected. -/
  connected : Bool := false

/-- What a network with a single reader answers. -/
def Doorstep.surroundings (peer : Option Address) :
    Surroundings Network Doorstep
  | .resolve _ _, w, a, w' =>
    (∃ addresses, addresses ≠ [] ∧ a = .ok addresses) ∧ w' = w
  | .connect _ _, w, a, w' => a = .ok peer ∧ w' = { w with connected := true }
  | .listen _, w, a, w' => (∃ port, a = .ok port) ∧ w' = w
  | .poll _, w, a, w' =>
    (w.connected = false ∧ a = .ok (some peer) ∧
      w' = { w with connected := true }) ∨
    ((w.connected = true ∨ 0 < w.patience) ∧
      (a = .ok none ∨ ∃ cause, Network.isPassing cause ∧ a = .error cause) ∧
      w' = { w with patience := w.patience - 1 })
  | .unpoll, w, a, w' => a = .ok () ∧ w' = w

namespace Doorstep

variable {peer : Option Address} {w : Doorstep}

theorem keeps_resolve {host : String} {port : UInt16} :
    (Network.resolve host port).Keeps (surroundings peer)
      (fun q _ => q ≠ none)
      (fun r w' => (∃ addresses, addresses ≠ [] ∧ r = .ok addresses) ∧ w' = w)
      w := by
  refine keeps_bind.mpr ⟨by simp, ?_⟩
  intro a w' h
  obtain ⟨⟨addresses, hne, rfl⟩, rfl⟩ := h
  cases addresses with
  | nil => exact absurd rfl hne
  | cons address addresses => exact ⟨⟨_, hne, rfl⟩, rfl⟩

theorem keeps_dial {host : String} {port : UInt16} {bound : Option Duration} :
    (Network.dial host port bound).Keeps (surroundings peer)
      (fun q _ => q ≠ none) (fun r _ => r = .ok peer) w := by
  refine keeps_resolve.bind ?_
  intro r w' h
  obtain ⟨⟨addresses, hne, rfl⟩, rfl⟩ := h
  cases addresses with
  | nil => exact absurd rfl hne
  | cons address addresses =>
    refine keeps_bind.mpr (keeps_bind.mpr ⟨by simp, ?_⟩)
    intro a w' h
    obtain ⟨rfl, rfl⟩ := h
    rfl

theorem keeps_listen {host : String} {port : UInt16} :
    (Network.bind host port).Keeps (surroundings peer) (fun q _ => q ≠ none)
      (fun r w' => (∃ port, r = .ok port) ∧ w' = w) w := by
  refine keeps_resolve.bind ?_
  intro r w' h
  obtain ⟨⟨addresses, -, rfl⟩, rfl⟩ := h
  refine keeps_bind.mpr ⟨by simp, ?_⟩
  intro a w' h
  obtain ⟨⟨port, rfl⟩, rfl⟩ := h
  exact ⟨⟨port, rfl⟩, rfl⟩

/-- One interval of waiting gives the reader, or uses some patience up. -/
theorem keeps_accept {interval : Duration} :
    (Network.accept interval).Keeps (surroundings peer) (fun q _ => q ≠ none)
      (fun r w' => w.connected = false ∧ r = .ok (some peer) ∧
          w'.connected = true ∨
        (w.connected = true ∨ 0 < w.patience) ∧ r = .ok none ∧
          w' = { w with patience := w.patience - 1 }) w := by
  refine keeps_bind.mpr ⟨by simp, ?_⟩
  intro a w' h
  rcases h with ⟨hw, rfl, rfl⟩ | ⟨hw, rfl | ⟨cause, hpassing, rfl⟩, rfl⟩
  · refine keeps_bind.mpr ⟨by simp, ?_⟩
    intro a w' h
    obtain ⟨rfl, rfl⟩ := h
    exact .inl ⟨hw, rfl, rfl⟩
  · exact .inr ⟨hw, rfl, rfl⟩
  · refine .inr ⟨hw, ?_, rfl⟩
    exact if_pos hpassing

end Doorstep

namespace Encounter

variable {σ α : Type} {machine : Machine Card σ} {card : σ} {most : Nat}
  {flow : Surroundings Stream (Encounter σ Doorstep)}
  {before : List Deed} {w : Encounter σ Doorstep} {rounds : Nat}
  {config : SessionConfig} {peer : Option Address}

section

variable (machine card)

/-- A session that listens has served its reader without a fault. -/
structure AtRest (w : Encounter σ Doorstep) : Prop where
  connected : w.network.connected = true
  seen : ∃ before address, Quiet before ∧
    w.deeds = before ++ (w.account machine card).deeds ++
      [.hungUp, .told (.clientDisconnected address)]
  fault : (w.account machine card).fault = none
  ended : w.ended = true

end

/-- Nobody comes any more. -/
theorem keeps_awaitClient_atRest {Q : Except Stop (Option (Option Address)) →
      Encounter σ Doorstep → Prop} {interval : Duration}
    (h : AtRest machine card w) :
    (awaitClient interval rounds).run.Keeps
      (surroundings (Doorstep.surroundings peer) machine flow)
      (Attentive machine card (AtRest machine card)) Q w := by
  induction rounds generalizing w with
  | zero => exact h
  | succ rounds ih =>
    rw [awaitClient, keeps_run_bind, keeps_run_liftM]
    refine ⟨trivial, ?_⟩
    intro a w' ha
    obtain ⟨rfl, rfl⟩ := ha
    refine keeps_run_bind.mpr (keeps_network Doorstep.keeps_accept ?_)
    intro r network hr
    rcases hr with ⟨hw, -⟩ | ⟨-, rfl, rfl⟩
    · -- there is no second reader
      rw [h.connected] at hw
      cases hw
    · exact ih ⟨h.connected, h.seen, h.fault, h.ended⟩

theorem keeps_serveClients_atRest {left : Nat}
    {Q : Except Stop ExitReason → Encounter σ Doorstep → Prop}
    (h : AtRest machine card w) :
    (serveClients rounds config left).run.Keeps
      (surroundings (Doorstep.surroundings peer) machine flow)
      (Attentive machine card (AtRest machine card)) Q w := by
  cases left with
  | zero => exact h
  | succ left =>
    rw [serveClients, keeps_run_bind, keeps_run_liftM]
    refine ⟨trivial, ?_⟩
    intro a w' ha
    subst ha
    exact keeps_run_bind.mpr (keeps_awaitClient_atRest h)

/-- The reader comes before the rounds are used up. -/
theorem keeps_awaitClient {rest : Encounter σ Doorstep → Prop}
    {Q : Except Stop (Option (Option Address)) →
      Encounter σ Doorstep → Prop} {interval : Duration}
    (hconnected : w.network.connected = false)
    (hrounds : w.network.patience < rounds)
    (hQ : ∀ network : Doorstep, network.connected = true →
      Q (.ok (some peer)) { w with network }) :
    (awaitClient interval rounds).run.Keeps
      (surroundings (Doorstep.surroundings peer) machine flow)
      (Attentive machine card rest) Q w := by
  -- each wait without the reader uses up a round and some patience
  induction rounds generalizing w with
  | zero => omega
  | succ rounds ih =>
    rw [awaitClient, keeps_run_bind, keeps_run_liftM]
    refine ⟨trivial, ?_⟩
    intro a w' ha
    obtain ⟨rfl, hw'⟩ := ha
    rw [hw']
    refine keeps_run_bind.mpr (keeps_network Doorstep.keeps_accept ?_)
    intro r network hr
    rcases hr with ⟨-, rfl, hnetwork⟩ | ⟨hpatience, rfl, rfl⟩
    · exact hQ network hnetwork
    · refine ih hconnected ?_ fun network => hQ network
      show w.network.patience - 1 < rounds
      rcases hpatience with hpatience | hpatience
      · rw [hconnected] at hpatience
        cases hpatience
      · omega

theorem keeps_localAddresses {rest : Encounter σ Doorstep → Prop}
    {Q : List Address → Encounter σ Doorstep → Prop}
    (hQ : ∀ addresses, Q addresses w) :
    localAddresses.Keeps
      (surroundings (Doorstep.surroundings peer) machine flow)
      (Attentive machine card rest) Q w := by
  refine keeps_bind.mpr ⟨trivial, ?_⟩
  intro a w' ha
  subst ha
  cases a with
  | ok addresses => exact hQ addresses
  | error cause =>
    refine keeps_bind.mpr ⟨trivial, ?_⟩
    intro a w' ha
    subst ha
    exact hQ []

section

variable (hconnected : w.network.connected = false)
  (hpatience : w.network.patience < rounds)
  (hrounds : most + Frame.headerSize + Frame.maxPayload < rounds)
  (htaken : w.taken = [])

include hconnected hpatience hrounds htaken

/-- A session that listens serves its reader. It stops at a fault, and else
it is at rest. -/
theorem keeps_serveClients {left : Nat} (hquiet : Quiet w.deeds)
    (hleft : 0 < left) :
    (serveClients rounds config left).run.Keeps
      (surroundings (Doorstep.surroundings peer) machine (undisturbed most))
      (Attentive machine w.card (AtRest machine w.card))
      (fun r w' => ∃ e, r = .error (.failure e) ∧
        (w'.account machine w.card).fault = some e ∧
        Served machine w.card
          (w.deeds ++ [.told (.connected (peer.getD "unknown peer"))]) w')
      w := by
  obtain ⟨left, rfl⟩ : ∃ n, left = n + 1 := ⟨left - 1, by omega⟩
  rw [serveClients, keeps_run_bind, keeps_run_liftM]
  refine ⟨trivial, ?_⟩
  intro a w₁ ha
  rw [show w₁ = w from ha]
  refine keeps_run_bind.mpr (keeps_awaitClient hconnected hpatience ?_)
  intro network hnetwork
  refine keeps_run_bind.mpr (keeps_takeOn _ ?_)
  refine (keeps_serveConnection (w := ({ w with network } :
    Encounter σ Doorstep).see
      [.told (.connected (peer.getD "unknown peer"))])
    config hrounds (hquiet.concat _) htaken).run_bind ?_
  intro r w' h
  obtain ⟨hr, hserved, hw'⟩ := h
  replace hr : r = (w'.account machine w.card).verdict := hr
  replace hserved : Served machine w.card (w.deeds ++
    [.told (.connected (peer.getD "unknown peer"))]) w' := hserved
  replace hw' : w'.network = network := hw'
  cases hf : (w'.account machine w.card).fault with
  | some e =>
    rw [Account.verdict, hf] at hr
    rw [hr]
    exact ⟨e, rfl, rfl, hserved⟩
  | none =>
    rw [Account.verdict, hf] at hr
    rw [hr]
    -- the session goes back to waiting, and nobody comes
    refine keeps_run_bind.mpr (keeps_run_liftM.mpr ⟨trivial, ?_⟩)
    intro a w₂ ha
    obtain ⟨rfl, hw₂⟩ := ha
    rw [hw₂]
    refine keeps_telling trivial ?_
    refine keeps_serveClients_atRest ⟨?_, ⟨w.deeds ++
      [.told (.connected (peer.getD "unknown peer"))],
      peer.getD "unknown peer", hquiet.concat _, ?_⟩, hf, hserved.all hf⟩
    · show w'.network.connected = true
      rw [hw', hnetwork]
    · show w'.deeds ++ _ = _
      rw [hserved.deeds_eq, List.append_assoc]
      rfl

end

section

variable (machine card)

/-- A session with one reader has come to its end. One that listens does so
only at a fault. -/
structure Over (config : SessionConfig) (r : Outcome)
    (w : Encounter σ Doorstep) : Prop where
  woundUp : ∃ before address, Quiet before ∧
    WoundUp machine card before address r w
  fault : config.listen = true → (w.account machine card).fault ≠ none

/-- Where the rounds of a session may be used up: it listens, and its reader
is gone. -/
def Resting (config : SessionConfig) (w : Encounter σ Doorstep) : Prop :=
  config.listen = true ∧ AtRest machine card w

end

theorem keeps_run_listening (cardName : String)
    (hlisten : config.listen = true) (hquiet : Quiet w.deeds)
    (hconnected : w.network.connected = false)
    (hpatience : w.network.patience < rounds)
    (hrounds : most + Frame.headerSize + Frame.maxPayload < rounds)
    (htaken : w.taken = []) :
    (run rounds config cardName).Keeps
      (surroundings (Doorstep.surroundings peer) machine (undisturbed most))
      (Attentive machine w.card (AtRest machine w.card))
      (Over machine w.card config) w := by
  rw [run_eq_concluding, keeps_bind, serve, hlisten, keeps_run_bind,
    keeps_run_liftM]
  refine ⟨trivial, ?_⟩
  intro a w₁ ha
  rw [show w₁ = w from ha]
  refine keeps_run_bind.mpr (keeps_network Doorstep.keeps_listen ?_)
  intro r network h
  obtain ⟨⟨port, rfl⟩, rfl⟩ := h
  refine keeps_run_bind.mpr (keeps_run_liftM.mpr (keeps_localAddresses ?_))
  intro addresses
  refine keeps_telling trivial ?_
  refine (keeps_serveClients (w := w.see [.told (.listening port addresses)])
    hconnected hpatience hrounds htaken (hquiet.concat _)
    (by omega)).imp ?_
  intro r w' h
  obtain ⟨e, rfl, hfault, hserved⟩ := h
  refine (keeps_conclude_failure cardName hserved hfault).imp ?_
  intro r w'' h
  obtain ⟨hwound, hfault'⟩ := h
  refine ⟨⟨_, _, hquiet.concat _, hwound⟩, fun _ => ?_⟩
  rw [show (w''.account machine w.card).fault = _ from hfault']
  exact Option.some_ne_none e

/-- A session does what it takes of the stream of its one reader amounts
to. -/
theorem keeps_run_of_one (cardName : String) (hdeeds : w.deeds = [])
    (hconnected : w.network.connected = false)
    (hpatience : w.network.patience < rounds)
    (hrounds : most + Frame.headerSize + Frame.maxPayload < rounds)
    (htaken : w.taken = []) :
    (run rounds config cardName).Keeps
      (surroundings (Doorstep.surroundings peer) machine (undisturbed most))
      (Attentive machine w.card (Resting machine w.card config))
      (Over machine w.card config) w := by
  have hquiet : Quiet w.deeds := by
    rw [hdeeds]
    exact quiet_nil
  by_cases hlisten : config.listen = true
  · refine (keeps_run_listening cardName hlisten hquiet hconnected hpatience
      hrounds htaken).mono ?_ fun _ _ => id
    exact fun q w' h => h.mono fun w' h => ⟨hlisten, h⟩
  · have hclient : config.listen = false := by simpa using hlisten
    refine (keeps_run Doorstep.keeps_dial hrounds hquiet htaken cardName
      hclient).imp ?_
    intro r w' h
    exact ⟨⟨_, _, hquiet, h⟩, fun h => absurd h hlisten⟩

end Encounter

end CardBridge.Session
