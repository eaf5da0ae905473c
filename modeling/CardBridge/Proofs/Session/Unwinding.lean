import CardBridge.Proofs.Session.Lifetime

/-!
# Who gives a session up

A session ends without a reason exactly if a call to the card or to those who
watch gave up and took the session with it. Everything else that fails is a
failure that the session reports. Once a call has given up, a part of a
session asks nothing more.
-/

namespace CardBridge.Session

open Dialogue

variable {α β ε : Type}

/-- A part of a session that gives up exactly if a call does, and then at
once. -/
def Steady (part : Serving α) : Prop :=
  ∀ v : Watch, v.unwound = false →
    part.run.Keeps watched (fun _ v => v.unwound = false)
      (fun r v => r = .error .unwound ↔ v.unwound = true) v

theorem Steady.bind {part : Serving α} {next : α → Serving β}
    (h : Steady part) (hnext : ∀ a, Steady (next a)) :
    Steady (part >>= next) := by
  intro v hv
  refine (h v hv).run_bind ?_
  intro r v' hr
  cases r with
  | ok a => exact hnext a v' (by simpa using hr)
  | error stop => simpa using hr

theorem steady_pure (a : α) : Steady (pure a) := by
  intro v hv
  simp [hv]

theorem steady_fail (e : SessionError) : Steady (fail e : Serving α) := by
  intro v hv
  simp [hv]

theorem steady_cut : Steady (ExceptT.mk .cut : Serving α) :=
  fun _ hv => hv

/-- What cannot give up: neither the card nor those who watch are called. -/
def Impersonal : Ask → Prop
  | .card _ => False
  | .emit _ => False
  | _ => True

theorem Watch.unwound_move (v : Watch) (next : SessionState) :
    (v.move next).unwound = v.unwound := by
  rw [move]
  split <;> rfl

theorem Impersonal.unwound_enter {q : Ask} (h : Impersonal q) (v : Watch)
    (a : Answer q) : (v.enter q a).unwound = v.unwound := by
  cases q with
  | card op => exact h.elim
  | emit event => exact h.elim
  | advance next => exact v.unwound_move next
  | _ => rfl

theorem steady_lift {d : Dialogue Session α} (h : d.Asks Impersonal) :
    Steady (ExceptT.lift d) := by
  intro v hv
  have hkeeps : d.Keeps watched (fun _ v => v.unwound = false)
      (fun _ v => v.unwound = false) v := by
    refine h.keeps (fun _ _ _ hv => hv) (fun _ hv => hv) ?_ hv
    rintro q v a _ hq hv rfl
    exact (hq.unwound_enter v a).trans hv
  refine keeps_run_lift.mpr (hkeeps.imp ?_)
  intro a v hv
  simp [hv]

theorem steady_ask {q : Ask} (h : Impersonal q) :
    Steady (ExceptT.lift (ask q)) :=
  steady_lift (asks_ask h)

theorem steady_isCancelled : Steady (ExceptT.lift isCancelled) :=
  steady_ask (q := .token .isCancelled) trivial

theorem steady_onSocket (d : Dialogue Socket α) : Steady (onSocket d) :=
  steady_lift (Asks.embed (asks_of_forall fun _ => trivial))

theorem steady_orFail {wrap : ε → SessionError} (result : Except ε α) :
    Steady (orFail wrap result) := by
  cases result with
  | ok a => exact steady_pure a
  | error e => exact steady_fail (wrap e)

theorem steady_onNetwork
    (d : Dialogue Network (Except TransportError α)) :
    Steady (onNetwork d) := by
  have hasks : d.Asks fun q => Impersonal (.network q) :=
    asks_of_forall fun _ => trivial
  exact (steady_lift hasks.embed).bind fun r => steady_orFail r

theorem steady_onCard (op : Card.Operation) : Steady (onCard op) := by
  intro v hv
  refine keeps_onCard.mpr ⟨hv, ?_⟩
  intro a v' heq
  subst heq
  cases a with
  | returned result =>
    refine iff_of_false ?_ (Bool.eq_false_iff.mp hv)
    intro h
    cases result <;> cases h
  | unwound => exact iff_of_true rfl rfl

theorem steady_emit (event : Event) : Steady (emit event) := by
  intro v hv
  refine keeps_emit.mpr ⟨hv, ?_⟩
  intro a v' heq
  subst heq
  cases a <;> simp [Attempt.passed, Watch.enter, hv]

theorem steady_setUp (config : SessionConfig) : Steady (setUp config) := by
  refine (steady_onSocket _).bind fun r => (steady_orFail r).bind fun _ => ?_
  refine (steady_onSocket _).bind fun r => (steady_orFail r).bind fun _ => ?_
  refine (steady_onSocket _).bind fun r => (steady_orFail r).bind fun _ => ?_
  refine (steady_onSocket _).bind fun r => (steady_orFail r).bind fun _ => ?_
  exact (steady_onSocket _).bind fun r => steady_orFail r

theorem steady_control (command : ControlCommand) :
    Steady (control command) := by
  cases command with
  | powerOff =>
    refine (steady_onCard .powerOff).bind fun _ => ?_
    exact (steady_emit _).bind fun _ => steady_pure _
  | powerOn =>
    refine Steady.bind ?_ fun _ => steady_pure _
    refine (steady_onCard .powerOn).bind fun _ => ?_
    refine (steady_emit _).bind fun _ => ?_
    exact (steady_onCard .atr).bind fun _ => steady_emit _
  | reset =>
    refine (steady_onCard .reset).bind fun _ => ?_
    exact (steady_emit _).bind fun _ => steady_pure _
  | getAtr => exact (steady_onCard .atr).bind fun _ => steady_pure _

theorem steady_dispatch (payload : Bytes) : Steady (dispatch payload) := by
  refine (steady_orFail _).bind fun request => ?_
  cases request with
  | control command => exact steady_control command
  | apdu apdu =>
    refine Steady.bind ?_ fun _ => steady_pure _
    refine (steady_emit _).bind fun _ => ?_
    refine (steady_onCard (.transmit apdu)).bind fun _ => ?_
    exact (steady_emit _).bind fun _ => steady_pure _

theorem steady_answer (rounds : Nat) (response : Bytes) :
    Steady (answer rounds response) := by
  have hsend : Steady (onSocket (Socket.talk (Frame.send rounds response))
      >>= orFail .frame) :=
    (steady_onSocket _).bind fun r => steady_orFail r
  rw [answer]
  split
  · exact steady_fail _
  · exact hsend

theorem steady_exchange (rounds left : Nat) (buffer : Bytes) :
    Steady (exchange rounds left buffer) := by
  induction left generalizing buffer with
  | zero => exact steady_cut
  | succ left ih =>
    refine (steady_onSocket _).bind ?_
    rintro ⟨e | payload, kept⟩
    · cases e with
      | connectionClosed => exact steady_pure ()
      | _ =>
        refine steady_isCancelled.bind fun flag => ?_
        cases flag
        · exact steady_fail _
        · exact steady_pure ()
    · refine (steady_dispatch payload).bind ?_
      rintro (_ | response)
      · exact ih kept
      · exact (steady_answer rounds response).bind fun _ => ih kept

theorem steady_serveConnection (rounds : Nat) (config : SessionConfig) :
    Steady (serveConnection rounds config) := by
  have hserving : Steady
      (setUp config >>= fun _ => exchange rounds rounds []) :=
    (steady_setUp config).bind fun _ => steady_exchange rounds rounds []
  intro v hv
  refine keeps_serveConnection.mpr ((hserving v hv).imp ?_)
  intro r v' hr
  refine ⟨fun _ => hr, fun hreturned => ?_⟩
  have hv' : v'.unwound = false := by simpa [hreturned] using hr
  refine ⟨hv', ?_⟩
  rintro _ _ rfl
  refine ⟨hv', ?_⟩
  rintro _ _ rfl
  exact hr

theorem steady_takeOn (address : Address) : Steady (takeOn address) := by
  refine (steady_onSocket _).bind fun r => (steady_orFail r).bind fun _ => ?_
  refine (steady_ask (q := .token .register) trivial).bind fun taken => ?_
  cases taken with
  | false => exact steady_pure false
  | true =>
    refine (steady_ask (q := .advance .connected) trivial).bind fun _ => ?_
    exact (steady_emit _).bind fun _ => steady_pure true

theorem steady_serveReader (rounds : Nat) (config : SessionConfig) :
    Steady (serveReader rounds config) := by
  refine steady_isCancelled.bind fun flag => ?_
  cases flag with
  | true => exact steady_pure _
  | false =>
    refine (steady_onNetwork _).bind fun peer => ?_
    refine (steady_takeOn _).bind fun taken => ?_
    cases taken with
    | false => exact steady_pure _
    | true =>
      refine (steady_serveConnection rounds config).bind fun _ => ?_
      exact steady_isCancelled.bind fun flag => steady_pure _

theorem steady_awaitClient (interval : Duration) (rounds : Nat) :
    Steady (awaitClient interval rounds) := by
  induction rounds with
  | zero => exact steady_cut
  | succ rounds ih =>
    refine steady_isCancelled.bind fun flag => ?_
    cases flag with
    | true => exact steady_pure _
    | false =>
      refine (steady_onNetwork _).bind fun peer => ?_
      cases peer with
      | none => exact ih
      | some peer => exact steady_pure _

theorem steady_serveClients (rounds : Nat) (config : SessionConfig)
    (left : Nat) : Steady (serveClients rounds config left) := by
  induction left with
  | zero => exact steady_cut
  | succ left ih =>
    refine (steady_ask (q := .advance .listening) trivial).bind fun _ => ?_
    refine (steady_awaitClient _ rounds).bind fun peer => ?_
    cases peer with
    | none => exact steady_pure _
    | some peer =>
      refine (steady_takeOn _).bind fun taken => ?_
      cases taken with
      | false => exact steady_pure _
      | true =>
        refine (steady_serveConnection rounds config).bind fun _ => ?_
        refine steady_isCancelled.bind fun flag => ?_
        cases flag with
        | true => exact steady_pure _
        | false => exact (steady_emit _).bind fun _ => ih

theorem steady_serve (rounds : Nat) (config : SessionConfig) :
    Steady (serve rounds config) := by
  have haddresses : localAddresses.Asks Impersonal :=
    asks_localAddresses trivial fun _ => trivial
  refine (steady_ask (q := .advance .connecting) trivial).bind fun _ => ?_
  by_cases hlisten : config.listen = true
  · rw [if_pos hlisten]
    refine (steady_onNetwork _).bind fun port => ?_
    refine (steady_lift haddresses).bind fun _ => ?_
    exact (steady_emit _).bind fun _ => steady_serveClients rounds config rounds
  · rw [if_neg hlisten]
    exact steady_serveReader rounds config

/-! ## The end of a session -/

section

variable {v : Watch}

/-- The state is moved only as long as no call gave up. -/
def Moving : Option Ask → Watch → Prop
  | some (.advance _), v => v.unwound = false
  | _, _ => True

/-- A session ends without a reason exactly if a call gave up. -/
def Accountable (outcome : Outcome) (v : Watch) : Prop :=
  outcome = .unwound ↔ v.unwound = true

theorem keeps_eject_card {P : Option Ask → Watch → Prop}
    {Q : Except Stop Unit → Watch → Prop} (cardName : String)
    (heject : P (some (.card .eject)) v)
    (hlog : ∀ record, P (some (.log record)) v) (hok : Q (.ok ()) v)
    (hunwound : Q (.error .unwound) { v with unwound := true }) :
    (eject cardName false).run.Keeps watched P Q v := by
  refine keeps_run_bind.mpr (keeps_run_liftM.mpr ?_)
  refine keeps_settled heject fun a => ?_
  rcases a with ⟨e | _⟩ | _
  · -- a card that cannot be ejected is only written down
    refine ⟨hlog _, ?_⟩
    intro _ _ hlogged
    subst hlogged
    exact hok
  · exact hok
  · exact hunwound

theorem keeps_abandon_moving (cardName : String) (h : v.unwound = true) :
    (abandon cardName).Keeps watched Moving
      (fun _ => Accountable .unwound) v := by
  have hcame : Accountable .unwound v := iff_of_true rfl h
  exact keeps_bind.mpr (keeps_eject_card cardName trivial (fun _ => trivial)
    hcame (iff_of_true rfl rfl))

theorem keeps_conclude_moving (cardName : String) (reason : ExitReason)
    (h : v.unwound = false) :
    (conclude cardName reason).Keeps watched Moving Accountable v := by
  have hclosing : (v.move .closing).unwound = false :=
    (v.unwound_move .closing).trans h
  simp only [conclude, windUp, keeps_bind, keeps_run_bind, keeps_run_liftM]
  refine ⟨h, ?_⟩
  intro _ _ hadvanced
  subst hadvanced
  refine ⟨trivial, ?_⟩
  intro _ _ hcleared
  subst hcleared
  refine keeps_eject_card cardName trivial (fun _ => trivial) ?_
    (iff_of_true rfl rfl)
  refine keeps_emit.mpr ⟨trivial, ?_⟩
  intro a _ htold
  subst htold
  cases a with
  | unwound => exact iff_of_true rfl rfl
  | returned _ =>
    refine ⟨hclosing, ?_⟩
    intro _ _ hclosed
    subst hclosed
    refine iff_of_false (fun h => by cases h) (Bool.eq_false_iff.mp ?_)
    exact (Watch.unwound_move _ .closed).trans hclosing

/-- A session whose card gives up, or those who watch it, does not move its
state any more, and ends without a reason; no other does. -/
theorem keeps_moving (rounds : Nat) (config : SessionConfig)
    (cardName : String) :
    (run rounds config cardName).Keeps watched Moving Accountable {} := by
  have hserve : (serve rounds config).run.Keeps watched Moving
      (fun r v => r = .error .unwound ↔ v.unwound = true) {} := by
    refine (steady_serve rounds config {} rfl).mono ?_ fun _ _ => id
    intro q v hv
    cases q with
    | none => trivial
    | some q =>
      cases q with
      | advance next => exact hv
      | _ => trivial
  rw [run_eq_concluding]
  refine hserve.bind ?_
  intro r v hr
  match r with
  | .ok reason => exact keeps_conclude_moving cardName reason (by simpa using hr)
  | .error .unwound =>
    exact (keeps_abandon_moving cardName (hr.mp rfl)).bind fun _ _ => id
  | .error (.failure e) =>
    have hv : v.unwound = false := by simpa using hr
    have hread : isCancelled.Keeps watched Moving
        (fun _ v => v.unwound = false) v :=
      ⟨trivial, fun _ _ heq => heq ▸ hv⟩
    refine hread.bind ?_
    intro flag v hv
    cases flag with
    | true => exact keeps_conclude_moving cardName .cancelled hv
    | false =>
      refine keeps_bind.mpr (keeps_emit.mpr ⟨trivial, ?_⟩)
      intro a _ htold
      subst htold
      cases a with
      | returned _ => exact keeps_conclude_moving cardName _ hv
      | unwound =>
        exact (keeps_abandon_moving cardName rfl).bind fun _ _ => id

end

end CardBridge.Session
