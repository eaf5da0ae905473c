import CardBridge.Proofs.Session.Books
import CardBridge.Proofs.Session.During

/-!
# The conduct of a session

What the program of a session keeps to, whatever it is answered: by the
network, the reader, the card and the token, each of which may fail at any
point. The state is what the books say; every part of the program leads from
one of a few conditions on them to another, and `keeps_run` is what comes of
that from the beginning of a session to its end.
-/

namespace CardBridge.Session

open Dialogue

/-! ## Conditions on the books -/

/-- What may be asked once the token has refused a connection. -/
def Closing : Ask → Prop
  | .advance _ => True
  | .token .clear => True
  | .card op => op = .eject
  | .log _ => True
  | .emit (.disconnected _) => True
  | _ => False

/-- What may be asked once the card was ejected. -/
def Parting : Ask → Prop
  | .advance _ => True
  | .log _ => True
  | .emit (.disconnected _) => True
  | _ => False

/-- What a question requires of its own: a connection is offered to the
token only once, and it holds none when the end is told. -/
def Proper : Ask → Books → Prop
  | .token .register, b => ∀ c ∈ b.registered, c < b.made
  | .emit (.disconnected _), b => b.serving = none
  | _, _ => True

/-- The order that is kept at every question. -/
def Orderly : Option Ask → Books → Prop
  | none, _ => True
  | some q, b => (b.refused = true → Closing q) ∧
      (.eject ∈ b.calls → Parting q) ∧ Proper q b

/-- Nothing was done that belongs to the end. -/
structure Underway (b : Books) : Prop where
  calls : .eject ∉ b.calls
  events : ∀ event ∈ b.events, Ordinary event

/-- No connection is held, and all that the token took are shut down. -/
structure Released (b : Books) : Prop extends Underway b where
  serving : b.serving = none
  hungUp : ∀ c ∈ b.registered, c ∈ b.hungUp

/-- No connection is held, and another one may be made. -/
structure Idle (b : Books) : Prop extends Released b where
  refused : b.refused = false
  known : ∀ c ∈ b.registered, c ≤ b.made

/-- A connection was made that the token has not seen. -/
structure Offering (b : Books) : Prop extends Idle b where
  fresh : ∀ c ∈ b.registered, c < b.made

/-- A connection is held. -/
structure Attending (b : Books) : Prop extends Underway b where
  serving : b.serving = some b.made
  due : b.due = true
  refused : b.refused = false
  known : ∀ c ∈ b.registered, c ≤ b.made ∧ (c = b.made ∨ c ∈ b.hungUp)

/-- The flag was read after the last connection was taken back. -/
structure Noticed (flag : Bool) (b : Books) : Prop extends Released b where
  reading : b.reading = some flag
  due : b.due = false

/-- What is answered is entered in the books. -/
abbrev entered : Surroundings Session Books :=
  fun q b a b' => b' = b.enter q a

variable {α : Type} {b : Books} {q : Ask} {flag : Bool}
  {worked : Except Stop ExitReason} {before : List Event}

theorem Underway.orderly (h : Underway b) (hrefused : b.refused = false)
    (q : Ask) (hq : Proper q b) : Orderly (some q) b :=
  ⟨fun hr => absurd (hrefused.symm.trans hr) nofun,
    fun hc => absurd hc h.calls, hq⟩

theorem Idle.orderly (h : Idle b) (q : Ask) (hq : Proper q b) :
    Orderly (some q) b :=
  h.toUnderway.orderly h.refused q hq

theorem Idle.read (h : Idle b) (flag : Bool) :
    Idle (b.read flag) ∧ Noticed flag (b.read flag) := by
  obtain ⟨⟨⟨hcalls, hevents⟩, hserving, hhungUp⟩, hrefused, hknown⟩ := h
  refine ⟨⟨⟨⟨hcalls, hevents⟩, hserving, hhungUp⟩, hrefused, hknown⟩,
    ⟨⟨⟨hcalls, hevents⟩, hserving, hhungUp⟩, rfl, ?_⟩⟩
  simp [Books.read, hserving]

theorem Idle.refuse (h : Idle b) :
    Noticed true { b.read true with refused := true } := by
  obtain ⟨⟨hcalls, hevents⟩, hserving, hhungUp⟩ := h.toReleased
  refine ⟨⟨⟨hcalls, hevents⟩, hserving, hhungUp⟩, rfl, ?_⟩
  simp [Books.read, hserving]

theorem Idle.tell (h : Idle b) (event : Event) (hevent : Ordinary event) :
    Idle { b with events := b.events ++ [event] } := by
  obtain ⟨⟨⟨hcalls, hevents⟩, hserving, hhungUp⟩, hrefused, hknown⟩ := h
  refine ⟨⟨⟨hcalls, ?_⟩, hserving, hhungUp⟩, hrefused, hknown⟩
  intro e he
  simp only [List.mem_append, List.mem_singleton] at he
  rcases he with he | rfl
  · exact hevents e he
  · exact hevent

theorem Idle.connect (h : Idle b) : Offering b.connect :=
  ⟨⟨⟨⟨h.calls, h.events⟩, h.serving, h.hungUp⟩, h.refused,
    fun c hc => Nat.le_succ_of_le (h.known c hc)⟩,
    fun c hc => Nat.lt_succ_of_le (h.known c hc)⟩

theorem Offering.register (h : Offering b) : Attending b.register := by
  refine ⟨⟨h.calls, h.events⟩, rfl, rfl, h.refused, ?_⟩
  intro c hc
  rcases List.mem_cons.mp hc with rfl | hc
  · exact ⟨Nat.le_refl _, .inl rfl⟩
  · exact ⟨h.known c hc, .inr (h.hungUp c hc)⟩

/-- Nothing that is asked while a connection is held puts an end to that. -/
theorem Attending.enter (h : Attending b) (hq : During q) (a : Answer q) :
    Attending (b.enter q a) := by
  obtain ⟨⟨hcalls, hevents⟩, hserving, hdue, hrefused, hknown⟩ := h
  match q, hq with
  | .socket (.stream _), _ | .socket (.noDelay _), _
  | .socket (.readTimeout _), _ | .socket (.writeTimeout _), _
  | .socket .duplicate, _ =>
    exact ⟨⟨hcalls, hevents⟩, hserving, hdue, hrefused, hknown⟩
  | .card op, hop =>
    refine ⟨⟨?_, hevents⟩, hserving, hdue, hrefused, hknown⟩
    simp [Books.enter, hcalls, Ne.symm hop]
  | .token .isCancelled, _ =>
    refine ⟨⟨hcalls, hevents⟩, hserving, ?_, hrefused, hknown⟩
    simp [Books.enter, Books.read, hdue, hserving]
  | .emit event, hevent =>
    refine ⟨⟨hcalls, ?_⟩, hserving, hdue, hrefused, hknown⟩
    intro e he
    obtain he | rfl := by simpa [Books.enter] using he
    · exact hevents e he
    · exact hevent

/-- What is asked once the card was ejected changes neither the calls nor the
connections that were shut down. -/
theorem Parting.enter (h : Parting q) (a : Answer q) :
    (b.enter q a).calls = b.calls ∧ (b.enter q a).hungUp = b.hungUp := by
  match q, h with
  | .advance _, _ | .log _, _ | .emit (.disconnected _), _ =>
    exact ⟨rfl, rfl⟩

theorem During.proper (h : During q) : Proper q b := by
  match q, h with
  | .socket _, _ | .card _, _ | .token .isCancelled, _ => trivial
  | .emit event, hevent =>
    cases event <;> trivial

/-- The connection is taken back and shut down. -/
theorem Attending.release (h : Attending b) :
    Idle { b with serving := none, hungUp := b.made :: b.hungUp } := by
  refine ⟨⟨⟨h.calls, h.events⟩, rfl, ?_⟩, h.refused,
    fun c hc => (h.known c hc).1⟩
  intro c hc
  obtain ⟨-, rfl | hc⟩ := h.known c hc
  · exact List.mem_cons_self ..
  · exact List.mem_cons_of_mem _ hc

/-! ## Connections -/

/-- How a part of the work ends that may hold a connection in between. -/
def Left : Except Stop α → Books → Prop
  | .error .unwound, b => Underway b ∧ b.refused = false
  | _, b => Idle b

theorem keeps_served (rounds : Nat) (config : SessionConfig)
    (h : Attending b) :
    (serveConnection rounds config).run.Keeps entered Orderly Left b := by
  refine keeps_serveConnection.mpr ?_
  -- nothing that is asked in between ends `Attending`
  have hserved := (asks_served rounds config).keeps (R := entered)
    (P := Orderly) (J := Attending)
    (fun q b hq hb => hb.toUnderway.orderly hb.refused q hq.proper)
    (fun _ _ => trivial)
    (fun q b a _ hq hb heq => heq ▸ hb.enter hq a) h
  refine hserved.imp ?_
  intro r b hb
  refine ⟨?_, fun hr => ?_⟩
  · intro hunwound
    subst hunwound
    exact ⟨hb.toUnderway, hb.refused⟩
  · -- the token gives the connection back, and it is shut down
    refine ⟨hb.toUnderway.orderly hb.refused _ trivial, ?_⟩
    intro _ _ hcleared
    subst hcleared
    refine ⟨hb.toUnderway.orderly hb.refused _ trivial, ?_⟩
    intro _ _ hshut
    subst hshut
    match r, hr with
    | .ok (), _ => exact hb.release
    | .error (.failure _), _ => exact hb.release

/-- How an offer ends: the token has the connection, or has refused it. -/
def Offered : Except Stop Bool → Books → Prop
  | .ok true, b => Attending b
  | .ok false, b => Noticed true b
  | .error .unwound, b => Underway b ∧ b.refused = false
  | .error (.failure _), b => Idle b

theorem keeps_takeOn (address : Address) (h : Offering b) :
    (takeOn address).run.Keeps entered Orderly Offered b := by
  simp only [takeOn, Socket.duplicate, Socket.ask, keeps_run_bind,
    keeps_onSocket, keeps_bind, keeps_orFail, pure_eq, keeps_done,
    keeps_run_liftM]
  refine ⟨h.toIdle.orderly _ trivial, ?_⟩
  intro handle _ hduplicated
  subst hduplicated
  rcases handle with cause | _
  · exact h.toIdle
  · refine ⟨h.toIdle.orderly _ h.fresh, ?_⟩
    intro taken _ hregistered
    subst hregistered
    cases taken with
    | false => exact h.toIdle.refuse
    | true =>
      have hb := h.register
      refine ⟨hb.toUnderway.orderly hb.refused _ trivial, ?_⟩
      intro _ _ hadvanced
      subst hadvanced
      have htell := hb.toUnderway.orderly hb.refused
        (.emit (.connected address)) trivial
      refine keeps_run_bind.mpr (keeps_emit.mpr ⟨htell, ?_⟩)
      intro a _ htold
      subst htold
      have hb' := hb.enter (q := .emit (.connected address)) trivial a
      cases a with
      | returned _ => exact hb'
      | unwound => exact ⟨hb'.toUnderway, hb'.refused⟩

/-! ## The network -/

/-- How a request for a connection ends. -/
def Made : Except TransportError α → Books → Prop
  | .ok _, b => Offering b
  | .error _, b => Idle b

/-- What is answered by the network is entered in the books. -/
abbrev networkEntered : Surroundings Network Books :=
  fun q b a b' => b' = b.enter (.network q) a

/-- The order that is kept at every question to the network. -/
abbrev NetworkOrderly (q : Option Network.Ask) (b : Books) : Prop :=
  Orderly (q.map .network) b

theorem keeps_resolve (host : String) (port : UInt16) (h : Idle b) :
    (Network.resolve host port).Keeps networkEntered NetworkOrderly
      (fun _ => Idle) b := by
  refine keeps_settled ?_ fun found => ?_
  · exact h.orderly _ trivial
  rcases found with cause | _ | ⟨address, rest⟩ <;> exact h

theorem keeps_tryEach (bound : Option Duration) (last : IoError)
    (addresses : List Address) (h : Idle b) :
    (Network.tryEach bound last addresses).Keeps networkEntered
      NetworkOrderly (fun r b => match r with
        | .ok _ => Offering b
        | .error _ => Idle b) b := by
  induction addresses generalizing last b with
  | nil => exact h
  | cons address rest ih =>
    refine keeps_settled ?_ fun a => ?_
    · exact h.orderly _ trivial
    rcases a with cause | peer
    · exact ih cause h
    · exact h.connect

theorem keeps_dial (host : String) (port : UInt16) (bound : Option Duration)
    (h : Idle b) :
    (Network.dial host port bound).Keeps networkEntered NetworkOrderly Made
      b := by
  refine (keeps_resolve host port h).bind ?_
  intro r b hb
  rcases r with e | addresses
  · exact hb
  · refine (keeps_tryEach _ _ _ hb).bind ?_
    intro peer b hb
    rcases peer with e | peer
    · exact hb
    · exact hb

theorem keeps_listen (host : String) (port : UInt16) (h : Idle b) :
    (Network.bind host port).Keeps networkEntered NetworkOrderly
      (fun _ => Idle) b := by
  refine (keeps_resolve host port h).bind ?_
  intro r b hb
  rcases r with e | addresses
  · exact hb
  · refine keeps_settled ?_ fun _ => ?_
    · exact hb.orderly _ trivial
    exact hb

theorem keeps_accept (interval : Duration) (h : Idle b) :
    (Network.accept interval).Keeps networkEntered NetworkOrderly
      (fun r b => match r with
        | .ok (some _) => Offering b
        | _ => Idle b) b := by
  refine keeps_settled ?_ fun a => ?_
  · exact h.orderly _ trivial
  rcases a with cause | _ | peer
  · show Keeps _ _ _ (pure (if Network.isPassing cause then _ else _)) _
    split <;> exact h
  · exact h
  · -- what was taken is lost if it cannot be made to wait
    refine keeps_settled ?_ fun blocking => ?_
    · exact h.connect.toIdle.orderly _ trivial
    rcases blocking with cause | _
    · exact h.connect.toIdle
    · exact h.connect

/-! ## The work of a session -/

/-- How the work of a session ends: at a reading of the flag, which gives the
reason, or early. -/
def Finished : Except Stop ExitReason → Books → Prop
  | .ok .cancelled, b => Noticed true b
  | .ok .peerClosed, b => Noticed false b
  | .ok (.failed _), _ => False
  | .error (.failure _), b => Idle b
  | .error .unwound, b => Underway b ∧ b.refused = false

theorem Left.finished {e : Stop} (h : Left (.error e : Except Stop α) b) :
    Finished (.error e) b := by
  cases e with
  | failure e => exact h
  | unwound => exact h

/-- Something is told while no connection is held. -/
theorem keeps_tell (event : Event) (hevent : Ordinary event) (h : Idle b) :
    (emit event).run.Keeps entered Orderly Left b := by
  have hproper : Proper (.emit event) b := During.proper hevent
  refine keeps_emit.mpr ⟨h.orderly _ hproper, ?_⟩
  intro a _ htold
  subst htold
  have hb := h.tell event hevent
  cases a with
  | returned _ => exact hb
  | unwound => exact ⟨hb.toUnderway, hb.refused⟩

theorem keeps_serveReader (rounds : Nat) (config : SessionConfig)
    (h : Idle b) :
    (serveReader rounds config).run.Keeps entered Orderly Finished b := by
  rw [serveReader, keeps_run_bind, keeps_run_liftM]
  refine keeps_settled ?_ fun flag => ?_
  · exact h.orderly _ trivial
  cases flag with
  | true => exact (h.read true).2
  | false =>
    refine keeps_run_bind.mpr (keeps_onNetwork.mpr ?_)
    refine (keeps_dial _ _ _ (h.read false).1).imp ?_
    intro r b hb
    rcases r with e | peer
    · exact hb
    refine (keeps_takeOn _ hb).run_bind ?_
    intro taken b hb
    rcases taken with (e | _) | (_ | _)
    · exact hb
    · exact hb
    · exact hb
    refine (keeps_served rounds config hb).run_bind ?_
    intro served b hb
    rcases served with e | _
    · exact hb.finished
    · -- the flag is read once more, and decides what the end means
      refine keeps_settled ?_ fun flag => ?_
      · exact Idle.orderly hb _ trivial
      cases flag with
      | false => exact (Idle.read hb false).2
      | true => exact (Idle.read hb true).2

/-- How a wait for a connection ends. -/
def Awaited : Except Stop (Option (Option Address)) → Books → Prop
  | .ok (some _), b => Offering b
  | .ok none, b => Noticed true b
  | .error (.failure _), b => Idle b
  | .error .unwound, _ => False

theorem keeps_awaitClient (interval : Duration) (rounds : Nat)
    (h : Idle b) :
    (awaitClient interval rounds).run.Keeps entered Orderly Awaited b := by
  induction rounds generalizing b with
  | zero => trivial
  | succ rounds ih =>
    rw [awaitClient, keeps_run_bind, keeps_run_liftM]
    refine keeps_settled ?_ fun flag => ?_
    · exact h.orderly _ trivial
    cases flag with
    | true => exact (h.read true).2
    | false =>
      refine keeps_run_bind.mpr (keeps_onNetwork.mpr ?_)
      refine (keeps_accept _ (h.read false).1).imp ?_
      intro r b hb
      rcases r with e | _ | peer
      · exact hb
      · exact ih hb
      · exact hb

theorem keeps_serveClients (rounds : Nat) (config : SessionConfig)
    (left : Nat) (h : Idle b) :
    (serveClients rounds config left).run.Keeps entered Orderly Finished
      b := by
  induction left generalizing b with
  | zero => trivial
  | succ left ih =>
    rw [serveClients, keeps_run_bind, keeps_run_liftM]
    refine keeps_settled ?_ fun _ => ?_
    · exact h.orderly _ trivial
    refine (keeps_awaitClient _ rounds h).run_bind ?_
    intro r b hb
    rcases r with (e | _) | _ | peer
    · exact hb
    · exact hb.elim
    · exact hb
    refine (keeps_takeOn _ hb).run_bind ?_
    intro taken b hb
    rcases taken with (e | _) | (_ | _)
    · exact hb
    · exact hb
    · exact hb
    refine (keeps_served rounds config hb).run_bind ?_
    intro served b hb
    rcases served with e | _
    · exact hb.finished
    refine keeps_settled ?_ fun flag => ?_
    · exact Idle.orderly hb _ trivial
    cases flag with
    | false =>
      -- the next client is waited for where this one began
      refine (keeps_tell (.clientDisconnected _) trivial
        (Idle.read hb false).1).run_bind ?_
      intro told b hb
      rcases told with e | _
      · exact hb.finished
      · exact ih hb
    | true => exact (Idle.read hb true).2

theorem keeps_localAddresses (h : Idle b) :
    localAddresses.Keeps entered Orderly (fun _ => Idle) b := by
  refine keeps_settled ?_ fun r => ?_
  · exact h.orderly _ trivial
  rcases r with cause | addresses
  · refine keeps_settled ?_ fun _ => ?_
    · exact h.orderly _ trivial
    exact h
  · exact h

theorem keeps_serve (rounds : Nat) (config : SessionConfig) (h : Idle b) :
    (serve rounds config).run.Keeps entered Orderly Finished b := by
  rw [serve, keeps_run_bind, keeps_run_liftM]
  refine keeps_settled ?_ fun _ => ?_
  · exact h.orderly _ trivial
  by_cases hlisten : config.listen = true
  · rw [if_pos hlisten, serveListening]
    refine keeps_run_bind.mpr (keeps_onNetwork.mpr ?_)
    refine (keeps_listen _ _ h).imp ?_
    intro r b hb
    rcases r with e | port
    · exact hb
    refine keeps_run_bind.mpr (keeps_run_liftM.mpr ?_)
    refine (keeps_localAddresses hb).imp ?_
    intro addresses b hb
    refine (keeps_tell (.listening port addresses) trivial hb).run_bind ?_
    intro told b hb
    rcases told with e | _
    · exact hb.finished
    · exact keeps_serveClients rounds config rounds hb
  · rw [if_neg hlisten]
    exact keeps_serveReader rounds config h

/-! ## From beginning to end -/

/-- The card was ejected last, and not before. -/
def Ejected (b : Books) : Prop :=
  ∃ before, b.calls = before ++ [.eject] ∧ .eject ∉ before

/-- How the work of a session has ended that ends for this reason, and what is
told of it ahead of the end: where the reason gives the kind of an error, the
text of that error, and else nothing. -/
def Report (worked : Except Stop ExitReason) : ExitReason → List Event → Prop
  | .cancelled, report =>
    (worked = .ok .cancelled ∨ ∃ e, worked = .error (.failure e)) ∧
      report = []
  | .peerClosed, report => worked = .ok .peerClosed ∧ report = []
  | .failed kind, report =>
    ∃ e, worked = .error (.failure e) ∧ kind = e.kind ∧
      report = [.error e.message]

/-- Nothing but a failure is reported. -/
theorem Report.error_of_mem {reason : ExitReason} {report : List Event}
    {event : Event} (h : Report worked reason report) (hevent : event ∈ report) :
    ∃ e : SessionError, reason = .failed e.kind ∧
      report = [.error e.message] := by
  cases reason with
  | cancelled | peerClosed =>
    obtain ⟨-, rfl⟩ := h
    cases hevent
  | failed kind =>
    obtain ⟨e, -, rfl, hreport⟩ := h
    exact ⟨e, rfl, hreport⟩

theorem Report.disconnected_notMem {reason other : ExitReason}
    {report : List Event} (h : Report worked reason report) :
    .disconnected other ∉ report := by
  intro hmem
  obtain ⟨e, -, rfl⟩ := h.error_of_mem hmem
  simp at hmem

/-- A session that was wound up for this reason, once its work had ended like
this and these events were told. -/
structure WoundUp (worked : Except Stop ExitReason) (before : List Event)
    (reason : ExitReason) (b : Books) : Prop where
  ejected : Ejected b
  events : ∃ report, b.events = before ++ report ++ [.disconnected reason] ∧
    Report worked reason report
  reading : b.reading = some (decide (reason = .cancelled))
  due : b.due = false
  serving : b.serving = none
  hungUp : ∀ c ∈ b.registered, c ∈ b.hungUp

/-- How a session comes out whose work has ended like this. -/
def CameOutOf (worked : Except Stop ExitReason) (before : List Event) :
    Outcome → Books → Prop
  | .ended reason, b => WoundUp worked before reason b
  | .unwound, b => Ejected b

/-- How a session comes out. -/
def CameOut (outcome : Outcome) (b : Books) : Prop :=
  ∃ worked before, (∀ event ∈ before, Ordinary event) ∧
    CameOutOf worked before outcome b

/-- A session that may be wound up for this reason. -/
structure Due (worked : Except Stop ExitReason) (before : List Event)
    (reason : ExitReason) (b : Books) : Prop where
  calls : .eject ∉ b.calls
  events : ∃ report, b.events = before ++ report ∧
    Report worked reason report
  reading : b.reading = some (decide (reason = .cancelled))
  due : b.due = false
  hungUp : ∀ c ∈ b.registered, c ∈ b.hungUp

theorem keeps_eject (cardName : String) {Q : Except Stop Unit → Books → Prop}
    (hb : .eject ∉ b.calls)
    (hok : Q (.ok ()) { b with calls := b.calls ++ [.eject] })
    (hunwound : Q (.error .unwound) { b with calls := b.calls ++ [.eject] }) :
    (eject cardName false).run.Keeps entered Orderly Q b := by
  rw [eject, keeps_run_bind, keeps_run_liftM]
  refine ⟨⟨fun _ => rfl, fun h => absurd h hb, trivial⟩, ?_⟩
  intro r _ hcalled
  subst hcalled
  rcases r with ⟨e | _⟩ | _
  · -- a card that cannot be ejected is only written down
    refine ⟨⟨fun _ => trivial, fun _ => trivial, trivial⟩, ?_⟩
    intro _ _ hlogged
    subst hlogged
    exact hok
  · exact hok
  · exact hunwound

theorem keeps_conclude (cardName : String) {reason : ExitReason}
    (h : Due worked before reason b) :
    (conclude cardName reason).Keeps entered Orderly
      (CameOutOf worked before) b := by
  have hejected : Ejected { b with
      serving := none, calls := b.calls ++ [.eject] } :=
    ⟨b.calls, rfl, h.calls⟩
  simp only [conclude, windUp, keeps_bind, keeps_run_bind, keeps_run_liftM]
  refine ⟨⟨fun _ => trivial, fun hc => absurd hc h.calls, trivial⟩, ?_⟩
  intro _ _ hadvanced
  subst hadvanced
  refine ⟨⟨fun _ => trivial, fun hc => absurd hc h.calls, trivial⟩, ?_⟩
  intro _ _ hcleared
  subst hcleared
  refine keeps_eject cardName h.calls ?_ hejected
  refine keeps_emit.mpr ⟨⟨fun _ => trivial, fun _ => trivial, rfl⟩, ?_⟩
  intro a _ htold
  subst htold
  cases a with
  | unwound => exact hejected
  | returned _ =>
    refine ⟨⟨fun _ => trivial, fun _ => trivial, trivial⟩, ?_⟩
    intro _ _ hfinished
    subst hfinished
    obtain ⟨report, hevents, hreport⟩ := h.events
    exact ⟨hejected, ⟨report, by rw [← hevents]; rfl, hreport⟩, h.reading,
      h.due, rfl, h.hungUp⟩

theorem keeps_abandon (cardName : String) (h : .eject ∉ b.calls) :
    (abandon cardName).Keeps entered Orderly
      (fun _ b' => b' = { b with calls := b.calls ++ [.eject] }) b := by
  refine keeps_bind.mpr (keeps_eject cardName h ?_ ?_) <;> rfl

/-- A session that is given up ends with a call to eject its card. -/
theorem keeps_giveUp (cardName : String) (h : .eject ∉ b.calls) :
    (abandon cardName >>= fun _ => pure Outcome.unwound).Keeps entered Orderly
      (CameOutOf worked before) b := by
  refine (keeps_abandon cardName h).bind ?_
  intro _ _ hejected
  subst hejected
  exact ⟨b.calls, rfl, h⟩

/-- A session whose work has ended comes out as it must. -/
theorem keeps_concluding (cardName : String) (h : Finished worked b) :
    (concluding cardName worked).Keeps entered Orderly
      (CameOutOf worked b.events) b := by
  match worked, h with
  | .ok .cancelled, h =>
    exact keeps_conclude cardName ⟨h.calls, ⟨[], by simp, .inl rfl, rfl⟩,
      h.reading, h.due, h.hungUp⟩
  | .ok .peerClosed, h =>
    exact keeps_conclude cardName ⟨h.calls, ⟨[], by simp, rfl, rfl⟩,
      h.reading, h.due, h.hungUp⟩
  | .error (.failure e), h =>
    -- a failure counts only if the flag is not set by now
    refine keeps_bind.mpr ⟨Idle.orderly h _ trivial, ?_⟩
    intro flag _ hread
    subst hread
    obtain ⟨hidle, hnoticed⟩ := Idle.read h flag
    cases flag with
    | true =>
      exact keeps_conclude cardName ⟨hnoticed.calls,
        ⟨[], by simp; rfl, .inr ⟨e, rfl⟩, rfl⟩, hnoticed.reading, hnoticed.due,
        hnoticed.hungUp⟩
    | false =>
      refine keeps_bind.mpr (keeps_emit.mpr ⟨hidle.orderly _ trivial, ?_⟩)
      intro a _ htold
      subst htold
      cases a with
      | unwound => exact keeps_giveUp cardName hnoticed.calls
      | returned _ =>
        exact keeps_conclude cardName ⟨hnoticed.calls,
          ⟨[.error e.message], rfl, e, rfl, rfl, rfl⟩, hnoticed.reading,
          hnoticed.due, hnoticed.hungUp⟩
  | .error .unwound, ⟨hb, _⟩ => exact keeps_giveUp cardName hb.calls

/-- All that was told before a session came to its end is ordinary. -/
theorem Finished.ordinary (h : Finished worked b) :
    ∀ event ∈ b.events, Ordinary event := by
  match worked, h with
  | .ok .cancelled, h => exact h.events
  | .ok .peerClosed, h => exact h.events
  | .error (.failure _), h =>
    have hidle : Idle b := h
    exact hidle.events
  | .error .unwound, h => exact h.1.events

/-- Whatever a session is answered, it keeps the order, and comes out as it
must. -/
theorem keeps_run (rounds : Nat) (config : SessionConfig) (cardName : String)
    (h : Idle b) :
    (run rounds config cardName).Keeps entered Orderly CameOut b := by
  rw [run_eq_concluding]
  refine (keeps_serve rounds config h).bind ?_
  intro worked b hb
  exact (keeps_concluding cardName hb).imp
    fun _ _ hcame => ⟨worked, b.events, hb.ordinary, hcame⟩

end CardBridge.Session
