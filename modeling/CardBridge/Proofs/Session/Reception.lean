import CardBridge.Proofs.Session.Scene

/-!
# Readers that come one after the other

A session that listens, with any number of readers that come to it, each
with a stream of its own in pieces of its own. They are served in the order
in which they come, each as if it were the only one, on the card as the one
before left it (`readers_served_in_turn`).
-/

namespace CardBridge.Session

open Dialogue

/-- A reader that comes to a session which listens. -/
structure Visitor where
  /-- Its address, where that is known. -/
  peer : Option Address
  /-- What the waits give that pass before it comes: nothing, or a failure
  that says no more than that. -/
  waits : List (Option IoError)
  /-- What it sends, before it ends its side. -/
  pieces : List Bytes
  /-- How much its connection takes at each offer. -/
  portions : List Nat
  passing : waits.all (·.all Network.isPassing) = true
  positive : portions.all (0 < ·) = true

namespace Visitor

/-- Its address, as those who watch are told. -/
def address (visitor : Visitor) : Address :=
  visitor.peer.getD "unknown peer"

/-- All that it sends. -/
def stream (visitor : Visitor) : Bytes :=
  visitor.pieces.flatten

/-- One more wait has passed. -/
def nearer (visitor : Visitor) : Visitor :=
  { visitor with
    waits := visitor.waits.tail
    passing := by
      have hpassing := visitor.passing
      rw [List.all_eq_true] at hpassing ⊢
      intro wait hwait
      exact hpassing wait (List.mem_of_mem_tail hwait) }

end Visitor

/-- A session that listens, and the readers that come to it. -/
structure Reception (σ ν : Type) where
  /-- The network, the card and the connection that was made last, with what
  was seen since it was made. -/
  scene : Scene σ ν
  /-- What was seen before: over each connection in turn, and ahead of the
  first. -/
  past : List (List Deed) := []
  /-- The readers that are to come, or have come and were not accepted. -/
  waiting : List Visitor

namespace Reception

variable {σ ν α : Type}

/-- All that was seen, connection by connection. -/
def record (r : Reception σ ν) : List (List Deed) :=
  r.past ++ [r.scene.deeds]

/-- A session that has not begun. -/
def opening (site : ν) (card : σ) (visitors : List Visitor) :
    Reception σ ν where
  scene := .opening site card [] []
  waiting := visitors

/-- A connection is made to the first of those who wait. -/
def welcome (r : Reception σ ν) (visitor : Visitor) (later : List Visitor) :
    Reception σ ν where
  scene := .opening r.scene.network r.scene.card visitor.pieces
    visitor.portions
  past := r.record
  waiting := later

/-- Something happens over the connection made last. -/
def see (r : Reception σ ν) (deeds : List Deed) : Reception σ ν :=
  { r with scene := { r.scene with deeds := r.scene.deeds ++ deeds } }

/-- What the session is answered. Each wait gives the next reader, or
nothing. Everything else concerns the connection made last. -/
def handler (network : Machine Network ν) (machine : Machine Card σ)
    (known : Except IoError (List Address)) :
    Handler Session (Reception σ ν)
  | .network (.poll _), r =>
    match r.waiting with
    | [] => (some (.ok none), r)
    | visitor :: later =>
      match visitor.waits with
      | [] => (some (.ok (some visitor.peer)), r.welcome visitor later)
      | none :: _ =>
        (some (.ok none), { r with waiting := visitor.nearer :: later })
      | some cause :: _ =>
        (some (.error cause), { r with waiting := visitor.nearer :: later })
  | .network .unpoll, r => (some (.ok ()), r)
  | .localAddresses, r => (some known, r)
  | q, r =>
    let (answer, scene) := Scene.handler network machine q r.scene
    (answer, { r with scene })

/-- The questions that have nothing to do with other connections. -/
def Present : Ask → Prop
  | .network (.poll _) => False
  | .network .unpoll => False
  | .localAddresses => False
  | _ => True

variable {network : Machine Network ν} {machine : Machine Card σ}
  {known : Except IoError (List Address)} {r : Reception σ ν}
  {rounds : Nat} {config : SessionConfig}

theorem handler_of_present {q : Ask} (h : Present q) (r : Reception σ ν) :
    handler network machine known q r =
      ((Scene.handler network machine q r.scene).1,
        { r with scene := (Scene.handler network machine q r.scene).2 }) := by
  match q, h with
  | .network (.resolve _ _), _ | .network (.connect _ _), _
  | .network (.listen _), _ | .socket _, _ | .card _, _ | .token _, _
  | .emit _, _ | .advance _, _ | .log _, _ => rfl

/-- What concerns one connection goes on as if there were no other. -/
theorem run_of_present {d : Dialogue Session α} (h : d.Asks Present)
    (r : Reception σ ν) :
    d.run (handler network machine known) r =
      ((d.run (Scene.handler network machine) r.scene).1,
        { r with scene := (d.run (Scene.handler network machine)
          r.scene).2 }) := by
  induction d generalizing r with
  | done a => rfl
  | cut => rfl
  | ask q next ih =>
    simp only [Dialogue.run, handler_of_present h.1 r]
    rcases Scene.handler network machine q r.scene with ⟨_ | a, scene⟩
    · rfl
    · exact ih a (h.2 a) { r with scene }

/-! ## One connection -/

theorem asks_present (rounds : Nat) (config : SessionConfig) :
    (serveConnection rounds config).run.Asks Present := by
  have hduring : ∀ q, During q → Present q := by
    intro q hq
    match q, hq with
    | .socket _, _ | .card _, _ | .token .isCancelled, _
    | .emit _, _ => trivial
  exact asks_serveConnection
    ((asks_served rounds config).mono hduring) trivial trivial

/-- A connection is served as what the stream of its reader amounts to. -/
theorem run_serveConnection_scene (scene : Scene σ ν) (pieces : List Bytes)
    (portions : List Nat)
    (hstream : scene.stream =
      { source := pieces.map .octets, sink := { writes := portions.map .ok } })
    (hquiet : Quiet scene.deeds) (hportions : ∀ n ∈ portions, 0 < n)
    (hrounds : pieces.flatten.length + Frame.headerSize + Frame.maxPayload <
      rounds) :
    let account := Account.ofStream machine scene.card pieces.flatten
    ∃ scene', (serveConnection rounds config).run.run
        (Scene.handler network machine) scene =
          (some account.verdict, scene') ∧
      scene'.network = scene.network ∧ scene'.card = account.card ∧
      scene'.deeds = scene.deeds ++ account.deeds ++ [.hungUp] := by
  have hkeeps : (serveConnection rounds config).run.Keeps
      (Encounter.surroundings network.surroundings machine
        (Encounter.undisturbed pieces.flatten.length))
      (Encounter.Attentive machine scene.card fun _ => False) _
      { network := scene.network, card := scene.card,
        deeds := scene.deeds } :=
    Encounter.keeps_serveConnection config hrounds hquiet rfl
  have hopening : Scene.Matches pieces.flatten scene
      { network := scene.network, card := scene.card,
        deeds := scene.deeds } := by
    refine ⟨rfl, rfl, rfl, ⟨pieces, ?_, rfl, nofun⟩,
      portions, ?_, ?_, hportions⟩
    · rw [hstream]
    · rw [hstream]
    · rw [hstream]
  obtain ⟨result, scene', w', hrun, ⟨hresult, hserved, hnetwork⟩, hmatch⟩ :=
    hkeeps.run_handler hopening (fun _ => id) fun q v w hv hq => hv.step q hq
  have haccount := hmatch.account_eq hserved.all
  refine ⟨scene', ?_, ?_, ?_, ?_⟩
  · rw [hrun, hresult, haccount]
  · rw [hmatch.network_eq, hnetwork]
  · rw [hmatch.card_eq, hserved.card_eq, haccount]
  · rw [hmatch.deeds_eq, hserved.deeds_eq, haccount]

/-! ## The network -/

/-- A request to the network that is granted. -/
theorem run_onNetwork {ω : Type} {handle : Handler Session ω} {w w' : ω}
    {d : Dialogue Network (Except TransportError α)} {value : α}
    (h : (d.embed Ask.network fun _ answer => answer).run handle w =
      (some (.ok value), w')) :
    (onNetwork d).run.run handle w = (some (.ok value), w') := by
  rw [onNetwork, run_except_bind, ExceptT.run_lift, map_eq_pure_bind,
    Dialogue.run_bind, h]
  rfl

theorem run_network_scene (d : Dialogue Network α) (scene : Scene σ ν) :
    (d.embed Ask.network fun _ answer => answer).run
        (Scene.handler network machine) scene =
      ((d.run network.handler scene.network).1,
        { scene with network := (d.run network.handler scene.network).2 }) := by
  induction d generalizing scene with
  | done a => rfl
  | cut => rfl
  | ask q next ih =>
    exact ih _ { scene with network := (network q scene.network).2 }

theorem asks_listen (host : String) (port : UInt16) :
    (Network.bind host port).Asks fun q => Present (.network q) := by
  refine Asks.bind ?_ fun found => ?_
  · refine ⟨trivial, fun found => ?_⟩
    rcases found with cause | _ | ⟨address, addresses⟩ <;> trivial
  · cases found with
    | error e => trivial
    | ok addresses => exact ⟨trivial, fun _ => trivial⟩

theorem run_listen {host : String} {port bound : UInt16} {site site' : ν}
    (h : (Network.bind host port).run network.handler site =
      (some (.ok bound), site'))
    (card : σ) (visitors : List Visitor) :
    (onNetwork (Network.bind host port)).run.run
        (handler network machine known) (.opening site card visitors) =
      (some (.ok bound), .opening site' card visitors) := by
  have hasks : ((Network.bind host port).embed Ask.network
      fun _ answer => answer : Dialogue Session _).Asks Present :=
    @Asks.embed Network Session _ Ask.network (fun _ answer => answer) Present
      _ (asks_listen host port)
  have hsite : (opening site card visitors).scene.network = site := rfl
  apply run_onNetwork
  rw [run_of_present hasks, run_network_scene, hsite, h]
  rfl

section

variable {interval : Duration} {visitor : Visitor} {later : List Visitor}

/-- A wait that gives nothing, or fails and says no more than that. -/
theorem run_accept_of_poll {answer : Except IoError (Option (Option Address))}
    {r' : Reception σ ν}
    (hpoll : handler network machine known (.network (.poll interval)) r =
      (some answer, r'))
    (hnothing : answer = .ok none ∨
      ∃ cause, answer = .error cause ∧ Network.isPassing cause = true) :
    (onNetwork (Network.accept interval)).run.run
      (handler network machine known) r = (some (.ok none), r') := by
  apply run_onNetwork
  simp only [Network.accept, Network.ask, Dialogue.question, embed,
    Dialogue.run, hpoll, Dialogue.ask_bind]
  rcases hnothing with rfl | ⟨cause, rfl, hpassing⟩
  · rfl
  · simp [hpassing, embed]

theorem run_accept_of_nobody (h : r.waiting = []) :
    (onNetwork (Network.accept interval)).run.run
      (handler network machine known) r = (some (.ok none), r) := by
  apply run_accept_of_poll _ (.inl rfl)
  simp [handler, h]

theorem run_accept_of_here (h : r.waiting = visitor :: later)
    (hwaits : visitor.waits = []) :
    (onNetwork (Network.accept interval)).run.run
        (handler network machine known) r =
      (some (.ok (some visitor.peer)), r.welcome visitor later) := by
  apply run_onNetwork
  simp [Network.accept, Network.ask, Dialogue.question, embed, Dialogue.run,
    handler, h, hwaits]

/-- A wait passes before the reader is there. -/
theorem run_accept_of_wait (h : r.waiting = visitor :: later)
    (hwaits : visitor.waits ≠ []) :
    (onNetwork (Network.accept interval)).run.run
        (handler network machine known) r =
      (some (.ok none),
        { r with waiting := visitor.nearer :: later }) := by
  cases hw : visitor.waits with
  | nil => exact absurd hw hwaits
  | cons wait waits =>
    cases wait with
    | none =>
      apply run_accept_of_poll _ (.inl rfl)
      simp [handler, h, hw]
    | some cause =>
      have hpassing : Network.isPassing cause = true := by
        have hall := visitor.passing
        simp only [hw, List.all_cons, Option.all_some, Bool.and_eq_true]
          at hall
        exact hall.1
      apply run_accept_of_poll _ (.inr ⟨cause, rfl, hpassing⟩)
      simp [handler, h, hw]

/-- Whether the session was told to stop is asked before each wait. -/
theorem run_awaitClient_succ (r : Reception σ ν) :
    (awaitClient interval (rounds + 1)).run.run
        (handler network machine known) r =
      match (onNetwork (Network.accept interval)).run.run
        (handler network machine known) r with
      | (some (.ok (some peer)), r') => (some (.ok (some peer)), r')
      | (some (.ok none), r') =>
        (awaitClient interval rounds).run.run
          (handler network machine known) r'
      | (some (.error e), r') => (some (.error e), r')
      | (none, r') => (none, r') := by
  have hask : (awaitClient interval (rounds + 1)).run.run
      (handler network machine known) r =
    (onNetwork (Network.accept interval) >>= _).run.run
      (handler network machine known) r := rfl
  rw [hask, run_except_bind]
  rcases (onNetwork (Network.accept interval)).run.run
    (handler network machine known) r with ⟨_ | _ | _ | peer, r'⟩ <;> rfl

/-- As long as nobody comes, the session waits. -/
theorem run_awaitClient_of_nobody (h : r.waiting = []) :
    (awaitClient interval rounds).run.run (handler network machine known) r =
      (none, r) := by
  induction rounds with
  | zero => rfl
  | succ rounds ih =>
    rw [run_awaitClient_succ, run_accept_of_nobody h]
    exact ih

/-- The first of those who wait is accepted once its waits have passed. -/
theorem run_awaitClient (h : r.waiting = visitor :: later)
    (hrounds : visitor.waits.length < rounds) :
    (awaitClient interval rounds).run.run (handler network machine known) r =
      (some (.ok (some visitor.peer)), r.welcome visitor later) := by
  induction rounds generalizing visitor r with
  | zero => omega
  | succ rounds ih =>
    rw [run_awaitClient_succ]
    by_cases hwaits : visitor.waits = []
    · rw [run_accept_of_here h hwaits]
    · rw [run_accept_of_wait h hwaits]
      have hpos := List.length_pos_iff.mpr hwaits
      have hnearer : visitor.nearer.waits.length < rounds := by
        rw [Visitor.nearer, List.length_tail]
        omega
      -- what is seen of a reader does not depend on its waits
      have hnext : (awaitClient interval rounds).run.run
          (handler network machine known)
          { r with waiting := visitor.nearer :: later } =
            (some (.ok (some visitor.nearer.peer)),
              r.welcome visitor.nearer later) := ih rfl hnearer
      exact hnext

end

end Reception

/-! ## What readers in turn amount to -/

/-- A connection to a session that listens and goes on afterwards. -/
def Account.turn {σ : Type} (address : Address) (account : Account σ) :
    List Deed :=
  [.told (.connected address)] ++ account.deeds ++
    [.hungUp, .told (.clientDisconnected address)]

/-- What readers that come one after the other amount to. -/
structure Turns (σ : Type) where
  /-- What is seen over each connection, in the order in which the readers
  come. -/
  deeds : List (List Deed)
  /-- How the session ends; nothing if it waits for further readers. -/
  outcome : Option Outcome
  /-- The card afterwards. -/
  card : σ
  /-- The readers that are not served. -/
  unserved : List Visitor

/-- Each reader is served as if it were the only one, on the card as the one
before left it. The first whose frames have a fault is the last. -/
def Turns.ofVisitors {σ : Type} (machine : Machine Card σ) (card : σ) :
    List Visitor → Turns σ
  | [] => ⟨[], none, card, []⟩
  | visitor :: later =>
    let account := Account.ofStream machine card visitor.stream
    match account.fault with
    | none =>
      let turns := ofVisitors machine account.card later
      { turns with deeds := account.turn visitor.address :: turns.deeds }
    | some e =>
      let last := account.wound machine visitor.address
      ⟨[last.deeds], some (.ended (.failed e.kind)), last.card, later⟩

namespace Turns

variable {σ : Type} {machine : Machine Card σ} {card : σ} {visitor : Visitor}
  {later : List Visitor}

theorem ofVisitors_cons
    (h : (Account.ofStream machine card visitor.stream).fault = none) :
    ofVisitors machine card (visitor :: later) =
      let account := Account.ofStream machine card visitor.stream
      let turns := ofVisitors machine account.card later
      { turns with deeds := account.turn visitor.address :: turns.deeds } := by
  rw [ofVisitors, h]

theorem ofVisitors_cons_of_fault {e : SessionError}
    (h : (Account.ofStream machine card visitor.stream).fault = some e) :
    ofVisitors machine card (visitor :: later) =
      let last := (Account.ofStream machine card visitor.stream).wound
        machine visitor.address
      ⟨[last.deeds], some (.ended (.failed e.kind)), last.card, later⟩ := by
  rw [ofVisitors, h]

end Turns

namespace Reception

variable {σ ν : Type} {network : Machine Network ν} {machine : Machine Card σ}
  {known : Except IoError (List Address)} {r : Reception σ ν}
  {rounds left : Nat} {config : SessionConfig}

/-! ## The run -/

theorem run_takeOn (address : Address) (r : Reception σ ν) :
    (takeOn address).run.run (handler network machine known) r =
      (some (.ok true), r.see [.told (.connected address)]) := rfl

/-- A reader that was accepted is served, and no other. -/
theorem run_serveConnection (visitor : Visitor) (later : List Visitor)
    (hrounds : visitor.stream.length + Frame.headerSize + Frame.maxPayload <
      rounds) :
    let account := Account.ofStream machine r.scene.card visitor.stream
    ∃ r', (serveConnection rounds config).run.run
        (handler network machine known)
        ((r.welcome visitor later).see [.told (.connected visitor.address)]) =
          (some account.verdict, r') ∧
      r'.past = r.record ∧ r'.waiting = later ∧
      r'.scene.card = account.card ∧
      r'.scene.deeds = [.told (.connected visitor.address)] ++
        account.deeds ++ [.hungUp] := by
  intro account
  have hquiet : Quiet [.told (.connected visitor.address)] :=
    quiet_nil.concat (.connected visitor.address)
  have hpositive : ∀ n ∈ visitor.portions, 0 < n := by
    simpa using visitor.positive
  obtain ⟨scene', hrun, -, hcard, hdeeds⟩ :
      ∃ scene', (serveConnection rounds config).run.run
          (Scene.handler network machine)
          ((r.welcome visitor later).see
            [.told (.connected visitor.address)]).scene =
        (some account.verdict, scene') ∧ _ ∧ scene'.card = account.card ∧
        scene'.deeds = [.told (.connected visitor.address)] ++
          account.deeds ++ [.hungUp] :=
    run_serveConnection_scene _ visitor.pieces visitor.portions rfl hquiet
      hpositive hrounds
  refine ⟨{ scene := scene', past := r.record, waiting := later }, ?_, rfl,
    rfl, hcard, hdeeds⟩
  rw [run_of_present (asks_present rounds config), hrun]
  rfl

/-- The card is ejected; a failure to do so is only written down. -/
def ejected (machine : Machine Card σ) (r : Reception σ ν) :
    Reception σ ν :=
  { r.see [.called .eject] with
    scene := { (r.see [.called .eject]).scene with
      card := (machine .eject r.scene.card).2 } }

theorem run_eject (cardName : String) (r : Reception σ ν) :
    (eject cardName false).run.run (handler network machine known) r =
      (some (.ok ()), r.ejected machine) := by
  have hcall : (liftM (ask (.card .eject)) :
      Serving (Attempt (Card.Answer .eject))).run.run
        (handler network machine known) r =
      (some (.ok (.returned (machine .eject r.scene.card).1)),
        r.ejected machine) := rfl
  rw [eject, run_except_bind, hcall]
  cases (machine .eject r.scene.card).1 with
  | ok done => rfl
  | error e => rfl

theorem run_conclude (cardName : String) (reason : ExitReason)
    (r : Reception σ ν) :
    (conclude cardName reason).run (handler network machine known) r =
      (some (.ended reason),
        (r.ejected machine).see [.told (.disconnected reason)]) := by
  have hwindUp : (windUp cardName reason).run.run
      (handler network machine known) r =
    (eject cardName false >>= fun _ => do
      emit (.disconnected reason)
      advance .closed).run.run (handler network machine known) r := rfl
  rw [conclude, Dialogue.run_bind, hwindUp, run_except_bind, run_eject]
  rfl

/-- An error is told, and the session ends. -/
theorem run_complain (cardName : String) (e : SessionError)
    (r : Reception σ ν) :
    (concluding cardName (.error (.failure e))).run
        (handler network machine known) r =
      (some (.ended (.failed e.kind)),
        ((r.see [.told (.error e.message)]).ejected machine).see
          [.told (.disconnected (.failed e.kind))]) := by
  have hemit : (concluding cardName (.error (.failure e))).run
      (handler network machine known) r =
    (conclude cardName (.failed e.kind)).run (handler network machine known)
      (r.see [.told (.error e.message)]) := rfl
  rw [hemit, run_conclude]

theorem run_serveClients_of_nobody (h : r.waiting = []) :
    (serveClients rounds config (left + 1)).run.run
      (handler network machine known) r = (none, r) := by
  have hwait : (awaitClient config.pollInterval rounds).run.run
      (handler network machine known) r = (none, r) :=
    run_awaitClient_of_nobody h
  have hrun : (serveClients rounds config (left + 1)).run.run
      (handler network machine known) r =
    (awaitClient config.pollInterval rounds >>= _).run.run
      (handler network machine known) r := rfl
  rw [hrun, run_except_bind, hwait]

/-- The first of those who wait is served, and then the rest. -/
theorem run_serveClients_succ {visitor : Visitor} {later : List Visitor}
    (h : r.waiting = visitor :: later)
    (hrounds : visitor.waits.length < rounds) :
    (serveClients rounds config (left + 1)).run.run
        (handler network machine known) r =
      match (serveConnection rounds config).run.run
        (handler network machine known)
        ((r.welcome visitor later).see
          [.told (.connected visitor.address)]) with
      | (some (.ok ()), r') =>
        (serveClients rounds config left).run.run
          (handler network machine known)
          (r'.see [.told (.clientDisconnected visitor.address)])
      | (some (.error e), r') => (some (.error e), r')
      | (none, r') => (none, r') := by
  have hwait : (awaitClient config.pollInterval rounds).run.run
      (handler network machine known) r =
        (some (.ok (some visitor.peer)), r.welcome visitor later) :=
    run_awaitClient h hrounds
  have hrun : (serveClients rounds config (left + 1)).run.run
      (handler network machine known) r =
    (awaitClient config.pollInterval rounds >>= _).run.run
      (handler network machine known) r := rfl
  rw [hrun, run_except_bind, hwait]
  dsimp only
  rw [run_except_bind, run_takeOn]
  dsimp only
  rw [if_pos rfl, run_except_bind, Visitor.address]
  rcases (serveConnection rounds config).run.run
    (handler network machine known) _ with ⟨_ | _ | _, r'⟩ <;> rfl

/-- The readers that wait are served in turn, and then the session waits for
more, unless the frames of one have a fault. -/
theorem run_serveClients (cardName : String) (visitors : List Visitor)
    (hwaiting : r.waiting = visitors) (hleft : visitors.length < left)
    (hrounds : ∀ visitor ∈ visitors, visitor.waits.length < rounds ∧
      visitor.stream.length + Frame.headerSize + Frame.maxPayload < rounds) :
    let turns := Turns.ofVisitors machine r.scene.card visitors
    ∃ r', ((serveClients rounds config left).run >>= concluding cardName).run
        (handler network machine known) r = (turns.outcome, r') ∧
      r'.record = r.record ++ turns.deeds ∧ r'.scene.card = turns.card ∧
      r'.waiting = turns.unserved := by
  induction visitors generalizing r left with
  | nil =>
    intro turns
    cases left with
    | zero => simp at hleft
    | succ left =>
      refine ⟨r, ?_, by simp [turns, Turns.ofVisitors], rfl, hwaiting⟩
      rw [Dialogue.run_bind, run_serveClients_of_nobody hwaiting]
      rfl
  | cons visitor later ih =>
    intro turns
    obtain ⟨hwaits, hstream⟩ := hrounds visitor (List.mem_cons_self ..)
    obtain ⟨r₁, hserved, hpast, hlater, hcard, hdeeds⟩ :=
      @run_serveConnection σ ν network machine known r rounds config visitor
        later hstream
    cases left with
    | zero => simp at hleft
    | succ left =>
      rw [Dialogue.run_bind, run_serveClients_succ hwaiting hwaits, hserved,
        Account.verdict]
      cases hfault : (Account.ofStream machine r.scene.card
        visitor.stream).fault with
      | none =>
        obtain ⟨r', hrun, hrecord, hcard', hwaiting'⟩ :=
          ih (r := r₁.see [.told (.clientDisconnected visitor.address)])
            hlater (Nat.lt_of_succ_lt_succ hleft)
            (fun visitor h => hrounds visitor (List.mem_cons_of_mem _ h))
        have hsame : (r₁.see
            [.told (.clientDisconnected visitor.address)]).scene.card =
          (Account.ofStream machine r.scene.card visitor.stream).card := hcard
        rw [hsame] at hrun hrecord hcard' hwaiting'
        have hcons : turns = _ := Turns.ofVisitors_cons hfault
        rw [hcons]
        refine ⟨r', ?_, ?_, hcard', hwaiting'⟩
        · rw [← hrun, Dialogue.run_bind]
        · rw [hrecord, record, see, hpast, hdeeds]
          simp [Account.turn]
      | some e =>
        have hcons : turns = _ := Turns.ofVisitors_cons_of_fault hfault
        rw [hcons]
        refine ⟨_, run_complain cardName e r₁, ?_, ?_, hlater⟩
        · simp [record, ejected, see, hpast, hdeeds, Account.wound,
            Account.complaint, Account.reason, hfault]
        · simp [ejected, see, hcard, Account.wound]

/-- A session that can listen says so, and serves the readers that come. -/
theorem run_serve {site site' : ν} {port : UInt16}
    (hlisten : config.listen = true)
    (hbind : (Network.bind config.listenAddress config.port).run
      network.handler site = (some (.ok port), site'))
    (card : σ) (visitors : List Visitor) :
    (serve rounds config).run.run (handler network machine known)
        (.opening site card visitors) =
      (serveClients rounds config rounds).run.run
        (handler network machine known)
        ((opening site' card visitors).see
          [.told (.listening port (known.toOption.getD []))]) := by
  have hserve : (serve rounds config).run.run (handler network machine known)
      (.opening site card visitors) =
    (serveListening rounds config).run.run (handler network machine known)
      (.opening site card visitors) := by
    rw [serve, hlisten]
    rfl
  have hport : (onNetwork (Network.bind config.listenAddress
      config.port)).run.run (handler network machine known)
        (.opening site card visitors) =
      (some (.ok port), .opening site' card visitors) :=
    run_listen hbind card visitors
  have haddresses : (liftM localAddresses : Serving _).run.run
      (handler network machine known) (.opening site' card visitors) =
      (some (.ok (known.toOption.getD [])), .opening site' card visitors) := by
    cases known <;> rfl
  rw [hserve, serveListening, run_except_bind, hport]
  dsimp only
  rw [run_except_bind, haddresses]
  rfl

end Reception

/-- A session that listens serves the readers that come in turn. What is seen
over each connection is what the reader's own stream amounts to on the card
as it was when the reader was accepted, and everything that is seen over one
connection comes before the next is accepted. A reader that comes behind one
whose frames have a fault is never accepted. -/
theorem readers_served_in_turn {σ ν : Type} (machine : Machine Card σ)
    (network : Machine Network ν) (known : Except IoError (List Address))
    (config : SessionConfig) (cardName : String) (rounds : Nat)
    (visitors : List Visitor) (card : σ) (site site' : ν) (port : UInt16)
    (hlisten : config.listen = true)
    (hbind : (Network.bind config.listenAddress config.port).run
      network.handler site = (some (.ok port), site'))
    (hvisitors : visitors.length < rounds)
    (hrounds : ∀ visitor ∈ visitors, visitor.waits.length < rounds ∧
      visitor.stream.length + Frame.headerSize + Frame.maxPayload < rounds) :
    let turns := Turns.ofVisitors machine card visitors
    ∃ r', (run rounds config cardName).run
        (Reception.handler network machine known)
        (.opening site card visitors) = (turns.outcome, r') ∧
      r'.record =
        [.told (.listening port (known.toOption.getD []))] :: turns.deeds ∧
      r'.scene.card = turns.card ∧ r'.waiting = turns.unserved := by
  rw [run_eq_concluding, Dialogue.run_bind,
    Reception.run_serve hlisten hbind, ← Dialogue.run_bind]
  exact Reception.run_serveClients cardName visitors rfl hvisitors hrounds

/-- The first of three readers asks for the answer to reset and begins one
more frame, which it does not end; the second sends what is no command; the
third is not served. -/
theorem readers_served_in_turn_of_three :
    let first : Visitor :=
      ⟨none, [none], [[0x00], [0x01, 0x04, 0x00]], [1, 2], rfl, rfl⟩
    let second : Visitor :=
      ⟨some "second", [some ⟨.wouldBlock, "not yet"⟩], [[0x00, 0x01, 0x09]],
        [], rfl, rfl⟩
    let third : Visitor := ⟨some "third", [], [], [], rfl, rfl⟩
    ∃ r', (run 65600 (.listener 1) "card").run
        (Reception.handler (openNetwork "peer") (steadyCard [0x3b] [])
          (.ok ["host"]))
        (.opening () () [first, second, third]) =
          (some (.ended (.failed "protocol error")), r') ∧
      r'.record =
        [[.told (.listening 0 ["host"])],
         [.told (.connected "unknown peer"), .called .atr, .sent 0x00,
          .sent 0x01, .sent 0x3b, .hungUp,
          .told (.clientDisconnected "unknown peer")],
         [.told (.connected "second"), .hungUp,
          .told (.error "protocol error: unhandled command 0x09"),
          .called .eject, .told (.disconnected (.failed "protocol error"))]] ∧
      r'.waiting = [third] := by
  intro first second third
  have hdrain : Frame.drain first.stream = ([[0x04]], [0x00]) :=
    Frame.Cuts.eq_drain ⟨by simp [Frame.maxPayload], rfl,
      Frame.decode?_eq_none_iff.mp rfl⟩
  have hdrain' : Frame.drain second.stream = ([[0x09]], []) :=
    Frame.Cuts.eq_drain ⟨by simp [Frame.maxPayload], rfl,
      Frame.decode?_eq_none_iff.mp rfl⟩
  have hfirst : Account.ofStream (steadyCard [0x3b] []) () first.stream =
      ⟨[.called .atr, .sent 0x00, .sent 0x01, .sent 0x3b], none, ()⟩ := by
    rw [Account.ofStream, hdrain]
    rfl
  have hsecond : Account.ofStream (steadyCard [0x3b] []) () second.stream =
      ⟨[], some (.protocol "unhandled command 0x09"), ()⟩ := by
    rw [Account.ofStream, hdrain']
    rfl
  obtain ⟨r', hrun, hrecord, -, hwaiting⟩ :=
    readers_served_in_turn (steadyCard [0x3b] []) (openNetwork "peer")
      (.ok ["host"]) (.listener 1) "card" 65600 [first, second, third] () ()
      () 0 rfl rfl (by decide) (by decide)
  simp only [Turns.ofVisitors, hfirst, hsecond] at hrun hrecord hwaiting
  exact ⟨r', hrun, hrecord, hwaiting⟩

end CardBridge.Session
