import CardBridge.Proofs.Session.Dialing
import CardBridge.Stream.Scripted

/-!
# Sessions with a scripted reader

The surroundings of a session in full: a network and a card that are any
machines, and a connection that delivers a stream in given pieces and takes
what it is offered in given portions. The run of a session in them is what
the complete frames of the stream amount to, whatever the pieces and the
portions are (`run_eq_account`).
-/

namespace CardBridge.Session

open Dialogue

/-- A session and a reader that follows a script. -/
structure Scene (σ ν : Type) where
  /-- The network. -/
  network : ν
  /-- The card. -/
  card : σ
  /-- What the reader sends, and how its connection takes octets. -/
  stream : Stream.Scripted
  /-- What was seen, in order. -/
  deeds : List Deed := []

namespace Scene

variable {σ ν : Type}

/-- A scene before anything happened. The reader sends the pieces and then
ends its side; its connection takes at most so many octets at each offer. -/
def opening (network : ν) (card : σ) (pieces : List Bytes)
    (portions : List Nat) : Scene σ ν where
  network := network
  card := card
  stream :=
    { source := pieces.map .octets, sink := { writes := portions.map .ok } }

/-- What a stream operation shows. -/
def shown : (q : Stream.Ask) → Option (Stream.Answer q) → List Deed
  | .send offered, some (.ok accepted) => (offered.take accepted).map .sent
  | _, _ => []

/-- What the session is answered. Nobody tells it to stop. -/
def handler (network : Machine Network ν) (machine : Machine Card σ) :
    Handler Session (Scene σ ν)
  | .network q, v =>
    let (answer, network) := network q v.network
    (some answer, { v with network })
  | .socket (.stream q), v =>
    let (answer, stream) := Stream.Scripted.handler q v.stream
    (answer, { v with stream, deeds := v.deeds ++ shown q answer })
  | .socket .shutdown, v =>
    (some (.ok ()), { v with deeds := v.deeds ++ [.hungUp] })
  | .socket (.noDelay _), v => (some (.ok ()), v)
  | .socket (.readTimeout _), v => (some (.ok ()), v)
  | .socket (.writeTimeout _), v => (some (.ok ()), v)
  | .socket .duplicate, v => (some (.ok ()), v)
  | .card op, v =>
    let (answer, card) := machine op v.card
    (some (.returned answer),
      { v with card, deeds := v.deeds ++ [.called op] })
  | .token .isCancelled, v => (some false, v)
  | .token .register, v => (some true, v)
  | .token .clear, v => (some (), v)
  | .localAddresses, v => (some (.ok []), v)
  | .emit event, v =>
    (some (.returned ()), { v with deeds := v.deeds ++ [.told event] })
  | .advance _, v => (some (), v)
  | .log _, v => (some (), v)

/-! ## The script -/

/-- A read gives octets of the first piece that has any, and the end of the
stream only behind the last. -/
theorem receive_pieces {size : Nat} (hsize : 0 < size) (pieces : List Bytes) :
    ∃ (octets : Bytes) (left : List Bytes),
      Stream.Source.receive size (pieces.map .octets) =
          (.ok octets, left.map .octets) ∧
      pieces.flatten = octets ++ left.flatten ∧ octets.length ≤ size ∧
      (octets = [] → left = []) := by
  induction pieces with
  | nil => exact ⟨[], [], rfl, rfl, Nat.zero_le _, fun _ => rfl⟩
  | cons piece pieces ih =>
    cases piece with
    | nil =>
      -- an empty piece is passed over
      exact ih
    | cons octet octets =>
      have htake : ((octet :: octets).take size).length ≤ size := by
        rw [List.length_take]
        exact Nat.min_le_left _ _
      have hne : (octet :: octets).take size ≠ [] := by
        simp only [ne_eq, List.take_eq_nil_iff, reduceCtorEq, or_false]
        omega
      have hsplit := List.take_append_drop size (octet :: octets)
      simp only [List.map_cons, Stream.Source.receive]
      split
      · rename_i hdrop
        refine ⟨(octet :: octets).take size, pieces, rfl, ?_, htake,
          fun h => absurd h hne⟩
        rw [hdrop, List.append_nil] at hsplit
        rw [List.flatten_cons, hsplit]
      · refine ⟨(octet :: octets).take size,
          (octet :: octets).drop size :: pieces, rfl, ?_, htake,
          fun h => absurd h hne⟩
        rw [List.flatten_cons, List.flatten_cons, ← List.append_assoc,
          hsplit]

/-- An offer is taken in part or in full. -/
theorem send_portions {portions : List Nat} (h : ∀ n ∈ portions, 0 < n)
    {offered : Bytes} (hne : offered ≠ []) (sink : Stream.Sink)
    (hsink : sink.writes = portions.map .ok) :
    ∃ accepted sink', ∃ portions' : List Nat,
      sink.send offered = (.ok accepted, sink') ∧
      0 < accepted ∧ accepted ≤ offered.length ∧
      sink'.writes = portions'.map .ok ∧ sink'.flushes = sink.flushes ∧
      ∀ n ∈ portions', 0 < n := by
  obtain ⟨writes, flushes, before⟩ := sink
  subst hsink
  have hpos := List.length_pos_iff.mpr hne
  cases portions with
  | nil => exact ⟨_, _, [], rfl, hpos, Nat.le_refl _, rfl, rfl, h⟩
  | cons most portions =>
    have hmost := h most (List.mem_cons_self ..)
    refine ⟨_, _, portions, rfl, ?_, ?_, rfl, rfl,
      fun n hn => h n (List.mem_cons_of_mem _ hn)⟩
    · rw [List.length_take]
      omega
    · rw [List.length_take]
      omega

/-! ## The run -/

/-- What is left of the script is what was not taken of the stream, and the
rest of the scene is the same. -/
structure Matches (stream : Bytes) (v : Scene σ ν) (w : Encounter σ ν) :
    Prop where
  network_eq : v.network = w.network
  card_eq : v.card = w.card
  deeds_eq : v.deeds = w.deeds
  source : ∃ pieces : List Bytes, v.stream.source = pieces.map .octets ∧
    w.taken ++ pieces.flatten = stream ∧
    (w.ended = true → pieces.flatten = [])
  sink : ∃ portions : List Nat, v.stream.sink.writes = portions.map .ok ∧
    v.stream.sink.flushes = [] ∧ ∀ n ∈ portions, 0 < n

section

variable {network : Machine Network ν} {machine : Machine Card σ}
  {stream : Bytes} {v : Scene σ ν} {w : Encounter σ ν}

/-- Whatever is asked is answered, and as an undisturbed connection may. -/
theorem Matches.step (h : Matches stream v w) {card : σ}
    {rest : Encounter σ ν → Prop} (q : Ask)
    (hq : Encounter.Attentive machine card rest (some q) w) :
    ∃ a v' w', handler network machine q v = (some a, v') ∧
      Encounter.surroundings network.surroundings machine
        (Encounter.undisturbed stream.length) q w a w' ∧
      Matches stream v' w' := by
  obtain ⟨hnetwork, hcard, hdeeds, ⟨pieces, hsource, hstream⟩,
    portions, hwrites, hflushes, hportions⟩ := h
  match q with
  | .network q =>
    exact ⟨_, _, { w with network := (network q v.network).2 }, rfl,
      ⟨_, by rw [← hnetwork]; rfl, rfl⟩,
      ⟨rfl, hcard, hdeeds, ⟨pieces, hsource, hstream⟩,
        portions, hwrites, hflushes, hportions⟩⟩
  | .socket (.stream (.receive size)) =>
    obtain ⟨octets, left, hreceive, hflat, hsize, hend⟩ :=
      receive_pieces hq.1 pieces
    rw [← hsource] at hreceive
    rw [hflat] at hstream
    have hv : handler network machine (.socket (.stream (.receive size))) v =
        (some (.ok octets), { v with
          stream := { v.stream with source := left.map .octets } }) := by
      simp [handler, Stream.Scripted.handler, hreceive, shown]
    by_cases hoctets : octets = []
    · -- nothing comes any more, and nothing is left
      obtain rfl := hend hoctets
      subst hoctets
      exact ⟨_, _, { w with ended := true }, hv, .inr ⟨rfl, rfl⟩,
        ⟨hnetwork, hcard, hdeeds,
          ⟨[], rfl, hstream.1, fun _ => rfl⟩,
          portions, hwrites, hflushes, hportions⟩⟩
    · refine ⟨_, _, { w with taken := w.taken ++ octets }, hv,
        .inl ⟨octets, hoctets, hsize, ?_, rfl, rfl⟩,
        ⟨hnetwork, hcard, hdeeds,
          ⟨left, rfl, by rw [List.append_assoc, hstream.1], fun hended => ?_⟩,
          portions, hwrites, hflushes, hportions⟩⟩
      · rw [← hstream.1]
        simp only [List.length_append]
        omega
      · exact (List.append_eq_nil_iff.mp (hstream.2 hended)).2
  | .socket (.stream (.send offered)) =>
    obtain ⟨accepted, sink', portions', hsend, hpos, hle, hwrites',
      hflushes', hportions'⟩ := send_portions hportions hq _ hwrites
    refine ⟨.ok accepted, { v with
        stream := { v.stream with sink := sink' }
        deeds := v.deeds ++ (offered.take accepted).map .sent },
      w.see ((offered.take accepted).map .sent),
      by rw [handler, Stream.Scripted.handler, hsend]; rfl,
      ⟨accepted, hpos, hle, rfl, rfl⟩,
      ⟨hnetwork, hcard, by rw [hdeeds]; rfl, ⟨pieces, hsource, hstream⟩,
        portions', hwrites', hflushes'.trans hflushes, hportions'⟩⟩
  | .socket (.stream .flush) =>
    refine ⟨.ok (), v, w, ?_, ⟨rfl, rfl⟩,
      ⟨hnetwork, hcard, hdeeds, ⟨pieces, hsource, hstream⟩,
        portions, hwrites, hflushes, hportions⟩⟩
    simp [handler, Stream.Scripted.handler, Stream.Sink.flush, hflushes,
      shown]
  | .socket .shutdown =>
    exact ⟨_, _, w.see [.hungUp], rfl, rfl,
      ⟨hnetwork, hcard, by rw [hdeeds]; rfl, ⟨pieces, hsource, hstream⟩,
        portions, hwrites, hflushes, hportions⟩⟩
  | .card op =>
    refine ⟨_, _, { w.see [.called op] with card := (machine op w.card).2 },
      rfl, ⟨by rw [hcard], rfl⟩,
      ⟨hnetwork, by rw [hcard], by rw [hdeeds]; rfl,
        ⟨pieces, hsource, hstream⟩,
        portions, hwrites, hflushes, hportions⟩⟩
  | .emit event =>
    exact ⟨_, _, w.see [.told event], rfl, ⟨rfl, rfl⟩,
      ⟨hnetwork, hcard, by rw [hdeeds]; rfl, ⟨pieces, hsource, hstream⟩,
        portions, hwrites, hflushes, hportions⟩⟩
  | .socket (.noDelay _) | .socket (.readTimeout _)
  | .socket (.writeTimeout _) | .socket .duplicate
  | .token .isCancelled | .token .register =>
    exact ⟨_, v, w, rfl, ⟨rfl, rfl⟩,
      ⟨hnetwork, hcard, hdeeds, ⟨pieces, hsource, hstream⟩,
        portions, hwrites, hflushes, hportions⟩⟩
  | .token .clear | .localAddresses | .advance _ | .log _ =>
    exact ⟨_, v, w, rfl, rfl,
      ⟨hnetwork, hcard, hdeeds, ⟨pieces, hsource, hstream⟩,
        portions, hwrites, hflushes, hportions⟩⟩

/-- Nothing is left out: the octets that were not taken have no effect. -/
theorem Matches.account_eq {card : σ} (h : Matches stream v w)
    (hall : (w.account machine card).fault = none → w.ended = true) :
    w.account machine card = .ofStream machine card stream := by
  obtain ⟨pieces, -, hstream, hended⟩ := h.source
  by_cases hf : (w.account machine card).fault = none
  · -- without a fault the stream was taken to its end
    rw [hended (hall hf), List.append_nil] at hstream
    rw [Encounter.account, hstream]
  · exact (Account.ofStream_of_fault ⟨_, hstream⟩ hf).symm

end

end Scene

/-- A session in client mode whose dialing succeeds, which nobody tells to
stop and whose connection has no fault, does what the complete frames of the
reader's stream amount to, and nothing else. -/
theorem run_eq_account {σ ν : Type} (machine : Machine Card σ)
    (network : Machine Network ν) (config : SessionConfig)
    (cardName : String) (rounds : Nat) (pieces : List Bytes)
    (portions : List Nat) (card : σ) (site site' : ν) (peer : Option Address)
    (hclient : config.listen = false)
    (hdial : (Network.dial config.hostname config.port
      config.connectTimeout).run network.handler site =
        (some (.ok peer), site'))
    (hportions : ∀ n ∈ portions, 0 < n)
    (hrounds : pieces.flatten.length + Frame.headerSize + Frame.maxPayload <
      rounds) :
    ∃ payloads tail, Frame.Cuts pieces.flatten payloads tail ∧
      ∃ scene', (run rounds config cardName).run
          (Scene.handler network machine)
          (.opening site card pieces portions) =
            (some (.ended
              (Account.ofPayloads machine card payloads).reason), scene') ∧
        scene'.deeds = ((Account.ofPayloads machine card payloads).wound
          machine (peer.getD config.hostname)).deeds ∧
        scene'.card = ((Account.ofPayloads machine card payloads).wound
          machine (peer.getD config.hostname)).card := by
  refine ⟨_, _, Frame.cuts_drain pieces.flatten, ?_⟩
  have hconnect := (keeps_of_run hdial).imp fun _ _ h => h.1
  have hkeeps : (run rounds config cardName).Keeps
      (Encounter.surroundings network.surroundings machine
        (Encounter.undisturbed pieces.flatten.length))
      (Encounter.Attentive machine card fun _ => False) _
      { network := site, card } :=
    Encounter.keeps_run hconnect hrounds quiet_nil rfl cardName hclient
  have hopening : Scene.Matches pieces.flatten
      (.opening site card pieces portions) { network := site, card } :=
    ⟨rfl, rfl, rfl, ⟨pieces, rfl, rfl, nofun⟩, portions, rfl, rfl, hportions⟩
  obtain ⟨r, scene', w', hrun, hwound, hmatch⟩ :=
    hkeeps.run_handler hopening
      (fun _ => id) fun q v w hv hq => hv.step q hq
  have haccount := hmatch.account_eq hwound.all
  refine ⟨scene', ?_, ?_, ?_⟩
  · rw [hrun, hwound.outcome, haccount]
    rfl
  · rw [hmatch.deeds_eq, hwound.deeds_eq, haccount]
    rfl
  · rw [hmatch.card_eq, hwound.card_eq, haccount]
    rfl

/-- A card that always answers the same. -/
def steadyCard (atr response : Bytes) : Machine Card Unit
  | .atr, _ => (.ok atr, ())
  | .transmit _, _ => (.ok response, ())
  | .powerOn, _ => (.ok (), ())
  | .powerOff, _ => (.ok (), ())
  | .reset, _ => (.ok (), ())
  | .eject, _ => (.ok (), ())

/-- A network in which every host is one reader at a known address. -/
def openNetwork (peer : Address) : Machine Network Unit
  | .resolve _ _, _ => (.ok [peer], ())
  | .connect _ _, _ => (.ok (some peer), ())
  | .listen _, _ => (.ok 0, ())
  | .poll _, _ => (.ok (some (some peer)), ())
  | .unpoll, _ => (.ok (), ())

/-- A reader asks for the answer to reset in two pieces, begins one more
frame, and is gone. -/
theorem run_eq_account_of_two_pieces :
    ∃ scene', (run 65600 (.client "reader" 1) "card").run
        (Scene.handler (openNetwork "peer") (steadyCard [0x3b] []))
        (.opening () () [[0x00], [0x01, 0x04, 0x00]] [1, 2]) =
          (some (.ended .peerClosed), scene') ∧
      scene'.deeds =
        [.told (.connected "peer"), .called .atr, .sent 0x00, .sent 0x01,
         .sent 0x3b, .hungUp, .called .eject,
         .told (.disconnected .peerClosed)] := by
  obtain ⟨payloads, tail, hcuts, scene', hrun, hdeeds, -⟩ :=
    run_eq_account (steadyCard [0x3b] []) (openNetwork "peer")
      (.client "reader" 1) "card" 65600 [[0x00], [0x01, 0x04, 0x00]] [1, 2]
      () () () (some "peer") rfl rfl (by decide) (by decide)
  have hpayloads : Frame.Cuts [0x00, 0x01, 0x04, 0x00] [[0x04]] [0x00] :=
    ⟨by simp [Frame.maxPayload], rfl, Frame.decode?_eq_none_iff.mp rfl⟩
  obtain ⟨rfl, -⟩ := hcuts.unique hpayloads
  exact ⟨scene', hrun, hdeeds⟩

end CardBridge.Session
