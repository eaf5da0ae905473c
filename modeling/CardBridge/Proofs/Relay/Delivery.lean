import CardBridge.Proofs.Relay.Dealings

/-!
# What a remote card is sent, and what it delivers

The two streams of a connection to a remote card, told from the operations
made on it. Outwards go the frames of the operations that can be carried out
from afar, and nothing else. Inwards every wait takes the next of what the
peer's script amounts to, frame or failure, and no other operation takes
anything (`remote_card_dealings`).
-/

namespace CardBridge.Remote

open Dialogue Session.Account CardBridge.Stream CardBridge.Frame Transport
  Card

variable {link : Link} {rounds : Nat} {given : List Reading}
  {earlier later : List (Dealing Card (Remote × Link))}
  {d : Dealing Card (Remote × Link)} {s : Remote × Link}

/-! ## Between two operations -/

/-- How far some dealings have brought a connection. -/
structure Progress (link : Link) (ds : List (Dealing Card (Remote × Link)))
    (s : Remote × Link) : Prop where
  ejected : s.1.ejected = true ↔ .eject ∈ questions ds
  shut : s.2.shut = s.1.ejected
  took : Took link.stream.sink (requests (told (questions ds)))
    s.2.stream.sink
  span : s.2.stream.source.span ≤ link.stream.source.span
  lasting : s.2.lasting = link.lasting
  delivered : delivered ds = payloadsIn
    ((readings [] link.stream.source).take (asked (questions ds)).length)

/-- Between two operations the readings that no wait has taken yet are still
to come. -/
structure Standing (link : Link) (ds : List (Dealing Card (Remote × Link)))
    (s : Remote × Link) : Prop extends Progress link ds s where
  due : readings s.1.buffer s.2.stream.source =
    (readings [] link.stream.source).drop (asked (questions ds)).length

theorem standing_opening (hshut : link.shut = false) :
    Standing link [] ({}, link) where
  ejected := by simp
  shut := hshut
  took := .refl _
  span := Nat.le_refl _
  lasting := rfl
  delivered := rfl
  due := rfl

theorem delivered_concat (ds : List (Dealing Card (Remote × Link)))
    (d : Dealing Card (Remote × Link)) :
    delivered (ds ++ [d]) =
      delivered ds ++ ((found d).bind Except.toOption).toList := by
  rw [delivered, List.filterMap_append]
  cases h : (found d).bind Except.toOption <;> simp [delivered, h]

section

variable {ε ε' α : Type} (f : ε → ε')

@[simp] theorem mapError_ok (a : α) :
    (.ok a : Except ε α).mapError f = .ok a := rfl

@[simp] theorem mapError_error (e : ε) :
    (.error e : Except ε α).mapError f = .error (f e) := rfl

theorem toOption_mapError (r : Except ε α) :
    (r.mapError f).toOption = r.toOption := by
  cases r <;> rfl

end

/-- No frame is found where none is to come. -/
theorem toOption_lasting {reading : Reading}
    (h : link.lasting = some reading) : reading.toOption = none := by
  cases hsilent : link.silent with
  | false =>
    simp only [Link.lasting, hsilent, Bool.false_eq_true, if_false,
      Option.some.injEq] at h
    rw [← h]
    rfl
  | true =>
    simp only [Link.lasting, hsilent, if_true, Option.map_eq_some_iff] at h
    obtain ⟨-, -, rfl⟩ := h
    rfl

/-- The response of a wait is that of the next reading. -/
theorem response_of_next (given : List Reading) (n : Nat) :
    ((((given[n]?).or link.lasting).map (·.mapError hearing)).bind
      Except.toOption).toList = payloadsIn given[n]?.toList := by
  cases hreading : given[n]? with
  | some reading => cases reading <;> rfl
  | none =>
    cases hlasting : link.lasting with
    | none => rfl
    | some reading =>
      simp [toOption_mapError, toOption_lasting hlasting, payloadsIn]

/-! ## One more operation -/

theorem not_relayable_of_refusal {apdu : Bytes} {e : FrameError}
    (h : (Order.apdu apdu).refusal = some e) :
    ¬ (Operation.transmit apdu).Relayable := by
  intro hop
  rw [(refusal_apdu_eq_none_iff apdu).mpr hop] at h
  cases h

section

variable {ops : List Operation} (hd : Course d)
  (hejected : d.before.1.ejected = true ↔ .eject ∈ ops)

include hd hejected

/-- What an operation sends is the frame by which the far card is told of it,
if it is. -/
theorem Course.took : ∃ octets,
    Took d.before.2.stream.sink octets d.after.2.stream.sink ∧
      requests (told (ops ++ [d.question])) =
        requests (told ops) ++ octets := by
  cases hd with
  | late hcard hanswer =>
    refine ⟨[], .refl _, ?_⟩
    rw [told_concat_of_mem (hejected.mp hcard), List.append_nil]
  | refused hcard hrefusal =>
    refine ⟨[], .refl _, ?_⟩
    rw [told_concat_of_not_relayable ops (not_relayable_of_refusal hrefusal),
      List.append_nil]
  | leave hcard =>
    refine ⟨[], .refl _, ?_⟩
    rw [told_concat_of_not_relayable ops id, List.append_nil]
  | tell hcard hop hawaited htook hanswer =>
    refine ⟨_, htook, ?_⟩
    have hops : .eject ∉ ops := by simpa [hcard] using hejected
    rw [told_concat_of_relayable hops hop, requests_append,
      requests_singleton]
  | converse hcard hop hawaited htook hspan hfound hnext =>
    refine ⟨_, htook, ?_⟩
    have hops : .eject ∉ ops := by simpa [hcard] using hejected
    rw [told_concat_of_relayable hops hop, requests_append,
      requests_singleton]

/-- An operation that waits for nothing takes nothing, and returns. -/
theorem Course.idle (h : ¬ Awaits ops d.question) :
    d.answer ≠ none ∧ d.after.1.buffer = d.before.1.buffer ∧
      d.after.2.stream.source = d.before.2.stream.source := by
  cases hd with
  | converse hcard hop hawaited htook hspan hfound hnext =>
    have hops : .eject ∉ ops := by simpa [hcard] using hejected
    exact absurd ⟨hops, hop, hawaited⟩ h
  | _ => exact ⟨nofun, rfl, rfl⟩

/-- What it finds, if anything, is that it came too late or is refused. -/
theorem Course.found_of_idle (h : ¬ Awaits ops d.question) :
    found d = none ∨ found d = some (.error .ejected) ∨
      ∃ apdu e, (Order.apdu apdu).refusal = some e ∧
        found d = some (.error (.frame e)) := by
  cases hd with
  | late hcard hanswer =>
    rcases hanswer with rfl | rfl | rfl
    · exact .inl rfl
    · exact .inl rfl
    · rw [found, Option.bind_some, heard_error]
      split
      · exact .inr (.inl rfl)
      · exact .inl rfl
  | refused hcard hrefusal => exact .inr (.inr ⟨_, _, hrefusal, rfl⟩)
  | leave hcard => exact .inl rfl
  | tell hcard hop hawaited htook hanswer =>
    exact .inl (heard_of_not_awaited hawaited _)
  | converse hcard hop hawaited htook hspan hfound hnext =>
    have hops : .eject ∉ ops := by simpa [hcard] using hejected
    exact absurd ⟨hops, hop, hawaited⟩ h

theorem Course.toOption_of_idle (h : ¬ Awaits ops d.question) :
    (found d).bind Except.toOption = none := by
  rcases hd.found_of_idle hejected h with hfound | hfound | ⟨_, _, _, hfound⟩
    <;> rw [hfound] <;> rfl

/-- An operation that waits takes the next reading. -/
theorem Course.waits (h : Awaits ops d.question) :
    found d = ((readings d.before.1.buffer
        d.before.2.stream.source).head?.or d.before.2.lasting).map
          (·.mapError hearing) ∧
      (d.answer ≠ none →
        readings d.after.1.buffer d.after.2.stream.source =
          (readings d.before.1.buffer d.before.2.stream.source).tail) := by
  cases hd with
  | late hcard hanswer => exact absurd (hejected.mp hcard) h.unejected
  | refused hcard hrefusal =>
    exact absurd h.relayable (not_relayable_of_refusal hrefusal)
  | leave hcard => exact absurd h.relayable id
  | tell hcard hop hawaited htook hanswer =>
    exact absurd (hawaited.symm.trans h.awaited) Bool.false_ne_true
  | converse hcard hop hawaited htook hspan hfound hnext =>
    exact ⟨hfound, hnext⟩

theorem Course.ejected_iff :
    d.after.1.ejected = true ↔ .eject ∈ ops ++ [d.question] := by
  rw [List.mem_append, ← hejected, List.mem_singleton]
  cases hd with
  | late hcard hanswer => simp [hcard]
  | refused hcard hrefusal => simp
  | leave hcard => simp
  | tell hcard hop hawaited htook hanswer => simp [hcard, hop.ne_eject.symm]
  | converse hcard hop hawaited htook hspan hfound hnext =>
    simp [hcard, hop.ne_eject.symm]

end

theorem Course.shut_eq (hd : Course d)
    (h : d.before.2.shut = d.before.1.ejected) :
    d.after.2.shut = d.after.1.ejected := by
  cases hd with
  | leave hcard => rfl
  | _ => exact h

theorem Course.source (hd : Course d) :
    d.after.2.stream.source.span ≤ d.before.2.stream.source.span ∧
      d.after.2.lasting = d.before.2.lasting := by
  cases hd with
  | converse hcard hop hawaited htook hspan hfound hnext => exact ⟨hspan, rfl⟩
  | _ => exact ⟨Nat.le_refl _, rfl⟩

/-- What a wait gives is the reading whose turn it is. -/
theorem Standing.found_eq (h : Standing link earlier d.before) (hd : Course d)
    (hawaits : Awaits (questions earlier) d.question) :
    found d = (((readings [] link.stream.source)[
        (asked (questions earlier)).length]?).or link.lasting).map
          (·.mapError hearing) := by
  rw [(hd.waits h.ejected hawaits).1, h.due, h.lasting, List.head?_drop]

theorem Standing.progress (h : Standing link earlier d.before)
    (hd : Course d) : Progress link (earlier ++ [d]) d.after := by
  obtain ⟨hspan, hlasting⟩ := hd.source
  refine ⟨?_, hd.shut_eq h.shut, ?_, Nat.le_trans hspan h.span,
    hlasting.trans h.lasting, ?_⟩
  · rw [questions_concat]
    exact hd.ejected_iff h.ejected
  · obtain ⟨octets, htook, heq⟩ := hd.took h.ejected
    rw [questions_concat, heq]
    exact h.took.trans htook
  · rw [questions_concat, delivered_concat, h.delivered]
    by_cases hawaits : Awaits (questions earlier) d.question
    · rw [asked_concat_of_awaits hawaits, List.length_append,
        List.length_singleton, List.take_add_one, payloadsIn_append,
        h.found_eq hd hawaits, response_of_next]
    · rw [asked_concat_of_not_awaits hawaits,
        hd.toOption_of_idle h.ejected hawaits]
      exact List.append_nil _

theorem Standing.next (h : Standing link earlier d.before) (hd : Course d)
    (hanswer : d.answer ≠ none) : Standing link (earlier ++ [d]) d.after := by
  refine ⟨h.progress hd, ?_⟩
  rw [questions_concat]
  by_cases hawaits : Awaits (questions earlier) d.question
  · rw [(hd.waits h.ejected hawaits).2 hanswer, h.due, List.tail_drop,
      asked_concat_of_awaits hawaits, List.length_append,
      List.length_singleton]
  · obtain ⟨-, hbuffer, hsource⟩ := hd.idle h.ejected hawaits
    rw [hbuffer, hsource, h.due, asked_concat_of_not_awaits hawaits]

/-! ## All operations -/

theorem Standing.course (h : Standing link earlier s)
    (hsink : link.stream.sink.Obliging)
    (hrounds : link.span maxPayload ≤ rounds) (op : Operation) :
    Course (dealing (linked rounds) op s) := by
  have hspan := h.span
  have hsent := h.took.span_le (maxPayload + 3)
  refine course_dealing h.shut (h.took.obliging hsink) ?_ op
  simp only [Link.span] at hrounds ⊢
  omega

/-- At every point of some dealings the next operation takes its course from
where those before it have led. -/
theorem standing_dealings (hshut : link.shut = false)
    (hsink : link.stream.sink.Obliging)
    (hrounds : link.span maxPayload ≤ rounds) {ops : List Operation}
    (hds : dealings (linked rounds) ops ({}, link) =
      earlier ++ d :: later) :
    Standing link earlier d.before ∧ Course d ∧
      (d.answer = none → later = []) := by
  obtain ⟨hd, hstanding, hlast⟩ := dealings_keep
    (fun ds op s hs hanswer => hs.next (hs.course hsink hrounds op) hanswer)
    (standing_opening hshut) hds
  rw [List.nil_append] at hstanding
  exact ⟨hstanding, hd ▸ hstanding.course hsink hrounds d.question, hlast⟩

/-! ## What can be said of each -/

/-- What can be said of an operation that comes after some others, when
`given` is what the peer's script amounts to. -/
structure Sound (link : Link) (given : List Reading)
    (earlier : List (Dealing Card (Remote × Link)))
    (d : Dealing Card (Remote × Link)) : Prop where
  /-- What was sent so far are the frames of the operations of which the far
  card is told. -/
  sent : d.after.2.stream.sink.accepted = link.stream.sink.accepted ++
    requests (told (questions earlier ++ [d.question]))
  /-- What was delivered so far are the payloads among the first readings, as
  many as there were waits. -/
  delivered : delivered (earlier ++ [d]) = payloadsIn
    (given.take (asked (questions earlier ++ [d.question])).length)
  /-- A wait gives the reading whose turn it is, and what lasts after the
  last of them. -/
  awaited : Awaits (questions earlier) d.question →
    found d = ((given[(asked (questions earlier)).length]?).or
      link.lasting).map (·.mapError hearing)
  /-- Every other operation returns, and takes no octet, neither of those in
  the connection nor of those in hand. -/
  idle : ¬ Awaits (questions earlier) d.question → d.answer ≠ none ∧
    d.after.1.buffer = d.before.1.buffer ∧
    d.after.2.stream.source = d.before.2.stream.source
  /-- What needs no answer succeeds. -/
  succeeds : .eject ∉ questions earlier → d.question.Relayable →
    d.question.isAwaited = false → ∃ reply, d.answer = some (.ok reply)
  /-- A refused APDU leaves everything as it was. -/
  refused : ∀ apdu, d.question = .transmit apdu → .eject ∉ questions earlier →
    (apdu.length = 1 ∨ 65535 < apdu.length) → d.after = d.before ∧
      ∃ e, found d = some (.error (.frame e)) ∧
        (e = .ambiguousApdu ∨ e = .payloadTooLarge apdu.length 65535)
  late : .eject ∈ questions earlier → d.after = d.before
  /-- The card counts as gone for those who wait when the stream has ended and
  its last reading was given. -/
  closed_iff : found d = some (.error .remoteClosed) ↔
    Awaits (questions earlier) d.question ∧ link.silent = false ∧
      given.length ≤ (asked (questions earlier)).length
  /-- By then every complete frame was delivered. -/
  complete : found d = some (.error .remoteClosed) →
    Remote.delivered earlier = payloadsIn given

theorem mem_errorsIn {e : FrameError} (h : .error e ∈ given) :
    e ∈ errorsIn given :=
  List.mem_filterMap.mpr ⟨_, h, rfl⟩

theorem closed_not_mem {source : Source} (h : Gives source given) :
    closed ∉ given := by
  intro hmem
  have herror := mem_errorsIn hmem
  rw [h.failures] at herror
  simp at herror

/-- The end of the stream is found behind the last reading only. -/
theorem next_eq_closed_iff (h : closed ∉ given) (n : Nat) :
    (((given[n]?).or link.lasting).map (·.mapError hearing)) =
        some (.error .remoteClosed) ↔
      link.silent = false ∧ given.length ≤ n := by
  cases hreading : given[n]? with
  | some reading =>
    have hlt := (List.getElem?_eq_some_iff.mp hreading).1
    have hne : reading ≠ closed := by
      rintro rfl
      exact h (List.mem_of_getElem? hreading)
    have hright : ¬ (link.silent = false ∧ given.length ≤ n) := by omega
    rw [iff_false_right hright]
    match reading, hne with
    | .ok _, _ => simp
    | .error .connectionClosed, hne => exact absurd rfl hne
    | .error (.io _), _ | .error .ambiguousApdu, _
    | .error (.payloadTooLarge _ _), _ | .error (.unhandledCommand _), _ =>
      simp [hearing]
  | none =>
    have hle := List.getElem?_eq_none_iff.mp hreading
    cases hsilent : link.silent with
    | false => simp [Link.lasting, hsilent, hle, hearing]
    | true =>
      cases hbound : link.readTimeout <;>
        simp [Link.lasting, hsilent, hbound, hearing]

theorem Course.refuses (hd : Course d)
    (hejected : d.before.1.ejected = true ↔ .eject ∈ questions earlier)
    {apdu : Bytes} (hquestion : d.question = .transmit apdu)
    (heject : .eject ∉ questions earlier)
    (hapdu : apdu.length = 1 ∨ 65535 < apdu.length) : d.after = d.before ∧
      ∃ e, found d = some (.error (.frame e)) ∧
        (e = .ambiguousApdu ∨ e = .payloadTooLarge apdu.length 65535) := by
  have hnot : ¬ (Operation.transmit apdu).Relayable := by
    intro hop
    have hfits := hop.2
    rcases hapdu with hone | hlong
    · exact hop.1 hone
    · exact Nat.not_le.mpr hlong hfits
  cases hd with
  | late hcard hanswer => exact absurd (hejected.mp hcard) heject
  | refused hcard hrefusal =>
    cases hquestion
    exact ⟨rfl, _, rfl, refusal_apdu_eq_some hrefusal⟩
  | leave hcard => cases hquestion
  | tell hcard hop hawaited htook hanswer =>
    subst hquestion
    exact absurd hop hnot
  | converse hcard hop hawaited htook hspan hfound hnext =>
    subst hquestion
    exact absurd hop hnot

theorem Course.told (hd : Course d) (hcard : d.before.1.ejected = false)
    (hop : d.question.Relayable) (hawaited : d.question.isAwaited = false) :
    ∃ reply, d.answer = some (.ok reply) := by
  cases hd with
  | late hlate hanswer =>
    exact absurd (hcard.symm.trans hlate) Bool.false_ne_true
  | refused _ hrefusal =>
    exact absurd hop (not_relayable_of_refusal hrefusal)
  | leave => exact absurd hop id
  | tell _ _ _ htook hanswer =>
    obtain ⟨reply, rfl⟩ := hanswer
    exact ⟨reply, rfl⟩
  | converse _ _ hwaits htook hspan hfound hnext =>
    exact absurd (hawaited.symm.trans hwaits) Bool.false_ne_true

theorem Course.late_eq (hd : Course d) (h : d.before.1.ejected = true) :
    d.after = d.before := by
  cases hd with
  | late hcard hanswer => rfl
  | refused hcard hrefusal => rfl
  | leave hcard => exact absurd (hcard.symm.trans h) Bool.false_ne_true
  | tell hcard hop hawaited htook hanswer =>
    exact absurd (hcard.symm.trans h) Bool.false_ne_true
  | converse hcard hop hawaited htook hspan hfound hnext =>
    exact absurd (hcard.symm.trans h) Bool.false_ne_true

theorem Standing.sound (h : Standing link earlier d.before) (hd : Course d)
    (hgives : Gives link.stream.source (readings [] link.stream.source)) :
    Sound link (readings [] link.stream.source) earlier d := by
  have hprogress := h.progress hd
  have hclosed : found d = some (.error .remoteClosed) ↔
      Awaits (questions earlier) d.question ∧ link.silent = false ∧
        (readings [] link.stream.source).length ≤
          (asked (questions earlier)).length := by
    by_cases hawaits : Awaits (questions earlier) d.question
    · rw [h.found_eq hd hawaits, next_eq_closed_iff (closed_not_mem hgives)]
      exact (and_iff_right hawaits).symm
    · refine iff_of_false ?_ fun hright => hawaits hright.1
      rcases hd.found_of_idle h.ejected hawaits with
        hfound | hfound | ⟨_, _, _, hfound⟩ <;> rw [hfound] <;> simp
  refine ⟨?_, ?_, h.found_eq hd, ?_, ?_, ?_, ?_, hclosed, ?_⟩
  · rw [← questions_concat]
    exact hprogress.took.accepted
  · rw [← questions_concat]
    exact hprogress.delivered
  · intro hawaits
    exact hd.idle h.ejected hawaits
  · intro heject
    exact hd.told (by simpa using mt h.ejected.mp heject)
  · intro apdu hquestion heject hapdu
    exact hd.refuses h.ejected hquestion heject hapdu
  · intro heject
    exact hd.late_eq (h.ejected.mpr heject)
  · intro hfound
    obtain ⟨-, -, hlength⟩ := hclosed.mp hfound
    rw [h.delivered, List.take_of_length_le hlength]

/-- A remote card over a connection that accepts everything, whatever the
operations and whatever the peer sends. Taking the connection over sends
nothing. All operations are made, up to one that waits for ever. What goes
out are the frames of the operations of which the card is told, and what is
delivered are the complete frames that come in, each once and in order,
whatever failures lie between. -/
theorem remote_card_dealings (link : Link) (rounds : Nat)
    (hshut : link.shut = false) (hsink : link.stream.sink.Obliging)
    (hsource : .finish ∉ link.stream.source)
    (hrounds : link.span 65535 ≤ rounds) :
    Remote.attach.run Link.handler link = (some (.ok {}), link) ∧
    ∃ given, Gives link.stream.source given ∧
      ∀ ops : List Operation,
        questions (dealings (linked rounds) ops ({}, link)) <+: ops ∧
        ((∀ d ∈ dealings (linked rounds) ops ({}, link), d.answer ≠ none) →
          questions (dealings (linked rounds) ops ({}, link)) = ops) ∧
        ∀ earlier d later,
          dealings (linked rounds) ops ({}, link) = earlier ++ d :: later →
          Sound link given earlier d ∧ (d.answer = none → later = []) := by
  have hgives := gives_readings hsource
  refine ⟨rfl, _, hgives, ?_⟩
  intro ops
  obtain ⟨hpart, hall⟩ := questions_dealings (linked rounds) ops ({}, link)
  refine ⟨hpart, hall, ?_⟩
  intro earlier d later hds
  obtain ⟨hstanding, hd, hlast⟩ :=
    standing_dealings hshut hsink hrounds hds
  exact ⟨hstanding.sound hd hgives, hlast⟩

/-- A peer that takes one octet at first, interrupts once, and sends two
frames and a part of a third, with a failure inside the first. -/
def haltingLink : Link where
  stream := {
    source := [.octets [0x00, 0x02, 0x3b], .failure (.ofKind .timedOut),
      .octets [0x00, 0x00, 0x02, 0x90, 0x00, 0x00, 0x05, 0x01]]
    sink := { writes := [.ok 1, .error (.ofKind .interrupted)] } }

/-- Waits that fail, succeed and meet the end, a refused APDU, and more after
the card was ejected. -/
def haltingOps : List Operation :=
  [.powerOn, .atr, .transmit [0x00], .atr, .transmit [0x00, 0xa4],
    .transmit [0x00, 0xb0], .eject, .reset, .atr]

theorem remote_card_dealings_of_halting :
    haltingLink.stream.sink.Obliging ∧
    (dealings (linked 65600) haltingOps ({}, haltingLink)).map found =
      [none, some (.error (.frame (.io (.ofKind .timedOut)))),
        some (.error (.frame .ambiguousApdu)), some (.ok [0x3b, 0x00]),
        some (.ok [0x90, 0x00]), some (.error .remoteClosed), none, none,
        some (.error .ejected)] ∧
    (dealings (linked 65600) haltingOps ({}, haltingLink)).getLast?.map
        (·.after.2.stream.sink.accepted) =
      some (wires [[0x01], [0x04], [0x04], [0x00, 0xa4], [0x00, 0xb0]]) ∧
    ∃ given, Gives haltingLink.stream.source given ∧
      ∀ earlier d later,
        dealings (linked 65600) haltingOps ({}, haltingLink) =
          earlier ++ d :: later → Sound haltingLink given earlier d := by
  have hsink : haltingLink.stream.sink.Obliging := by
    refine ⟨?_, nofun⟩
    simp [haltingLink, IoError.ofKind, IoError.isInterrupted]
  obtain ⟨-, given, hgives, hall⟩ := remote_card_dealings haltingLink 65600
    rfl hsink (by decide) (by decide)
  refine ⟨hsink, rfl, rfl, given, hgives, ?_⟩
  intro earlier d later hds
  exact ((hall haltingOps).2.2 earlier d later hds).1

end CardBridge.Remote
