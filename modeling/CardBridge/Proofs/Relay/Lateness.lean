import CardBridge.Proofs.Relay.Delivery

/-!
# Replies that come late

A far card that answers every command with one frame, in order, but at times
so late that the wait for it has failed. Nothing on the wire ties a reply to
its command, so the replies are handed out in order to those who wait: as long
as no wait has failed everyone gets their own (`replies_in_order`), and from
then on everyone gets that of an earlier command (`late_reply_misdelivered`).
-/

namespace CardBridge.Remote

open Dialogue Session.Account CardBridge.Stream CardBridge.Frame Transport
  Card

variable {link : Link} {rounds : Nat} {replies : List Bytes}
  {ops : List Operation} {earlier later : List (Dealing Card (Remote × Link))}
  {d : Dealing Card (Remote × Link)} {s : Remote × Link}

/-- A wait that found nothing in its time. -/
def timedOut (d : Dealing Card (Remote × Link)) : Bool :=
  match found d with
  | some (.error (.frame e)) => e.isTimeout
  | _ => false

/-- The far card makes one of `replies` to each command that it is asked, in
order and not before it is asked. Until the octets arrive, waits fail in their
time. -/
structure Belated (link : Link) (replies : List Bytes)
    (ds : List (Dealing Card (Remote × Link))) : Prop where
  fit : Fit replies
  counted : replies.length = (asked (questions ds)).length
  octets : octetsOf link.stream.source <+: wires replies
  endless : .finish ∉ link.stream.source
  timeouts : ∀ cause ∈ faultsOf link.stream.source, cause.isTimeout = true
  silent : link.silent = true
  bounded : link.readTimeout ≠ none
  causal : ∀ earlier d later, ds = earlier ++ d :: later → ∃ received,
    octetsOf link.stream.source =
      received ++ octetsOf d.after.2.stream.source ∧
    received <+: wires (replies.take
      (asked (questions earlier ++ [d.question])).length)

/-- Whoever gets a reply gets the one that was made to their own command. -/
def OwnReplies (replies : List Bytes)
    (ds : List (Dealing Card (Remote × Link))) : Prop :=
  ∀ earlier d later payload, ds = earlier ++ d :: later →
    found d = some (.ok payload) →
      replies[(asked (questions earlier)).length]? = some payload

/-! ## Replies in order -/

theorem Belated.readings_part {ds : List (Dealing Card (Remote × Link))}
    (h : Belated link replies ds) :
    payloadsIn (readings [] link.stream.source) <+: replies := by
  have hpart := drain_prefix h.octets
  rw [drain_wires h.fit] at hpart
  rw [payloadsIn_readings h.endless]
  exact hpart

theorem payloadsIn_take_part (given : List Reading) (n : Nat) :
    payloadsIn (given.take n) <+: payloadsIn given := by
  conv => rhs; rw [← List.take_append_drop n given, payloadsIn_append]
  exact List.prefix_append _ _

/-- A reply that is delivered is the first of those that were not. -/
theorem Standing.reply_eq {ds : List (Dealing Card (Remote × Link))}
    (h : Standing link earlier d.before) (hd : Course d)
    (hlate : Belated link replies ds) {payload : Bytes}
    (hfound : found d = some (.ok payload)) :
    replies[(delivered earlier).length]? = some payload := by
  have hprogress := (h.progress hd).delivered
  rw [delivered_concat, hfound] at hprogress
  have hpart : delivered earlier ++ [payload] <+: replies := by
    rw [show delivered earlier ++ [payload] = _ from hprogress]
    exact (payloadsIn_take_part _ _).trans hlate.readings_part
  obtain ⟨rest, rfl⟩ := hpart
  simp

/-! ## Waits that failed -/

theorem Course.timedOut_of_idle (hd : Course d)
    (hejected : d.before.1.ejected = true ↔ .eject ∈ ops)
    (h : ¬ Awaits ops d.question) : timedOut d = false := by
  rcases hd.found_of_idle hejected h with
    hfound | hfound | ⟨apdu, e, hrefusal, hfound⟩
  · simp [timedOut, hfound]
  · simp [timedOut, hfound]
  · rcases refusal_apdu_eq_some hrefusal with rfl | rfl <;>
      simp [timedOut, hfound, FrameError.isTimeout]

theorem toOption_of_timedOut (h : timedOut d = true) :
    (found d).bind Except.toOption = none := by
  rw [timedOut] at h
  split at h
  · rename_i hfound
    rw [hfound]
    rfl
  · cases h

/-- A wait gives a reply or fails in its time. -/
theorem Standing.reply_or_timedOut {ds : List (Dealing Card (Remote × Link))}
    (h : Standing link earlier d.before) (hd : Course d)
    (hlate : Belated link replies ds)
    (hawaits : Awaits (questions earlier) d.question) :
    (∃ payload, found d = some (.ok payload)) ∨ timedOut d = true := by
  have hfound := h.found_eq hd hawaits
  cases hreading : (readings [] link.stream.source)[
      (asked (questions earlier)).length]? with
  | none =>
    obtain ⟨bound, hbound⟩ := Option.ne_none_iff_exists'.mp hlate.bounded
    rw [hreading, Link.lasting, hlate.silent, hbound] at hfound
    right
    rw [timedOut, hfound]
    rfl
  | some reading =>
    rw [hreading] at hfound
    cases reading with
    | ok payload => exact .inl ⟨payload, hfound⟩
    | error e =>
      have hmem := mem_errorsIn (List.mem_of_getElem? hreading)
      rw [errorsIn_readings hlate.endless] at hmem
      obtain ⟨cause, hcause, rfl⟩ := List.mem_map.mp hmem
      right
      rw [timedOut, hfound]
      exact hlate.timeouts cause hcause

/-- Of the commands so far each has its reply delivered by now, or else one
wait has failed for it. -/
def Counted (ds : List (Dealing Card (Remote × Link))) : Prop :=
  (asked (questions ds)).length = (delivered ds).length + ds.countP timedOut

theorem Standing.counted_next {ds : List (Dealing Card (Remote × Link))}
    (h : Standing link earlier d.before) (hd : Course d)
    (hlate : Belated link replies ds) (hcounted : Counted earlier) :
    Counted (earlier ++ [d]) := by
  rw [Counted] at hcounted ⊢
  rw [questions_concat, delivered_concat, List.countP_append,
    List.countP_singleton, List.length_append]
  by_cases hawaits : Awaits (questions earlier) d.question
  · rw [asked_concat_of_awaits hawaits, List.length_append,
      List.length_singleton]
    rcases h.reply_or_timedOut hd hlate hawaits with ⟨payload, hfound⟩ | htimeout
    · have hok : timedOut d = false := by simp [timedOut, hfound]
      simp only [hfound, hok, Option.bind_some, Except.toOption,
        Option.toList_some, List.length_singleton, Bool.false_eq_true,
        if_false]
      omega
    · rw [toOption_of_timedOut htimeout, htimeout, if_pos rfl,
        Option.toList_none, List.length_nil]
      omega
  · rw [asked_concat_of_not_awaits hawaits,
      hd.toOption_of_idle h.ejected hawaits,
      hd.timedOut_of_idle h.ejected hawaits]
    simpa using hcounted

/-- At every point of some dealings with a late card as many replies are
still to come as waits have failed. -/
theorem counted_dealings (hshut : link.shut = false)
    (hsink : link.stream.sink.Obliging)
    (hrounds : link.span maxPayload ≤ rounds)
    {ds : List (Dealing Card (Remote × Link))}
    (hlate : Belated link replies ds)
    (hds : dealings (linked rounds) ops ({}, link) =
      earlier ++ d :: later) : Counted earlier := by
  have hstep : ∀ ds' op s, Standing link ds' s ∧ Counted ds' →
      (dealing (linked rounds) op s).answer ≠ none →
      Standing link (ds' ++ [dealing (linked rounds) op s])
          (dealing (linked rounds) op s).after ∧
        Counted (ds' ++ [dealing (linked rounds) op s]) := by
    intro ds' op s hs hanswer
    have hd := hs.1.course hsink hrounds op
    exact ⟨hs.1.next hd hanswer, hs.1.counted_next hd hlate hs.2⟩
  have hopening : Standing link [] ({}, link) ∧ Counted [] :=
    ⟨standing_opening hshut, rfl⟩
  obtain ⟨-, ⟨-, hcounted⟩, -⟩ := dealings_keep hstep hopening hds
  exact hcounted

/-- The replies of a card that answers late are delivered in order. A wait
gives a reply or fails in its time. The reply is that to the command which was
asked as many commands ago as waits have failed, so it is the one that was
waited for as long as none has. -/
theorem replies_in_order (link : Link) (rounds : Nat) (ops : List Operation)
    (replies : List Bytes) (hshut : link.shut = false)
    (hsink : link.stream.sink.Obliging) (hrounds : link.span 65535 ≤ rounds)
    (hlate : Belated link replies
      (dealings (linked rounds) ops ({}, link))) :
    ∀ earlier d later,
      dealings (linked rounds) ops ({}, link) = earlier ++ d :: later →
      (Awaits (questions earlier) d.question →
        (∃ payload, found d = some (.ok payload)) ∨ timedOut d = true) ∧
      (asked (questions earlier)).length =
        (delivered earlier).length + earlier.countP timedOut ∧
      ∀ payload, found d = some (.ok payload) →
        replies[(delivered earlier).length]? = some payload ∧
        ((∀ d' ∈ earlier, timedOut d' = false) →
          replies[(asked (questions earlier)).length]? = some payload) := by
  intro earlier d later hds
  obtain ⟨hstanding, hd, -⟩ := standing_dealings hshut hsink hrounds hds
  have hcounted := counted_dealings hshut hsink hrounds hlate hds
  refine ⟨hstanding.reply_or_timedOut hd hlate, hcounted, ?_⟩
  intro payload hfound
  have hreply := hstanding.reply_eq hd hlate hfound
  refine ⟨hreply, ?_⟩
  intro hnone
  have hcount : earlier.countP timedOut = 0 := by
    rw [List.countP_eq_zero]
    intro d' hd'
    simp [hnone d' hd']
  rw [Counted, hcount, Nat.add_zero] at hcounted
  rw [hcounted]
  exact hreply

/-! ## A late reply -/

/-- A peer whose answer to reset comes in time, and whose response to the
first of two APDUs comes too late. -/
def tardyLink : Link where
  stream := {
    source := [.octets [0x00, 0x02, 0x3b, 0x00], .failure Link.nothingInTime,
      .octets [0x00, 0x02, 0x90, 0x00], .octets [0x00, 0x02, 0x6a, 0x82]] }
  silent := true
  readTimeout := some ⟨1⟩

def tardyOps : List Operation :=
  [.powerOn, .atr, .transmit [0x00, 0xa4], .transmit [0x00, 0xb0]]

def tardyReplies : List Bytes :=
  [[0x3b, 0x00], [0x90, 0x00], [0x6a, 0x82]]

/-- The parts of a list before, at and after each of its members. -/
theorem forall_parts_cons {α : Type} {P : List α → α → List α → Prop}
    {a : α} {as : List α} (hfirst : P [] a as)
    (hlater : ∀ before b after, as = before ++ b :: after →
      P (a :: before) b after) :
    ∀ before b after, a :: as = before ++ b :: after → P before b after := by
  intro before b after h
  cases before with
  | nil =>
    obtain ⟨rfl, rfl⟩ := List.cons.inj h
    exact hfirst
  | cons first before =>
    obtain ⟨rfl, hrest⟩ := List.cons.inj h
    exact hlater before b after hrest

theorem tardy_belated : Belated tardyLink tardyReplies
    (dealings (linked 65600) tardyOps ({}, tardyLink)) where
  fit := by simp [tardyReplies, maxPayload]
  counted := by rfl
  octets := by decide
  endless := by decide
  timeouts := by
    simp [tardyLink, faultsOf, Link.nothingInTime, IoError.isInterrupted,
      IoError.isTimeout]
  silent := rfl
  bounded := nofun
  causal := by
    refine forall_parts_cons ⟨[], rfl, List.nil_prefix⟩ ?_
    refine forall_parts_cons ⟨wires [[0x3b, 0x00]], rfl, by decide⟩ ?_
    refine forall_parts_cons ⟨wires [[0x3b, 0x00]], rfl, by decide⟩ ?_
    refine forall_parts_cons ⟨wires [[0x3b, 0x00], [0x90, 0x00]], rfl,
      by decide⟩ ?_
    intro before b after h
    exact absurd h.symm (List.append_ne_nil_of_right_ne_nil before
      (List.cons_ne_nil b after))

theorem tardy_obliging : tardyLink.stream.sink.Obliging :=
  ⟨List.forall_mem_nil _, nofun⟩

/-- The answer to reset is the one that was asked for. The response after a
wait that failed is not. -/
theorem replies_in_order_of_tardy :
    Belated tardyLink tardyReplies
      (dealings (linked 65600) tardyOps ({}, tardyLink)) ∧
    ∃ on atr first second,
      dealings (linked 65600) tardyOps ({}, tardyLink) =
        [on, atr, first, second] ∧
      found atr = some (.ok [0x3b, 0x00]) ∧
      tardyReplies[(asked (questions [on])).length]? = some [0x3b, 0x00] ∧
      timedOut first = true ∧ found second = some (.ok [0x90, 0x00]) ∧
      tardyReplies[(delivered [on, atr, first]).length]? =
        some [0x90, 0x00] := by
  have hall := replies_in_order tardyLink 65600 tardyOps tardyReplies rfl
    tardy_obliging (by decide) tardy_belated
  obtain ⟨on, atr, first, second, hds, hon, hatr, hfirst, hsecond⟩ :
      ∃ on atr first second,
        dealings (linked 65600) tardyOps ({}, tardyLink) =
          [on, atr, first, second] ∧ timedOut on = false ∧
        found atr = some (.ok [0x3b, 0x00]) ∧ timedOut first = true ∧
        found second = some (.ok [0x90, 0x00]) :=
    ⟨_, _, _, _, rfl, rfl, rfl, rfl, rfl⟩
  obtain ⟨-, -, hown⟩ := hall [on] atr [first, second] hds
  obtain ⟨-, -, hother⟩ := hall [on, atr, first] second [] hds
  have hnone : ∀ d ∈ [on], timedOut d = false := by simpa using hon
  exact ⟨tardy_belated, on, atr, first, second, hds, hatr,
    (hown _ hatr).2 hnone, hfirst, hsecond, (hother _ hsecond).1⟩

/-- The second APDU gets the response to the first, which came too late. -/
theorem late_reply_misdelivered :
    Belated tardyLink tardyReplies
      (dealings (linked 65600) tardyOps ({}, tardyLink)) ∧
    (dealings (linked 65600) tardyOps ({}, tardyLink)).map found =
      [none, some (.ok [0x3b, 0x00]),
        some (.error (.frame (.io Link.nothingInTime))),
        some (.ok [0x90, 0x00])] ∧
    ¬ OwnReplies tardyReplies
      (dealings (linked 65600) tardyOps ({}, tardyLink)) := by
  refine ⟨tardy_belated, rfl, ?_⟩
  intro hown
  obtain ⟨on, atr, first, second, hds, hasked, hsecond⟩ :
      ∃ on atr first second,
        dealings (linked 65600) tardyOps ({}, tardyLink) =
          [on, atr, first, second] ∧
        (asked (questions [on, atr, first])).length = 2 ∧
        found second = some (.ok [0x90, 0x00]) :=
    ⟨_, _, _, _, rfl, rfl, rfl⟩
  have hreply := hown [on, atr, first] second [] _ hds hsecond
  rw [hasked] at hreply
  exact absurd hreply (by decide)

end CardBridge.Remote
