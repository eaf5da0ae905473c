import CardBridge.Proofs.Frame.Reading
import CardBridge.Proofs.Frame.Receiving
import Mathlib.Data.List.DropRight

/-!
# What a reader asks its stream for

Calls for a frame in a row, at every point on the way. Each read asks for
what the header or the frame in progress lacks, up to one chunk
(`lacks_iff`, `wanted_eq`), so what was taken since the stream last ended is
the frames that were given since then and a part of the next one
(`Held`, `reads_within_frames`).
-/

namespace CardBridge.Frame

open Dialogue CardBridge.Stream

variable {buffer octets : Bytes} {m : Nat}

/-! ## What a buffer lacks -/

/-- So many octets are missing: from the header or, once that is there, from
the frame that it announces. -/
inductive Lacks : (buffer : Bytes) → Nat → Prop
  | header {buffer : Bytes} (h : buffer.length < headerSize) :
    Lacks buffer (headerSize - buffer.length)
  | frame {buffer more payload : Bytes} (h : headerSize ≤ buffer.length)
    (hpayload : payload.length ≤ maxPayload)
    (hwhole : buffer ++ more = wire payload) : Lacks buffer more.length

theorem missing_of_frame {more payload : Bytes}
    (h : headerSize ≤ buffer.length) (hpayload : payload.length ≤ maxPayload)
    (hwhole : buffer ++ more = wire payload) :
    missing buffer = more.length := by
  match buffer, h with
  | high :: low :: body, _ =>
    obtain ⟨hhigh, hwhole⟩ := List.cons.inj hwhole
    obtain ⟨hlow, hbody⟩ := List.cons.inj hwhole
    have hlength : announced high low = payload.length := by
      rw [hhigh, hlow]
      exact announced_header hpayload
    have hbody : body ++ more = payload := hbody
    rw [missing, hlength, ← hbody, List.length_append]
    omega

/-- A buffer without a complete frame lacks what `missing` counts. -/
theorem lacks_iff (h : decode? buffer = none) :
    Lacks buffer m ↔ m = missing buffer := by
  constructor
  · intro hlacks
    cases hlacks with
    | header hshort =>
      match buffer, hshort with
      | [], _ | [_], _ => rfl
    | frame hlong hpayload hwhole =>
      exact (missing_of_frame hlong hpayload hwhole).symm
  · rintro rfl
    match buffer, h with
    | [], _ => exact .header (by decide)
    | [_], _ => exact .header (Nat.lt_succ_self 1)
    | high :: low :: body, h =>
      have hle := announced_le high low
      have hshort : body.length < announced high low := by
        rw [decode?] at h
        split at h
        · cases h
        · omega
      -- any octets complete the frame, if there are enough of them
      have hmore : (List.replicate (announced high low - body.length)
          (0 : UInt8)).length = missing (high :: low :: body) :=
        List.length_replicate ..
      rw [← hmore]
      have hlength : (body ++ List.replicate
          (announced high low - body.length) 0).length =
            announced high low := by
        rw [List.length_append, List.length_replicate]
        omega
      refine .frame (Nat.le_add_left ..) (hlength ▸ hle) ?_
      rw [wire, hlength, header_announced]
      rfl

/-- The lower bound of a request is never what decides. -/
theorem wanted_eq (h : decode? buffer = none) :
    wanted buffer = min chunkSize (missing buffer) := by
  have hpos := (missing_of_unfinished h).1
  have hchunk : chunkSize = 4096 := rfl
  rw [wanted]
  omega

/-! ## Since the stream last ended -/

/-- A read that has met the end of the stream. -/
def endsStream : Exchange Stream → Bool
  | ⟨.receive _, .ok []⟩ => true
  | _ => false

def isClosed : Reading → Bool
  | .error .connectionClosed => true
  | _ => false

/-- The octets that were read since the stream last ended. -/
def sinceEnd (said : List (Exchange Stream)) : Bytes :=
  receivedIn (said.rtakeWhile (!endsStream ·))

/-- The payloads that were given since the stream last ended. -/
def sinceClosed (given : List Reading) : List Bytes :=
  payloadsIn (given.rtakeWhile (!isClosed ·))

section

variable (said : List (Exchange Stream)) (given : List Reading)

theorem sinceEnd_concat {exchange : Exchange Stream}
    (h : endsStream exchange = false) :
    sinceEnd (said ++ [exchange]) = sinceEnd said ++ received exchange := by
  simp [sinceEnd, h]

theorem sinceEnd_end (size : Nat) :
    sinceEnd (said ++ [⟨.receive size, .ok []⟩]) = [] := by
  simp [sinceEnd, endsStream]

@[simp] theorem sinceClosed_ok (payload : Bytes) :
    sinceClosed (given ++ [.ok payload]) = sinceClosed given ++ [payload] := by
  simp [sinceClosed, isClosed, payloadsIn, Except.toOption]

@[simp] theorem sinceClosed_io (cause : IoError) :
    sinceClosed (given ++ [.error (.io cause)]) = sinceClosed given := by
  simp [sinceClosed, isClosed, payloadsIn, Except.toOption]

@[simp] theorem sinceClosed_closed :
    sinceClosed (given ++ [closed]) = [] := by
  simp [sinceClosed, isClosed, payloadsIn]

end

/-- What is read is taken off the front of the source. -/
theorem octetsOf_receive (size : Nat) (source : Source) :
    octetsOf source =
      received ⟨.receive size, (source.receive size).1⟩ ++
        octetsOf (source.receive size).2 := by
  fun_induction Source.receive size source with
  | case1 => rfl
  | case2 rest ih => exact ih
  | case3 chunk rest hchunk hdrop =>
    have hsplit := List.take_append_drop size chunk
    rw [hdrop, List.append_nil] at hsplit
    simp [octetsOf, received, hsplit]
  | case4 chunk rest hchunk hdrop =>
    have hsplit := List.take_append_drop size chunk
    simp only [octetsOf, received]
    rw [← List.append_assoc, hsplit]
  | case5 cause rest => rfl
  | case6 rest => rfl

/-! ## In the middle of some calls -/

/-- The calls that are left after some that have given these readings. -/
def proceed (rounds : Nat) (given : List Reading) (calls : Nat)
    (buffer : Bytes) : Dialogue Stream (List Reading × Bytes) := do
  let (later, last) ← receiveTimes rounds calls buffer
  return (given ++ later, last)

/-- What is left in the middle of a call that holds `buffer` and may go on
for `left` rounds. -/
def resume (rounds left : Nat) (given : List Reading) (calls : Nat)
    (buffer : Bytes) : Dialogue Stream (List Reading × Bytes) := do
  let (reading, kept) ← receive left buffer
  proceed rounds (given ++ [reading]) calls kept

theorem proceed_zero (rounds : Nat) (given : List Reading) (buffer : Bytes) :
    proceed rounds given 0 buffer = .done (given, buffer) := by
  simp [proceed, receiveTimes]

theorem proceed_succ (rounds : Nat) (given : List Reading) (calls : Nat)
    (buffer : Bytes) :
    proceed rounds given (calls + 1) buffer =
      resume rounds rounds given calls buffer := by
  simp [proceed, resume, receiveTimes]

theorem proceed_nil (rounds calls : Nat) (buffer : Bytes) :
    proceed rounds [] calls buffer = receiveTimes rounds calls buffer :=
  bind_done (receiveTimes rounds calls buffer)

/-- What a reader has in hand between two reads, and what is left for it:
since the stream last ended it has taken the frames that it gave and the part
of the next one in its buffer. -/
structure Held (script : Source) (given : List Reading) (buffer : Bytes)
    (source : Source) (said : List (Exchange Stream)) : Prop where
  unfinished : Unfinished buffer
  bounded : buffer.length ≤ 65536
  fit : Fit (sinceClosed given)
  taken_eq : sinceEnd said = wires (sinceClosed given) ++ buffer
  left_eq : octetsOf script = receivedIn said ++ octetsOf source

/-- A point on the way of some calls, of which `total` were to be made: what
is left of them is the rest of a call that is about to read, or their
result. -/
inductive Point (script : Source) (rounds total : Nat)
    (d : Dialogue Stream (List Reading × Bytes)) :
    Scripted × List (Exchange Stream) → Prop
  /-- The read asks for what the buffer lacks, which is something, or for
  one chunk of it. The rounds suffice for what the script has left. -/
  | reading {left calls m : Nat} {given : List Reading} {buffer : Bytes}
    {next : Except IoError Bytes → Dialogue Stream (List Reading × Bytes)}
    {state : Scripted} {said : List (Exchange Stream)}
    (hd : d = resume rounds left given calls buffer)
    (hspan : state.source.span < left) (hleft : left ≤ rounds)
    (hcount : given.length + calls + 1 = total)
    (hheld : Held script given buffer state.source said)
    (hasks : d = .ask (.receive (min 4096 m)) next)
    (hlacks : ∀ n, Lacks buffer n ↔ n = m) (hpos : 1 ≤ m) :
    Point script rounds total d (state, said)
  | ended {given : List Reading} {buffer : Bytes} {state : Scripted}
    {said : List (Exchange Stream)} (hd : d = .done (given, buffer))
    (hcount : given.length = total)
    (hheld : Held script given buffer state.source said)
    (hlast : ∀ payload, given.getLast? = some (.ok payload) → buffer = []) :
    Point script rounds total d (state, said)

section

variable {script : Source} {rounds left calls total : Nat}
  {given : List Reading} {reading : Reading} {kept : Bytes}
  {state : Scripted} {later : Source} {said : List (Exchange Stream)}

theorem held_of_unfinished (hbuffer : decode? buffer = none)
    (hfit : Fit (sinceClosed given))
    (htaken : sinceEnd said = wires (sinceClosed given) ++ buffer)
    (hleft : octetsOf script = receivedIn said ++ octetsOf later) :
    Held script given buffer later said where
  unfinished := decode?_eq_none_iff.mp hbuffer
  bounded := Nat.le_of_lt_succ (length_lt_of_unfinished hbuffer)
  fit := hfit
  taken_eq := htaken
  left_eq := hleft

/-- What is asked next, in the middle of a call. -/
theorem resume_eq_ask (h : decode? buffer = none) :
    resume rounds (left + 1) given calls buffer =
      .ask (.receive (wanted buffer)) fun
        | .ok [] => proceed rounds (given ++ [closed]) calls []
        | .ok octets => resume rounds left given calls (buffer ++ octets)
        | .error cause =>
          if cause.isInterrupted then resume rounds left given calls buffer
          else proceed rounds (given ++ [.error (.io cause)]) calls buffer := by
  rw [resume, receive, h]
  refine congrArg (ask (I := Stream) _) (funext fun answer => ?_)
  rcases answer with cause | (_ | ⟨octet, octets⟩)
  · by_cases hcause : cause.isInterrupted = true
    · simp only [hcause, if_true]
      rfl
    · simp only [hcause, Bool.false_eq_true, if_false]
      rfl
  · rfl
  · rfl

/-- A call that holds an unfinished frame is about to read. -/
theorem Held.point (h : Held script given buffer state.source said)
    (hspan : state.source.span < left) (hleft : left ≤ rounds)
    (hcount : given.length + calls + 1 = total) :
    Point script rounds total (resume rounds left given calls buffer)
      (state, said) := by
  have hbuffer := decode?_eq_none_iff.mpr h.unfinished
  obtain ⟨n, rfl⟩ : ∃ n, left = n + 1 := ⟨left - 1, by omega⟩
  have hasks := @resume_eq_ask buffer rounds n calls given hbuffer
  rw [wanted_eq hbuffer] at hasks
  exact .reading rfl hspan hleft hcount h hasks (fun _ => lacks_iff hbuffer)
    (missing_of_unfinished hbuffer).1

/-- A call is over: the next one begins, or there is none. -/
theorem Held.point_after
    (h : Held script (given ++ [reading]) kept state.source said)
    (hspan : state.source.span < rounds)
    (hcount : given.length + calls + 1 = total)
    (hlast : ∀ payload, reading = .ok payload → kept = []) :
    Point script rounds total (proceed rounds (given ++ [reading]) calls kept)
      (state, said) := by
  cases calls with
  | zero =>
    refine .ended (proceed_zero ..) (by simpa using hcount) h ?_
    intro payload hpayload
    rw [List.getLast?_concat] at hpayload
    exact hlast payload (Option.some.inj hpayload)
  | succ calls =>
    rw [proceed_succ]
    refine h.point hspan (Nat.le_refl rounds) ?_
    simp only [List.length_append, List.length_singleton]
    omega

/-- The octets that a read gives are more of the frame in progress, or
complete it. -/
theorem Held.point_octets (hheld : Held script given buffer state.source said)
    (hspan : later.span < left) (hleft : left ≤ rounds)
    (hcount : given.length + calls + 1 = total)
    (hhonest : octets.length ≤ wanted buffer) (hpos : octets ≠ [])
    (hlater : octetsOf state.source = octets ++ octetsOf later) :
    Point script rounds total
      (resume rounds left given calls (buffer ++ octets))
      ({ state with source := later },
        said ++ [⟨.receive (wanted buffer), .ok octets⟩]) := by
  have hbuffer := decode?_eq_none_iff.mpr hheld.unfinished
  have hends : endsStream ⟨.receive (wanted buffer), .ok octets⟩ = false := by
    cases octets with
    | nil => exact absurd rfl hpos
    | cons octet octets => rfl
  have htaken := sinceEnd_concat said hends
  rw [hheld.taken_eq, List.append_assoc] at htaken
  have hnext : octetsOf script = receivedIn
      (said ++ [⟨.receive (wanted buffer), .ok octets⟩]) ++ octetsOf later := by
    rw [hheld.left_eq, hlater, receivedIn_concat, List.append_assoc]
    rfl
  cases hdecode : decode? (buffer ++ octets) with
  | none =>
    exact (held_of_unfinished hdecode hheld.fit htaken hnext).point hspan
      hleft hcount
  | some frame =>
    obtain ⟨payload, rest⟩ := frame
    obtain rfl := rest_of_wanted hbuffer hhonest hdecode
    obtain ⟨hpayload, hframe⟩ := decode?_eq_some_iff.mp hdecode
    obtain ⟨left, rfl⟩ : ∃ n, left = n + 1 := ⟨left - 1, by omega⟩
    have hresume : resume rounds (left + 1) given calls (buffer ++ octets) =
        proceed rounds (given ++ [.ok payload]) calls [] := by
      rw [resume, receive, hdecode]
      rfl
    rw [hresume]
    refine Held.point_after (held_of_unfinished rfl ?_ ?_ hnext)
      (Nat.lt_of_lt_of_le hspan hleft) hcount fun _ _ => rfl
    · simp [hheld.fit, hpayload]
    · rw [htaken]
      simpa [received] using hframe

/-- A read that fails takes nothing. -/
theorem Held.failing (h : Held script given buffer state.source said)
    {given' : List Reading} (hgiven : sinceClosed given' = sinceClosed given)
    (hlater : octetsOf state.source = octetsOf later) (size : Nat)
    (cause : IoError) :
    Held script given' buffer later
      (said ++ [⟨.receive size, .error cause⟩]) where
  unfinished := h.unfinished
  bounded := h.bounded
  fit := hgiven ▸ h.fit
  taken_eq := by
    rw [sinceEnd_concat said rfl, h.taken_eq, hgiven]
    exact List.append_nil _
  left_eq := by
    rw [h.left_eq, receivedIn_concat, hlater]
    simp [received]

/-- After an end, a reader has nothing in hand. -/
theorem Held.ending (h : Held script given buffer state.source said)
    (hlater : octetsOf state.source = octetsOf later) (size : Nat) :
    Held script (given ++ [closed]) [] later
      (said ++ [⟨.receive size, .ok []⟩]) := by
  refine held_of_unfinished rfl ?_ ?_ ?_
  · simp
  · simp [sinceEnd_end]
  · rw [h.left_eq, receivedIn_concat, hlater]
    simp [received]

/-- Whatever the script answers, the calls go on from a state of the same
kind. -/
theorem Point.step {q : Stream.Ask}
    {next : Stream.Answer q → Dialogue Stream (List Reading × Bytes)}
    {w w' : Scripted × List (Exchange Stream)} {a : Stream.Answer q}
    (h : Point script rounds total (.ask q next) w)
    (ha : Scripted.handler.noted.surroundings q w a w') :
    Point script rounds total (next a) w' := by
  cases h with
  | ended hd => cases hd
  | @reading left calls _ given buffer _ state said hd hspan hleft hcount
      hheld =>
    have hbuffer := decode?_eq_none_iff.mpr hheld.unfinished
    obtain ⟨left, rfl⟩ : ∃ n, left = n + 1 := ⟨left - 1, by omega⟩
    rw [resume_eq_ask hbuffer] at hd
    cases hd
    obtain ⟨answer, later, hreceive, hanswer⟩ :=
      readings_receive hbuffer (wanted_pos buffer) state.source
    have hlater := octetsOf_receive (wanted buffer) state.source
    have hhonest := honest_receive (wanted buffer) state.source
    simp only [Handler.surroundings, Handler.noted, Scripted.handler,
      hreceive, Prod.mk.injEq, Option.some.injEq] at ha
    rw [hreceive] at hlater hhonest
    obtain ⟨rfl, rfl⟩ := ha
    rcases answer with cause | (_ | ⟨octet, octets⟩)
    · have hspan' : later.span < left := by omega
      have hsource : octetsOf state.source = octetsOf later := hlater
      by_cases hcause : cause.isInterrupted = true
      · simp only [hcause, if_true]
        exact (hheld.failing rfl hsource _ cause).point hspan' (by omega)
          hcount
      · simp only [hcause, Bool.false_eq_true, if_false]
        have hrounds : later.span < rounds := by omega
        exact (hheld.failing (sinceClosed_io given cause) hsource _
          cause).point_after hrounds hcount fun _ h => by cases h
    · have hrounds : later.span < rounds := by omega
      exact (hheld.ending hlater _).point_after hrounds hcount
        fun _ h => by cases h
    · exact hheld.point_octets (by omega) (by omega) hcount hhonest
        (List.cons_ne_nil octet octets) hlater

theorem point_opening (script : Scripted)
    (hrounds : script.source.span < rounds) (calls : Nat) :
    Point script.source rounds calls (receiveTimes rounds calls [])
      (script, []) := by
  have hheld : Held script.source [] [] script.source [] :=
    held_of_unfinished rfl fit_nil rfl rfl
  rw [← proceed_nil]
  cases calls with
  | zero => exact .ended (proceed_zero ..) rfl hheld fun _ _ => rfl
  | succ calls =>
    rw [proceed_succ]
    exact hheld.point hrounds (Nat.le_refl rounds)
      (Nat.succ_inj.mpr (Nat.zero_add calls))

end

/-- At every point of some calls for a frame, however the stream is cut,
interrupted, failed and ended, the next read asks for the smaller of one chunk
and what the header or the frame in progress lacks. What was taken since the
stream last ended is the frames given since then and an unfinished buffer;
that is empty whenever a call has given a frame. -/
theorem reads_within_frames (script : Scripted) (rounds : Nat)
    (hrounds : script.source.span < rounds) (calls : Nat) :
    (receiveTimes rounds calls []).Throughout
      Scripted.handler.noted.surroundings (Point script.source rounds calls)
      (script, []) ∧
    ∃ given kept state said,
      (receiveTimes rounds calls []).run Scripted.handler.noted (script, []) =
        (some (given, kept), state, said) ∧
      given.length = calls ∧
      Held script.source given kept state.source said ∧
      ∀ payload, given.getLast? = some (.ok payload) →
        kept = [] ∧ sinceEnd said = wires (sinceClosed given) := by
  have hpoints : (receiveTimes rounds calls []).Throughout
      Scripted.handler.noted.surroundings (Point script.source rounds calls)
      (script, []) :=
    throughout_of_step (point_opening script hrounds calls)
      fun _ _ _ _ _ => Point.step
  have hcut (w : Scripted × List (Exchange Stream)) :
      ¬ Point script.source rounds calls .cut w := by
    intro h
    cases h with
    | reading _ _ _ _ _ hasks => cases hasks
    | ended hd => cases hd
  have hanswer (q : Stream.Ask) (w : Scripted × List (Exchange Stream)) :
      ∃ a w', Scripted.handler.noted q w = (some a, w') := by
    cases q <;> exact ⟨_, _, rfl⟩
  refine ⟨hpoints, ?_⟩
  obtain ⟨r, w, hrun, hend⟩ := hpoints.run_ends hcut hanswer
  cases hend with
  | reading _ _ _ _ _ hasks => cases hasks
  | @ended given buffer state said hd hcount hheld hlast =>
    cases hd
    refine ⟨given, buffer, state, said, hrun, hcount, hheld, ?_⟩
    intro payload hpayload
    have hempty := hlast payload hpayload
    have htaken := hheld.taken_eq
    rw [hempty, List.append_nil] at htaken
    exact ⟨hempty, htaken⟩

/-- Three calls give a frame, a failure and the end of the stream, where an
unfinished frame is dropped; the fourth begins anew. -/
theorem reads_within_frames_of_broken :
    Source.span brokenScript < 13 ∧
    (receiveTimes 13 4 []).Throughout Scripted.handler.noted.surroundings
      (Point brokenScript 13 4) ({ source := brokenScript }, []) ∧
    ∃ given kept state said,
      (receiveTimes 13 4 []).run Scripted.handler.noted
          ({ source := brokenScript }, []) =
        (some (given, kept), state, said) ∧
      given = [.ok [0x04], .error (.io (.ofKind .timedOut)), closed, .ok []] ∧
      kept = [] ∧ sinceEnd said = [0x00, 0x00] ∧
      Held brokenScript given kept state.source said := by
  have hrounds : Source.span brokenScript < 13 := by decide
  obtain ⟨hpoints, given, kept, state, said, hrun, -, hheld, hlast⟩ :=
    reads_within_frames { source := brokenScript } 13 hrounds 4
  refine ⟨hrounds, hpoints, given, kept, state, said, hrun, ?_⟩
  have hgiven : given =
      [.ok [0x04], .error (.io (.ofKind .timedOut)), closed, .ok []] :=
    congrArg Prod.fst (Option.some.inj (congrArg Prod.fst hrun)).symm
  obtain ⟨hkept, htaken⟩ := hlast [] (by rw [hgiven]; rfl)
  refine ⟨hgiven, hkept, ?_, hheld⟩
  rw [htaken, hgiven]
  rfl

end CardBridge.Frame
