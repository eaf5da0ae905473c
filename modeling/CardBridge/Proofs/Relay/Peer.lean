import CardBridge.Proofs.Frame.Reading
import CardBridge.Proofs.Frame.Transfer
import CardBridge.Transport.Link

/-!
# Frames over a connection to a scripted peer

What it takes to send a frame to a peer that accepts everything sooner or
later, and what a wait for a frame of the peer gives. Sending uses up some of
the script for what the peer accepts and leaves what it sends alone; waiting
does the opposite.
-/

namespace CardBridge

open Dialogue CardBridge.Stream

namespace Stream

/-- A sink that is interrupted at most, and accepts something of whatever it
is offered. -/
structure Sink.Obliging (sink : Sink) : Prop where
  writes : ∀ entry ∈ sink.writes,
    match entry with
    | .ok most => 0 < most
    | .error cause => cause.isInterrupted = true
  flushes : ∀ cause, .error cause ∈ sink.flushes → cause.isInterrupted = true

/-- A sink that has gone on to accept `octets`. -/
structure Took (sink : Sink) (octets : Bytes) (later : Sink) : Prop where
  accepted : later.accepted = sink.accepted ++ octets
  writes : later.writes <:+ sink.writes
  flushes : later.flushes <:+ sink.flushes

variable {sink later last : Sink} {octets more : Bytes}

theorem Took.refl (sink : Sink) : Took sink [] sink :=
  ⟨(List.append_nil _).symm, List.suffix_rfl, List.suffix_rfl⟩

theorem Took.trans (h : Took sink octets later) (h' : Took later more last) :
    Took sink (octets ++ more) last := by
  refine ⟨?_, h'.writes.trans h.writes, h'.flushes.trans h.flushes⟩
  rw [h'.accepted, h.accepted, List.append_assoc]

theorem Took.obliging (h : Took sink octets later) (hsink : sink.Obliging) :
    later.Obliging :=
  ⟨fun entry hentry => hsink.writes entry (h.writes.subset hentry),
    fun cause hcause => hsink.flushes cause (h.flushes.subset hcause)⟩

theorem Took.span_le (h : Took sink octets later) (size : Nat) :
    later.span size ≤ sink.span size := by
  have hwrites := h.writes.length_le
  have hflushes := h.flushes.length_le
  simp only [Sink.span]
  omega

/-- Before the last octet and the last entry of its script, a source meets
its end only where the script has one. -/
theorem Source.receive_end {source rest : Source} {buffer : Bytes} {size : Nat}
    (hsize : 0 < size) (hleft : source.isExhausted = false)
    (h : source.receive size = (.ok [], rest))
    (hbuffer : Frame.decode? buffer = none) :
    Frame.readings buffer source =
      Frame.closed :: Frame.readings [] rest := by
  induction source with
  | nil => cases hleft
  | cons arrival source ih =>
    match arrival, h with
    | .octets [], h =>
      have hreadings := ih (by simpa [isExhausted] using hleft) h
      simpa [Frame.readings] using hreadings
    | .octets (octet :: octets), h =>
      -- at least one octet is taken of a piece that has some
      obtain ⟨size, rfl⟩ : ∃ n, size = n + 1 := ⟨size - 1, by omega⟩
      simp only [Source.receive] at h
      split at h <;> simp at h
    | .finish, h =>
      obtain ⟨-, rfl⟩ := Prod.mk.inj h
      simp [Frame.readings, Frame.drain_of_none hbuffer]

/-- Nothing is read where nothing is left. -/
theorem Source.readings_of_isExhausted {source : Source}
    (h : source.isExhausted = true) (buffer : Bytes) :
    Frame.readings buffer source = (Frame.drain buffer).1.map .ok := by
  induction source with
  | nil => rfl
  | cons arrival source ih =>
    simp only [isExhausted, List.all_cons, Bool.and_eq_true,
      beq_iff_eq] at h ih
    obtain ⟨rfl, h⟩ := h
    simpa [Frame.readings] using ih h

end Stream

namespace Transport.Link

open CardBridge.Frame

variable {w : Link} {rounds : Nat}

/-- What is answered to a procedure on the stream. -/
def streaming : Handler Stream Link :=
  fun q => handler (.stream q)

/-- A procedure on the stream asks nothing else of a connection. -/
theorem run_talk {α : Type} (d : Dialogue Stream α) (w : Link) :
    (Socket.talk d).run handler w = d.run streaming w := by
  induction d generalizing w with
  | done a => rfl
  | cut => rfl
  | ask q next ih =>
    simp only [Socket.talk, embed, run, streaming] at ih ⊢
    rcases handler (.stream q) w with ⟨_ | answer, w'⟩
    · rfl
    · exact ih answer w'

/-- The same connection, with another part of its script still to come. -/
def withSink (w : Link) (sink : Sink) : Link :=
  { w with stream := { w.stream with sink } }

def withSource (w : Link) (source : Source) : Link :=
  { w with stream := { w.stream with source } }

/-! ## Sending -/

theorem run_flush (hsink : w.stream.sink.Obliging)
    (hrounds : w.stream.sink.flushes.length < rounds) :
    ∃ sink, (flush rounds).run streaming w =
        (some (.ok ()), w.withSink sink) ∧ Took w.stream.sink [] sink := by
  induction rounds generalizing w with
  | zero => omega
  | succ rounds ih =>
    cases hflushes : w.stream.sink.flushes with
    | nil =>
      refine ⟨w.stream.sink, ?_, .refl _⟩
      simp [flush, run, streaming, handler, Sink.flush, hflushes, withSink]
    | cons result flushes =>
      have htook : Took w.stream.sink [] { w.stream.sink with flushes } := by
        refine ⟨(List.append_nil _).symm, List.suffix_rfl, ?_⟩
        rw [hflushes]
        exact List.suffix_cons result flushes
      cases result with
      | ok =>
        refine ⟨_, ?_, htook⟩
        simp [flush, run, streaming, handler, Sink.flush, hflushes, withSink]
      | error cause =>
        have hcause := hsink.flushes cause (by simp [hflushes])
        rw [hflushes, List.length_cons] at hrounds
        obtain ⟨sink, hrun, hlater⟩ :=
          @ih (w.withSink { w.stream.sink with flushes })
            (htook.obliging hsink) (by simp only [withSink]; omega)
        refine ⟨sink, ?_, htook.trans hlater⟩
        simpa [flush, run, streaming, handler, Sink.flush, hflushes, hcause,
          withSink] using hrun

/-- An obliging sink accepts something of an offer, unless it interrupts, and
either brings the end of a frame nearer. -/
theorem exists_send {sink : Sink} (hsink : sink.Obliging) (octet : UInt8)
    (octets : Bytes) :
    ∃ answer later, sink.send (octet :: octets) = (answer, later) ∧
      match answer with
      | .ok 0 => False
      | .ok (taken + 1) =>
        Took sink ((octet :: octets).take (taken + 1)) later ∧
          later.span ((octet :: octets).drop (taken + 1)).length <
            sink.span (octet :: octets).length
      | .error cause => cause.isInterrupted = true ∧ Took sink [] later ∧
          later.span (octet :: octets).length <
            sink.span (octet :: octets).length := by
  cases hwrites : sink.writes with
  | nil =>
    refine ⟨.ok (octets.length + 1),
      { sink with accepted := sink.accepted ++ octet :: octets },
      by simp [Sink.send, hwrites], ⟨?_, List.suffix_rfl, List.suffix_rfl⟩, ?_⟩
    · rw [List.take_of_length_le (by simp)]
    · simp only [Sink.span, List.length_drop, List.length_cons]
      omega
  | cons entry writes =>
    have hsuffix : writes <:+ sink.writes := by
      rw [hwrites]
      exact List.suffix_cons entry writes
    have hentry := hsink.writes entry (by simp [hwrites])
    match entry, hentry with
    | .error cause, hcause =>
      refine ⟨.error cause, { sink with writes }, by simp [Sink.send, hwrites],
        hcause, ⟨(List.append_nil _).symm, hsuffix, List.suffix_rfl⟩, ?_⟩
      simp only [Sink.span, hwrites, List.length_cons]
      omega
    | .ok (most + 1), _ =>
      have htaken : (octet :: octets).take (min most octets.length + 1) =
          (octet :: octets).take (most + 1) := by
        rw [List.take_eq_take_iff, List.length_cons]
        omega
      refine ⟨.ok (min most octets.length + 1),
        { sink with
          writes, accepted := sink.accepted ++ (octet :: octets).take (most + 1) },
        by simp [Sink.send, hwrites], ⟨?_, hsuffix, List.suffix_rfl⟩, ?_⟩
      · rw [htaken]
      · simp only [Sink.span, hwrites, List.length_drop, List.length_cons]
        omega

theorem run_write (hshut : w.shut = false) (hsink : w.stream.sink.Obliging)
    (pending : Bytes)
    (hrounds : w.stream.sink.span pending.length < rounds) :
    ∃ sink, (write rounds pending).run streaming w =
        (some (.ok ()), w.withSink sink) ∧
      Took w.stream.sink pending sink := by
  induction rounds generalizing w pending with
  | zero => omega
  | succ rounds ih =>
    cases pending with
    | nil =>
      have hflushes : w.stream.sink.flushes.length < rounds + 1 := by
        simp only [Sink.span] at hrounds
        omega
      exact run_flush hsink hflushes
    | cons octet octets =>
      obtain ⟨answer, later, hsend, hanswer⟩ := exists_send hsink octet octets
      have hhandler : streaming (.send (octet :: octets)) w =
          (some answer, w.withSink later) := by
        simp [streaming, handler, hshut, hsend, withSink]
      match answer, hanswer with
      | .ok (taken + 1), ⟨htook, hspan⟩ =>
        obtain ⟨sink, hrun, hlater⟩ :=
          @ih (w.withSink later) hshut (htook.obliging hsink)
            ((octet :: octets).drop (taken + 1))
            (by simp only [withSink]; omega)
        refine ⟨sink, ?_, ?_⟩
        · simpa [write, run, hhandler, withSink] using hrun
        · have hall := htook.trans hlater
          rwa [List.take_append_drop] at hall
      | .error cause, ⟨hcause, htook, hspan⟩ =>
        obtain ⟨sink, hrun, hlater⟩ :=
          @ih (w.withSink later) hshut (htook.obliging hsink)
            (octet :: octets) (by simp only [withSink]; omega)
        refine ⟨sink, ?_, htook.trans hlater⟩
        simpa [write, run, hhandler, hcause, withSink] using hrun

/-- A payload that fits is sent in full. -/
theorem run_send (hshut : w.shut = false) (hsink : w.stream.sink.Obliging)
    {payload : Bytes} (hfits : payload.length ≤ maxPayload)
    (hrounds : w.span maxPayload ≤ rounds) :
    ∃ sink, (send rounds payload).run streaming w =
        (some (.ok ()), w.withSink sink) ∧
      Took w.stream.sink (wire payload) sink := by
  rw [send_of_fits hfits]
  refine run_write hshut hsink (wire payload) ?_
  simp only [span, Sink.span, length_wire] at hrounds ⊢
  omega

/-! ## Waiting -/

/-- What a wait finds where nothing more is to come: the end, or nothing in
its time. A silent connection without a bound keeps it for ever. -/
def lasting (w : Link) : Option Reading :=
  if w.silent then w.readTimeout.map fun _ => .error (.io nothingInTime)
  else some closed

/-- What a wait comes to for someone with `buffer` in hand: it has found the
next of the readings that the script has left, or else what lasts, and all
the others are left for later waits. -/
structure Waited (w : Link) (buffer : Bytes)
    (found : Option (Reading × Bytes)) (source : Source) : Prop where
  span : source.span ≤ w.stream.source.span
  reading : found.map (·.1) =
    (readings buffer w.stream.source).head?.or w.lasting
  kept : ∀ reading kept, found = some (reading, kept) →
    readings kept source = (readings buffer w.stream.source).tail

variable {buffer : Bytes} {found : Option (Reading × Bytes)}
  {source : Source}

theorem waited_of_cons {reading : Reading} {kept : Bytes}
    (hspan : source.span ≤ w.stream.source.span)
    (h : readings buffer w.stream.source =
      reading :: readings kept source) :
    Waited w buffer (some (reading, kept)) source := by
  refine ⟨hspan, by rw [h]; rfl, ?_⟩
  intro reading' kept' heq
  obtain ⟨-, rfl⟩ := Prod.mk.inj (Option.some.inj heq)
  rw [h, List.tail_cons]

/-- A read that the wait goes on after makes no difference to it. -/
theorem Waited.of_later {buffer' : Bytes} {later : Source}
    (h : Waited (w.withSource later) buffer' found source)
    (hspan : later.span < w.stream.source.span)
    (hreadings : readings buffer w.stream.source = readings buffer' later) :
    Waited w buffer found source := by
  obtain ⟨hle, hreading, hkept⟩ := h
  refine ⟨Nat.le_trans hle (Nat.le_of_lt hspan), ?_, ?_⟩
  · rw [hreadings]
    exact hreading
  · rw [hreadings]
    exact hkept

theorem streaming_of_isExhausted (size : Nat) (hshut : w.shut = false)
    (h : w.stream.source.isExhausted = true) :
    streaming (.receive size) w =
      (if w.silent then w.readTimeout.map fun _ => .error nothingInTime
        else some (.ok []), w) := by
  cases hsilent : w.silent with
  | false => simp [streaming, handler, h, hsilent]
  | true => cases hbound : w.readTimeout <;>
      simp [streaming, handler, h, hshut, hsilent, hbound]

/-- Where nothing is left, a wait finds what lasts. -/
theorem run_receive_of_isExhausted (hshut : w.shut = false)
    (h : w.stream.source.isExhausted = true) (hbuffer : decode? buffer = none)
    (rounds : Nat) :
    ∃ found, (receive (rounds + 1) buffer).run streaming w = (found, w) ∧
      Waited w buffer found w.stream.source := by
  have hnone : ∀ buffer, decode? buffer = none →
      readings buffer w.stream.source = [] := by
    intro buffer hbuffer
    rw [Source.readings_of_isExhausted h, drain_of_none hbuffer]
    rfl
  have hhandler := streaming_of_isExhausted (wanted buffer) hshut h
  rw [receive, hbuffer]
  simp only [run, hhandler]
  cases hsilent : w.silent with
  | false =>
    refine ⟨some (closed, []), rfl, Nat.le_refl _, ?_, ?_⟩
    · simp [hnone buffer hbuffer, lasting, hsilent]
    · intro reading kept heq
      obtain ⟨-, rfl⟩ := Prod.mk.inj (Option.some.inj heq)
      rw [hnone [] rfl, hnone buffer hbuffer]
      rfl
  | true =>
    cases hbound : w.readTimeout with
    | none =>
      refine ⟨none, rfl, Nat.le_refl _, ?_, ?_⟩
      · simp [hnone buffer hbuffer, lasting, hsilent, hbound]
      · intro reading kept heq
        cases heq
    | some bound =>
      refine ⟨some (.error (.io nothingInTime), buffer), rfl, Nat.le_refl _,
        ?_, ?_⟩
      · simp [hnone buffer hbuffer, lasting, hsilent, hbound]
      · intro reading kept heq
        obtain ⟨-, rfl⟩ := Prod.mk.inj (Option.some.inj heq)
        rw [hnone buffer hbuffer]
        rfl

/-- Every read but the last uses some of the script up. -/
theorem run_receive (hshut : w.shut = false) (buffer : Bytes)
    (hrounds : w.stream.source.span < rounds) :
    ∃ found source, (receive rounds buffer).run streaming w =
        (found, w.withSource source) ∧ Waited w buffer found source := by
  induction rounds generalizing buffer w with
  | zero => omega
  | succ rounds ih =>
    cases hd : decode? buffer with
    | some frame =>
      refine ⟨_, w.stream.source, by rw [receive, hd]; rfl, ?_⟩
      exact waited_of_cons (Nat.le_refl _) (readings_of_decode? hd _)
    | none =>
      cases hleft : w.stream.source.isExhausted with
      | true =>
        obtain ⟨found, hrun, hwaited⟩ :=
          run_receive_of_isExhausted hshut hleft hd rounds
        exact ⟨found, w.stream.source, hrun, hwaited⟩
      | false =>
        obtain ⟨answer, later, hreceive, hanswer⟩ :=
          readings_receive hd (wanted_pos buffer) w.stream.source
        have hhandler : streaming (.receive (wanted buffer)) w =
            (some answer, w.withSource later) := by
          simp [streaming, handler, hleft, hreceive, withSource]
        rw [receive, hd]
        simp only [run, hhandler]
        cases answer with
        | ok received =>
          cases received with
          | nil =>
            exact ⟨_, later, rfl, waited_of_cons hanswer.1
              (Source.receive_end (wanted_pos buffer) hleft hreceive hd)⟩
          | cons octet octets =>
            obtain ⟨hspan, hreadings⟩ := hanswer
            obtain ⟨found, source, hrun, hwaited⟩ :=
              @ih (w.withSource later) hshut (buffer ++ octet :: octets)
                (by simp only [withSource]; omega)
            exact ⟨found, source, hrun, hwaited.of_later hspan hreadings⟩
        | error cause =>
          obtain ⟨hspan, hreadings⟩ := hanswer
          by_cases hcause : cause.isInterrupted = true
          · simp only [hcause, if_true] at hreadings ⊢
            obtain ⟨found, source, hrun, hwaited⟩ :=
              @ih (w.withSource later) hshut buffer
                (by simp only [withSource]; omega)
            exact ⟨found, source, hrun, hwaited.of_later hspan hreadings⟩
          · rw [if_neg hcause] at hreadings
            simp only [hcause, Bool.false_eq_true, if_false]
            exact ⟨_, later, rfl,
              waited_of_cons (Nat.le_of_lt hspan) hreadings⟩

end Transport.Link

end CardBridge
