import CardBridge.Proofs.Frame.Wire
import CardBridge.Stream.Scripted

/-!
# Reading a script frame by frame

What call after call for a frame gives when the stream follows a script of
pieces, failures and ends, in any order. The ends cut the script into parts.
Each part gives its complete frames, however its octets arrive, with each
failure where it stands among them; an interruption is not seen
(`scripted_frames_read`).
-/

namespace CardBridge.Frame

open Dialogue CardBridge.Stream

/-- What one call for a frame gives. -/
abbrev Reading := Except FrameError Bytes

/-- The reading at the end of the stream. -/
abbrev closed : Reading := .error .connectionClosed

/-- Calls for a frame in a row, each with the octets that the one before
kept. -/
def receiveTimes (rounds : Nat) : (calls : Nat) → (buffer : Bytes) →
    Dialogue Stream (List Reading × Bytes)
  | 0, buffer => .done ([], buffer)
  | calls + 1, buffer => do
    let (reading, kept) ← receive rounds buffer
    let (readings, last) ← receiveTimes rounds calls kept
    return (reading :: readings, last)

/-- What some calls give whose stream follows a script. -/
def readTimes (rounds calls : Nat) (script : Scripted) :
    Option (List Reading) :=
  ((receiveTimes rounds calls []).run Scripted.handler script).1.map
    fun (readings, _) => readings

/-- What a script gives to someone who has `buffer` in hand: octets add to
the buffer, and its complete frames come ahead of a failure and of an end. -/
def readings (buffer : Bytes) : Source → List Reading
  | [] => (drain buffer).1.map .ok
  | .octets chunk :: rest => readings (buffer ++ chunk) rest
  | .failure cause :: rest =>
    if cause.isInterrupted then readings buffer rest
    else (drain buffer).1.map .ok ++
      .error (.io cause) :: readings (drain buffer).2 rest
  | .finish :: rest => (drain buffer).1.map .ok ++ closed :: readings [] rest

variable {buffer payload rest : Bytes} {source : Source} {rounds : Nat}

/-! ## One call -/

theorem drain_of_decode? (h : decode? buffer = some (payload, rest)) :
    drain buffer = (payload :: (drain rest).1, (drain rest).2) := by
  obtain ⟨hle, rfl⟩ := eq_wire_append_of_decode? h
  have hone : Fit [payload] := by simp [hle]
  simpa using drain_wires_append hone rest

theorem drain_of_none (h : decode? buffer = none) :
    drain buffer = ([], buffer) := by
  simpa using drain_of_unfinished fit_nil h

theorem drain_append (buffer more : Bytes) :
    drain (buffer ++ more) =
      ((drain buffer).1 ++ (drain ((drain buffer).2 ++ more)).1,
        (drain ((drain buffer).2 ++ more)).2) := by
  have hcuts := cuts_drain buffer
  conv => lhs; rw [hcuts.eq, List.append_assoc]
  exact drain_wires_append hcuts.fit _

/-- A complete frame in hand comes first, whatever the script. -/
theorem readings_of_decode? (h : decode? buffer = some (payload, rest))
    (source : Source) :
    readings buffer source = .ok payload :: readings rest source := by
  induction source generalizing buffer rest with
  | nil => simp [readings, drain_of_decode? h]
  | cons arrival source ih =>
    cases arrival with
    | octets chunk =>
      obtain ⟨hle, rfl⟩ := eq_wire_append_of_decode? h
      have hlonger := decode?_wire_append hle (rest ++ chunk)
      rw [← List.append_assoc] at hlonger
      exact ih hlonger
    | failure cause =>
      simp only [readings]
      split
      · exact ih h
      · simp [drain_of_decode? h]
    | finish => simp [readings, drain_of_decode? h]

/-- The next of some readings and those after it. When none is left, the
stream has ended for good. -/
def Next (due : List Reading) (reading : Reading) (later : List Reading) :
    Prop :=
  due = reading :: later ∨ due = [] ∧ reading = closed ∧ later = []

/-- What one read means for someone with an unfinished frame in hand. Every
read but those of an end uses some of the script up. -/
theorem readings_receive (h : decode? buffer = none) {size : Nat}
    (hsize : 0 < size) (source : Source) :
    ∃ answer later, source.receive size = (answer, later) ∧
      match answer with
      | .ok [] => later.span ≤ source.span ∧
          Next (readings buffer source) closed (readings [] later)
      | .ok (octet :: octets) => later.span < source.span ∧
          readings buffer source =
            readings (buffer ++ octet :: octets) later
      | .error cause => later.span < source.span ∧
          readings buffer source =
            if cause.isInterrupted then readings buffer later
            else .error (.io cause) :: readings buffer later := by
  have hdrain := drain_of_none h
  have hempty : drain [] = ([], []) := drain_of_none rfl
  induction source with
  | nil =>
    exact ⟨_, _, rfl, Nat.le_refl _,
      .inr ⟨by simp [readings, hdrain], rfl, by simp [readings, hempty]⟩⟩
  | cons arrival source ih =>
    cases arrival with
    | finish =>
      refine ⟨_, _, rfl, ?_, .inl ?_⟩
      · simp only [Source.span, Source.unread, List.length_cons]
        omega
      · simp [readings, hdrain]
    | failure cause =>
      refine ⟨_, _, rfl, ?_, ?_⟩
      · simp only [Source.span, Source.unread, List.length_cons]
        omega
      · simp [readings, hdrain]
    | octets chunk =>
      cases chunk with
      | nil =>
        -- an empty piece is passed over
        obtain ⟨answer, later, hreceive, hanswer⟩ := ih
        have hspan : Source.span source ≤
            Source.span (.octets [] :: source) := by
          simp only [Source.span, Source.unread, List.length_cons]
          omega
        have hreadings : readings buffer (.octets [] :: source) =
            readings buffer source := by
          simp [readings]
        refine ⟨answer, later, hreceive, ?_⟩
        rw [hreadings]
        match answer, hanswer with
        | .ok [], ⟨hlater, hnext⟩ => exact ⟨Nat.le_trans hlater hspan, hnext⟩
        | .ok (_ :: _), ⟨hlater, hnext⟩ =>
          exact ⟨Nat.lt_of_lt_of_le hlater hspan, hnext⟩
        | .error _, ⟨hlater, hnext⟩ =>
          exact ⟨Nat.lt_of_lt_of_le hlater hspan, hnext⟩
      | cons octet octets =>
        obtain ⟨size, rfl⟩ : ∃ n, size = n + 1 := ⟨size - 1, by omega⟩
        have hsplit := List.take_append_drop size octets
        simp only [Source.receive]
        split
        · rename_i hnone
          rw [List.drop_succ_cons] at hnone
          rw [hnone, List.append_nil] at hsplit
          refine ⟨_, _, rfl, ?_, ?_⟩
          · simp only [Source.span, Source.unread, List.length_cons]
            omega
          · rw [hsplit]
            rfl
        · refine ⟨_, _, rfl, ?_, ?_⟩
          · simp only [Source.span, Source.unread, List.drop_succ_cons,
              List.length_drop, List.length_cons]
            omega
          · simp only [readings, List.drop_succ_cons, List.append_assoc,
              List.cons_append, hsplit]

/-- One call gives the first of the readings, and leaves the others. -/
theorem run_receive (buffer : Bytes) {w : Scripted}
    (hrounds : w.source.span < rounds) :
    ∃ reading kept later,
      (receive rounds buffer).run Scripted.handler w =
          (some (reading, kept), { w with source := later }) ∧
        later.span ≤ w.source.span ∧
        Next (readings buffer w.source) reading (readings kept later) := by
  -- each read but the last uses some of the script up
  induction rounds generalizing buffer w with
  | zero => omega
  | succ rounds ih =>
    rw [receive]
    cases hd : decode? buffer with
    | some frame =>
      exact ⟨_, _, w.source, rfl, Nat.le_refl _,
        .inl (readings_of_decode? hd w.source)⟩
    | none =>
      obtain ⟨answer, later, hreceive, hanswer⟩ :=
        readings_receive hd (wanted_pos buffer) w.source
      have hhandler : Scripted.handler (.receive (wanted buffer)) w =
          (some answer, { w with source := later }) := by
        simp [Scripted.handler, hreceive]
      simp only [run, hhandler]
      cases answer with
      | ok received =>
        cases received with
        | nil =>
          obtain ⟨hspan, hnext⟩ := hanswer
          exact ⟨_, _, later, rfl, hspan, hnext⟩
        | cons octet octets =>
          obtain ⟨hspan, hreadings⟩ := hanswer
          obtain ⟨reading, kept, last, hrun, hlast, hnext⟩ :=
            @ih (buffer ++ octet :: octets) { w with source := later }
              (by show later.span < rounds; omega)
          refine ⟨reading, kept, last, hrun, Nat.le_trans hlast ?_, ?_⟩
          · exact Nat.le_of_lt hspan
          · rw [hreadings]
            exact hnext
      | error cause =>
        obtain ⟨hspan, hreadings⟩ := hanswer
        by_cases hcause : cause.isInterrupted = true
        · obtain ⟨reading, kept, last, hrun, hlast, hnext⟩ :=
            @ih buffer { w with source := later }
              (by show later.span < rounds; omega)
          simp only [hcause, if_true] at hreadings ⊢
          refine ⟨reading, kept, last, hrun, Nat.le_trans hlast ?_, ?_⟩
          · exact Nat.le_of_lt hspan
          · rw [hreadings]
            exact hnext
        · rw [if_neg hcause] at hreadings
          simp only [hcause, Bool.false_eq_true, if_false]
          exact ⟨_, _, later, rfl, Nat.le_of_lt hspan, .inl hreadings⟩

/-! ## Calls in a row -/

/-- More ends than there are calls make no difference. -/
theorem take_append_closed (readings : List Reading) {calls more : Nat}
    (h : calls ≤ more) :
    (readings ++ List.replicate more closed).take calls =
      (readings ++ List.replicate calls closed).take calls := by
  simp only [List.take_append, List.take_replicate]
  congr 2
  omega

theorem take_of_next {due later : List Reading} {reading : Reading}
    (h : Next due reading later) (calls : Nat) :
    (due ++ List.replicate (calls + 1) closed).take (calls + 1) =
      reading :: (later ++ List.replicate calls closed).take calls := by
  rcases h with rfl | ⟨rfl, rfl, rfl⟩
  · rw [List.cons_append, List.take_succ_cons,
      take_append_closed later (Nat.le_succ calls)]
  · simp [List.replicate_succ]

theorem run_receiveTimes (buffer : Bytes) {w : Scripted}
    (hrounds : w.source.span < rounds) (calls : Nat) :
    ∃ kept later, (receiveTimes rounds calls buffer).run Scripted.handler w =
      (some ((readings buffer w.source ++
        List.replicate calls closed).take calls, kept),
        { w with source := later }) := by
  induction calls generalizing buffer w with
  | zero => exact ⟨buffer, w.source, by simp [receiveTimes]⟩
  | succ calls ih =>
    obtain ⟨reading, kept, later, hrun, hspan, hnext⟩ :=
      run_receive buffer hrounds
    obtain ⟨kept', later', hrun'⟩ :=
      @ih kept { w with source := later } (Nat.lt_of_le_of_lt hspan hrounds)
    refine ⟨kept', later', ?_⟩
    simp only [receiveTimes, run_bind, hrun, hrun', pure_eq, run_done]
    rw [take_of_next hnext]

theorem readTimes_eq (script : Scripted) (calls : Nat)
    (hrounds : script.source.span < rounds) :
    readTimes rounds calls script =
      some ((readings [] script.source ++
        List.replicate calls closed).take calls) := by
  obtain ⟨kept, later, hrun⟩ := run_receiveTimes [] hrounds calls
  simp [readTimes, hrun]

/-! ## Parts of a script -/

/-- The octets of a script, in order. -/
def octetsOf : Source → Bytes
  | [] => []
  | .octets chunk :: rest => chunk ++ octetsOf rest
  | _ :: rest => octetsOf rest

/-- An interruption is no failure that a caller gets to see. -/
def isInterruption : Arrival → Bool
  | .failure cause => cause.isInterrupted
  | _ => false

@[simp] theorem isInterruption_octets (chunk : Bytes) :
    isInterruption (.octets chunk) = false := rfl

@[simp] theorem isInterruption_failure (cause : IoError) :
    isInterruption (.failure cause) = cause.isInterrupted := rfl

@[simp] theorem isInterruption_finish :
    isInterruption .finish = false := rfl

/-- The failures of a script that are no interruptions, in order. -/
def faultsOf (source : Source) : List IoError :=
  source.filterMap fun
    | .failure cause => if cause.isInterrupted then none else some cause
    | _ => none

/-- The same script without its interruptions. -/
def uninterrupted (script : Scripted) : Scripted :=
  { script with source := script.source.filter (!isInterruption ·) }

/-- The payloads among some readings. -/
def payloadsIn (readings : List Reading) : List Bytes :=
  readings.filterMap Except.toOption

/-- The errors among some readings. -/
def errorsIn (readings : List Reading) : List FrameError :=
  readings.filterMap fun
    | .ok _ => none
    | .error e => some e

/-- The readings are the complete frames of a part of a script, and its
failures, each of them once. -/
structure Amounts (part : Source) (given : List Reading) : Prop where
  frames : ∃ tail, Cuts (octetsOf part) (payloadsIn given) tail
  failures : errorsIn given = (faultsOf part).map .io

/-- The same, and each failure stands behind the frames that were complete
when it came. -/
structure Gives (part : Source) (given : List Reading) : Prop extends
    Amounts part given where
  order : ∀ earlier cause later,
    part = earlier ++ .failure cause :: later → cause.isInterrupted = false →
      ∃ before after, given = before ++ .error (.io cause) :: after ∧
        Amounts earlier before

@[simp] theorem payloadsIn_append (first later : List Reading) :
    payloadsIn (first ++ later) = payloadsIn first ++ payloadsIn later :=
  List.filterMap_append

@[simp] theorem errorsIn_append (first later : List Reading) :
    errorsIn (first ++ later) = errorsIn first ++ errorsIn later :=
  List.filterMap_append

@[simp] theorem payloadsIn_map_ok (payloads : List Bytes) :
    payloadsIn (payloads.map .ok) = payloads := by
  simp [payloadsIn, List.filterMap_map, Function.comp_def, Except.toOption]

@[simp] theorem errorsIn_map_ok (payloads : List Bytes) :
    errorsIn (payloads.map .ok) = [] := by
  simp [errorsIn]

@[simp] theorem payloadsIn_error (e : FrameError) (later : List Reading) :
    payloadsIn (.error e :: later) = payloadsIn later := rfl

@[simp] theorem errorsIn_error (e : FrameError) (later : List Reading) :
    errorsIn (.error e :: later) = e :: errorsIn later := rfl

theorem payloadsIn_readings {part : Source} (h : .finish ∉ part)
    (buffer : Bytes) :
    payloadsIn (readings buffer part) =
      (drain (buffer ++ octetsOf part)).1 := by
  induction part generalizing buffer with
  | nil => simp [readings, octetsOf]
  | cons arrival part ih =>
    simp only [List.mem_cons, not_or] at h
    obtain ⟨hne, hpart⟩ := h
    cases arrival with
    | octets chunk => simp [readings, octetsOf, ih hpart]
    | failure cause =>
      simp only [readings, octetsOf]
      split
      · exact ih hpart buffer
      · -- the octets in hand count for the frames that follow
        rw [drain_append]
        simp [ih hpart]
    | finish => exact absurd rfl hne

theorem errorsIn_readings {part : Source} (h : .finish ∉ part)
    (buffer : Bytes) :
    errorsIn (readings buffer part) = (faultsOf part).map .io := by
  induction part generalizing buffer with
  | nil => simp [readings, faultsOf]
  | cons arrival part ih =>
    simp only [List.mem_cons, not_or] at h
    obtain ⟨hne, hpart⟩ := h
    cases arrival with
    | octets chunk => simpa [readings, faultsOf] using ih hpart _
    | failure cause =>
      by_cases hcause : cause.isInterrupted = true
      · simpa [readings, faultsOf, hcause] using ih hpart _
      · simpa [readings, faultsOf, hcause] using ih hpart _
    | finish => exact absurd rfl hne

theorem amounts_readings {part : Source} (h : .finish ∉ part) :
    Amounts part (readings [] part) := by
  have hcuts := cuts_drain (octetsOf part)
  refine ⟨⟨(drain (octetsOf part)).2, ?_⟩, errorsIn_readings h []⟩
  rw [payloadsIn_readings h]
  exact hcuts

/-- A failure comes behind what the script gives up to it. -/
theorem readings_append_failure {cause : IoError}
    (hcause : cause.isInterrupted = false) (earlier later : Source)
    (buffer : Bytes) :
    ∃ after, readings buffer (earlier ++ .failure cause :: later) =
      readings buffer earlier ++ .error (.io cause) :: after := by
  induction earlier generalizing buffer with
  | nil => exact ⟨_, by simp [readings, hcause]; rfl⟩
  | cons arrival earlier ih =>
    cases arrival with
    | octets chunk => exact ih _
    | failure cause' =>
      simp only [List.cons_append, readings]
      split
      · exact ih buffer
      · obtain ⟨after, hafter⟩ := ih (drain buffer).2
        exact ⟨after, by simp [hafter]⟩
    | finish =>
      obtain ⟨after, hafter⟩ := ih []
      exact ⟨after, by simp [readings, hafter]⟩

theorem gives_readings {part : Source} (h : .finish ∉ part) :
    Gives part (readings [] part) := by
  refine ⟨amounts_readings h, ?_⟩
  intro earlier cause later hpart hcause
  subst hpart
  obtain ⟨after, hafter⟩ := readings_append_failure hcause earlier later []
  have hearlier : .finish ∉ earlier := by
    intro hmem
    exact h (List.mem_append_left _ hmem)
  exact ⟨_, after, hafter, amounts_readings hearlier⟩

/-! ## The ends of a script -/

theorem splitOn_finish (rest : Source) :
    (Arrival.finish :: rest).splitOn .finish = [] :: rest.splitOn .finish := by
  simp [List.splitOn_cons_eq_if_modifyHead]

theorem splitOn_other {arrival : Arrival} (h : arrival ≠ .finish)
    {rest first : Source} {others : List Source}
    (hrest : rest.splitOn .finish = first :: others) :
    (arrival :: rest).splitOn .finish = (arrival :: first) :: others := by
  simp [List.splitOn_cons_eq_if_modifyHead, h, hrest]

/-- An end gives its one reading, and nothing is carried over it. -/
theorem readings_splitOn {first : Source} {others : List Source}
    (h : source.splitOn .finish = first :: others) (buffer : Bytes) :
    readings buffer source ++ [closed] =
      readings buffer first ++ closed ::
        others.flatMap fun part => readings [] part ++ [closed] := by
  induction source generalizing buffer first others with
  | nil =>
    obtain ⟨rfl, rfl⟩ : first = [] ∧ others = [] := by simpa using h.symm
    rfl
  | cons arrival source ih =>
    obtain ⟨first', others', hsource⟩ :=
      List.exists_cons_of_ne_nil (List.splitOn_ne_nil .finish source)
    cases arrival with
    | finish =>
      rw [splitOn_finish, hsource, List.cons.injEq] at h
      obtain ⟨rfl, rfl⟩ := h
      simp [readings, ih hsource []]
    | octets chunk =>
      rw [splitOn_other (by simp) hsource, List.cons.injEq] at h
      obtain ⟨rfl, rfl⟩ := h
      exact ih hsource _
    | failure cause =>
      rw [splitOn_other (by simp) hsource, List.cons.injEq] at h
      obtain ⟨rfl, rfl⟩ := h
      simp only [readings]
      split
      · exact ih hsource buffer
      · simp [ih hsource]

theorem finish_not_mem_splitOn {part : Source}
    (h : part ∈ source.splitOn .finish) : .finish ∉ part := by
  induction source generalizing part with
  | nil => simp_all
  | cons arrival source ih =>
    obtain ⟨first, others, hsource⟩ :=
      List.exists_cons_of_ne_nil (List.splitOn_ne_nil .finish source)
    rw [hsource] at ih
    by_cases hfinish : arrival = .finish
    · subst hfinish
      rw [splitOn_finish, hsource, List.mem_cons] at h
      rcases h with rfl | h
      · exact List.not_mem_nil
      · exact ih h
    · rw [splitOn_other hfinish hsource, List.mem_cons] at h
      rcases h with rfl | h
      · have hfirst := @ih first (List.mem_cons_self ..)
        simp [Ne.symm hfinish, hfirst]
      · exact ih (List.mem_cons_of_mem _ h)

theorem readings_uninterrupted (source : Source) (buffer : Bytes) :
    readings buffer (source.filter (!isInterruption ·)) =
      readings buffer source := by
  induction source generalizing buffer with
  | nil => rfl
  | cons arrival source ih =>
    cases arrival with
    | octets chunk => simp [readings, ih]
    | failure cause =>
      by_cases hcause : cause.isInterrupted = true
      · simp [readings, hcause, ih]
      · simp [readings, hcause, ih]
    | finish => simp [readings, ih]

theorem span_filter_le (p : Arrival → Bool) (source : Source) :
    Source.span (source.filter p) ≤ Source.span source := by
  induction source with
  | nil => exact Nat.le_refl _
  | cons arrival source ih =>
    simp only [Source.span] at ih ⊢
    cases hp : p arrival with
    | true =>
      rw [List.filter_cons_of_pos hp]
      cases arrival <;>
        simp only [Source.unread, List.length_cons] <;> omega
    | false =>
      rw [List.filter_cons_of_neg (by simp [hp])]
      cases arrival <;>
        simp only [Source.unread, List.length_cons] <;> omega

/-- Calls in a row, however many, give part after part of the script what
the part alone amounts to, and one end of the stream behind each. They give
the same without the interruptions. -/
theorem scripted_frames_read (script : Scripted) (rounds : Nat)
    (hrounds : script.source.span < rounds) :
    ∃ given : Source → List Reading,
      (∀ part ∈ script.source.splitOn .finish, Gives part (given part)) ∧
      (∀ calls, readTimes rounds calls script =
        some ((((script.source.splitOn .finish).flatMap fun part =>
          given part ++ [closed]) ++ List.replicate calls closed).take
            calls)) ∧
      ∀ calls, readTimes rounds calls (uninterrupted script) =
        readTimes rounds calls script := by
  refine ⟨readings [], ?_, ?_, ?_⟩
  · intro part hpart
    exact gives_readings (finish_not_mem_splitOn hpart)
  · intro calls
    obtain ⟨first, others, hsource⟩ := List.exists_cons_of_ne_nil
      (List.splitOn_ne_nil .finish script.source)
    have hreadings := readings_splitOn hsource []
    rw [readTimes_eq script calls hrounds, hsource, List.flatMap_cons,
      List.append_assoc (readings [] first), List.singleton_append,
      ← hreadings, List.append_assoc, List.singleton_append,
      ← List.replicate_succ]
    rw [take_append_closed _ (Nat.le_succ calls)]
  · intro calls
    have hspan := span_filter_le (!isInterruption ·) script.source
    have hquiet : (uninterrupted script).source.span < rounds :=
      Nat.lt_of_le_of_lt hspan hrounds
    rw [readTimes_eq _ calls hquiet, readTimes_eq _ calls hrounds]
    simp only [uninterrupted, readings_uninterrupted]

/-- A frame that is interrupted in its header, then the first octet of one
more, a failure, and the end; behind that an empty frame. -/
def brokenScript : Source :=
  [.octets [0x00], .failure (.ofKind .interrupted),
   .octets [0x01, 0x04, 0x00], .failure (.ofKind .timedOut), .finish,
   .octets [0x00, 0x00]]

theorem scripted_frames_read_of_broken :
    Source.span brokenScript < 13 ∧
    readTimes 13 5 { source := brokenScript } =
      some [.ok [0x04], .error (.io (.ofKind .timedOut)), closed, .ok [],
        closed] ∧
    ∃ given : Source → List Reading,
      (∀ part ∈ brokenScript.splitOn .finish, Gives part (given part)) ∧
      ∀ calls, readTimes 13 calls { source := brokenScript } =
        some ((((brokenScript.splitOn .finish).flatMap fun part =>
          given part ++ [closed]) ++ List.replicate calls closed).take
            calls) := by
  have hrounds : Source.span brokenScript < 13 := by decide
  obtain ⟨given, hparts, hcalls, -⟩ :=
    scripted_frames_read { source := brokenScript } 13 hrounds
  exact ⟨hrounds, rfl, given, hparts, hcalls⟩

end CardBridge.Frame
