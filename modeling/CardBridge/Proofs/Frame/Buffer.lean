import CardBridge.Proofs.Frame.Wire

/-!
# Frames in a buffer

A buffer into which frames are put at the end, and from which they are taken
at the front, one call after the other. What was put in comes out, whatever
unfinished octets stand behind it, and what comes out of a buffer makes it up
again (`buffered_frames_recovered`).
-/

namespace CardBridge.Frame

/-- One call to put a frame behind what the buffer holds. -/
def put (payload buffer : Bytes) : Except FrameError Unit × Bytes :=
  match encode payload buffer with
  | .ok longer => (.ok (), longer)
  | .error refusal => (.error refusal, buffer)

/-- A call for each payload, in order: what each gives, and the buffer after
the last. -/
def putEach : List Bytes → Bytes → List (Except FrameError Unit) × Bytes
  | [], buffer => ([], buffer)
  | payload :: payloads, buffer =>
    let (result, longer) := put payload buffer
    let (results, last) := putEach payloads longer
    (result :: results, last)

/-- One call to take a frame off the front of the buffer. -/
def take (buffer : Bytes) : Option Bytes × Bytes :=
  match decode? buffer with
  | some (payload, rest) => (some payload, rest)
  | none => (none, buffer)

/-- Some calls in a row: what each gives, and the buffer after the last. -/
def takeTimes : (calls : Nat) → Bytes → List (Option Bytes) × Bytes
  | 0, buffer => ([], buffer)
  | calls + 1, buffer =>
    let (result, rest) := take buffer
    let (results, last) := takeTimes calls rest
    (result :: results, last)

variable {payload buffer stream tail : Bytes} {payloads : List Bytes}

/-! ## Putting frames in -/

/-- A frame is two octets, which say how long it is, and the payload. -/
theorem wire_layout (h : payload.length ≤ maxPayload) :
    ∃ high low, announced high low = payload.length ∧
      wire payload = high :: low :: payload :=
  ⟨_, _, announced_header h, rfl⟩

theorem put_of_le (h : payload.length ≤ maxPayload) (buffer : Bytes) :
    put payload buffer = (.ok (), buffer ++ wire payload) := by
  simp [put, encode, h]

theorem put_of_lt (h : maxPayload < payload.length) (buffer : Bytes) :
    put payload buffer =
      (.error (.payloadTooLarge payload.length maxPayload), buffer) := by
  have hnot : ¬ payload.length ≤ maxPayload := Nat.not_le.mpr h
  simp [put, encode, hnot]

/-- A call succeeds exactly for a payload that fits. -/
theorem put_eq_ok_iff (payload buffer : Bytes) :
    (put payload buffer).1 = .ok () ↔ payload.length ≤ maxPayload := by
  constructor
  · intro h
    rcases Nat.lt_or_ge maxPayload payload.length with hlt | hle
    · rw [put_of_lt hlt] at h
      cases h
    · exact hle
  · intro h
    rw [put_of_le h]

theorem putEach_of_fit (h : Fit payloads) (buffer : Bytes) :
    putEach payloads buffer =
      (payloads.map fun _ => .ok (), buffer ++ wires payloads) := by
  induction payloads generalizing buffer with
  | nil => simp [putEach]
  | cons payload payloads ih =>
    obtain ⟨hle, hfit⟩ := fit_cons.mp h
    simp [putEach, put_of_le hle, ih hfit]

/-! ## Taking frames off -/

/-- A call that gives nothing leaves the buffer as it was. -/
theorem take_snd_of_none (h : (take buffer).1 = none) :
    (take buffer).2 = buffer := by
  cases hd : decode? buffer with
  | none => simp [take, hd]
  | some frame => simp [take, hd] at h

theorem take_of_unfinished (h : Unfinished buffer) :
    take buffer = (none, buffer) := by
  simp [take, decode?_eq_none_iff.mpr h]

theorem take_wire_append (h : payload.length ≤ maxPayload) (rest : Bytes) :
    take (wire payload ++ rest) = (some payload, rest) := by
  simp [take, decode?_wire_append h]

/-- Once a call gives nothing, all further ones give nothing. -/
theorem takeTimes_of_unfinished (h : Unfinished buffer) (calls : Nat) :
    takeTimes calls buffer = (List.replicate calls none, buffer) := by
  induction calls with
  | zero => rfl
  | succ calls ih =>
    simp [takeTimes, take_of_unfinished h, ih, List.replicate_succ]

/-- The frames come out in order, and then nothing, with the tail left. -/
theorem Cuts.takeTimes (h : Cuts stream payloads tail) (more : Nat) :
    takeTimes (payloads.length + more) stream =
      (payloads.map some ++ List.replicate more none, tail) := by
  obtain ⟨hfit, rfl, htail⟩ := h
  induction payloads with
  | nil => simp [takeTimes_of_unfinished htail]
  | cons payload payloads ih =>
    obtain ⟨hle, hfit⟩ := fit_cons.mp hfit
    rw [List.length_cons, Nat.add_right_comm, wires_cons, List.append_assoc]
    simp [Frame.takeTimes, take_wire_append hle, ih hfit]

/-! ## Both ways -/

/-- Frames that are put into a buffer come out again, in front of any
octets that make up no complete frame; and whatever octets a buffer holds,
the payloads that come out of it, put in again in front of what is left,
make up the same octets. A call that gives nothing changes nothing. A frame
goes behind what the buffer holds, unless its payload is too large, and then
nothing changes. -/
theorem buffered_frames_recovered :
    (∀ payloads buffer tail, Fit payloads → Unfinished tail →
      ∃ stream, putEach payloads buffer =
          (payloads.map fun _ => .ok (), buffer ++ stream) ∧
        ∀ more, takeTimes (payloads.length + more) (stream ++ tail) =
          (payloads.map some ++ List.replicate more none, tail)) ∧
    (∀ buffer, ∃ payloads tail, Fit payloads ∧ Unfinished tail ∧
      (∀ more, takeTimes (payloads.length + more) buffer =
        (payloads.map some ++ List.replicate more none, tail)) ∧
      (putEach payloads []).1 = payloads.map (fun _ => .ok ()) ∧
      (putEach payloads []).2 ++ tail = buffer) ∧
    (∀ buffer, (take buffer).1 = none → (take buffer).2 = buffer) ∧
    ∀ payload buffer,
      ((put payload buffer).1 = .ok () ↔ payload.length ≤ 65535) ∧
      (payload.length ≤ 65535 → ∃ high low,
        256 * high.toNat + low.toNat = payload.length ∧
          (put payload buffer).2 = buffer ++ high :: low :: payload) ∧
      (65535 < payload.length → put payload buffer =
        (.error (.payloadTooLarge payload.length 65535), buffer)) := by
  refine ⟨?_, ?_, ?_, ?_⟩
  · intro payloads buffer tail hfit htail
    have hcuts : Cuts (wires payloads ++ tail) payloads tail :=
      ⟨hfit, rfl, htail⟩
    exact ⟨wires payloads, putEach_of_fit hfit buffer, hcuts.takeTimes⟩
  · intro buffer
    have hcuts := cuts_drain buffer
    refine ⟨_, _, hcuts.fit, hcuts.unfinished, hcuts.takeTimes, ?_, ?_⟩
    · rw [putEach_of_fit hcuts.fit]
    · rw [putEach_of_fit hcuts.fit, List.nil_append]
      exact hcuts.eq.symm
  · intro buffer h
    exact take_snd_of_none h
  · intro payload buffer
    refine ⟨put_eq_ok_iff payload buffer, ?_, ?_⟩
    · intro h
      obtain ⟨high, low, hlength, hwire⟩ := wire_layout h
      refine ⟨high, low, hlength, ?_⟩
      rw [put_of_le h, hwire]
    · intro h
      exact put_of_lt h buffer

/-- Two frames and half a header in a buffer that was not empty. -/
theorem buffered_frames_recovered_of_two :
    Fit [[0x04], []] ∧ Unfinished [0x01] ∧
      ∃ stream, putEach [[0x04], []] [0xff] =
          ([.ok (), .ok ()], 0xff :: stream) ∧
        takeTimes 3 (stream ++ [0x01]) =
          ([some [0x04], some [], none], [0x01]) := by
  have hfit : Fit [[0x04], []] := by simp [maxPayload]
  have htail : Unfinished [0x01] := decode?_eq_none_iff.mp rfl
  obtain ⟨stream, hput, htake⟩ :=
    buffered_frames_recovered.1 [[0x04], []] [0xff] [0x01] hfit htail
  exact ⟨hfit, htail, stream, hput, htake 1⟩

end CardBridge.Frame
