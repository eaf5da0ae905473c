import CardBridge.Frame.Feed
import CardBridge.Frame.Receive

/-!
# Streams of frames

A stream is cut into frames in one way only. `Cuts` states the cut without
mention of `decode?`: some payloads in their wire form, one after the other,
and a tail at whose front no frame is complete. Every stream has exactly one
(`cuts_drain`, `Cuts.unique`).
-/

namespace CardBridge.Frame

variable {buffer payload rest stream tail tail' : Bytes}
  {payloads payloads' : List Bytes}

/-! ## The header -/

theorem toNat_toUInt8_of_lt {n : Nat} (h : n < 256) :
    n.toUInt8.toNat = n :=
  Nat.mod_eq_of_lt h

/-- The length in a header is read back. -/
theorem announced_header {n : Nat} (h : n ≤ maxPayload) :
    announced (n / 256).toUInt8 (n % 256).toUInt8 = n := by
  have hhigh : n / 256 < 256 := by
    simp only [maxPayload] at h
    omega
  have hlow : n % 256 < 256 := Nat.mod_lt n (by decide)
  rw [announced, toNat_toUInt8_of_lt hhigh, toNat_toUInt8_of_lt hlow]
  omega

theorem announced_le (high low : UInt8) :
    announced high low ≤ maxPayload := by
  have hh : high.toNat < 256 := high.toNat_lt
  have hl : low.toNat < 256 := low.toNat_lt
  simp only [announced, maxPayload]
  omega

/-- Two octets are the header of the length that they announce. -/
theorem header_announced (high low : UInt8) :
    header (announced high low) = [high, low] := by
  have hh : high.toNat < 256 := high.toNat_lt
  have hl : low.toNat < 256 := low.toNat_lt
  have h1 : (256 * high.toNat + low.toNat) / 256 = high.toNat := by omega
  have h2 : (256 * high.toNat + low.toNat) % 256 = low.toNat := by omega
  simp only [header, announced, h1, h2]
  simp

/-! ## One frame -/

@[simp] theorem length_wire (payload : Bytes) :
    (wire payload).length = payload.length + 2 := by
  simp [wire, header]

/-- A buffer that starts with a frame gives it back, with all that follows. -/
theorem decode?_wire_append (h : payload.length ≤ maxPayload)
    (rest : Bytes) :
    decode? (wire payload ++ rest) = some (payload, rest) := by
  have ha := announced_header h
  simp only [wire, header, List.cons_append, List.nil_append, decode?, ha]
  simp

/-- What is taken off a buffer stood at its front in wire form. -/
theorem eq_wire_append_of_decode? (h : decode? buffer = some (payload, rest)) :
    payload.length ≤ maxPayload ∧ buffer = wire payload ++ rest := by
  match buffer, h with
  | [], h => simp [decode?] at h
  | [_], h => simp [decode?] at h
  | high :: low :: body, h =>
    simp only [decode?] at h
    split at h
    · rename_i hle
      simp only [List.splitAt_eq, Option.some.injEq, Prod.mk.injEq] at h
      obtain ⟨rfl, rfl⟩ := h
      have hlen : (body.take (announced high low)).length
          = announced high low := List.length_take_of_le hle
      refine ⟨by rw [hlen]; exact announced_le high low, ?_⟩
      rw [wire, hlen, header_announced]
      simp
    · simp at h

theorem decode?_eq_some_iff :
    decode? buffer = some (payload, rest) ↔
      payload.length ≤ maxPayload ∧ buffer = wire payload ++ rest := by
  constructor
  · exact eq_wire_append_of_decode?
  · intro hr
    obtain ⟨h, rfl⟩ := hr
    exact decode?_wire_append h rest

/-- A part of one frame that holds a whole one is that frame. -/
theorem eq_of_part_of_decode? {response : Bytes}
    (hbuffer : buffer <+: wire response)
    (hresponse : response.length ≤ maxPayload)
    (hdecode : decode? buffer = some (payload, rest)) :
    payload = response ∧ rest = [] ∧ buffer = wire response := by
  obtain ⟨later, hlater⟩ := hbuffer
  obtain ⟨hpayload, rfl⟩ := decode?_eq_some_iff.mp hdecode
  have hwhole := decode?_wire_append hresponse []
  rw [List.append_nil, ← hlater, List.append_assoc,
    decode?_wire_append hpayload] at hwhole
  simp only [Option.some.injEq, Prod.mk.injEq,
    List.append_eq_nil_iff] at hwhole
  obtain ⟨rfl, rfl, rfl⟩ := hwhole
  refine ⟨rfl, rfl, ?_⟩
  rw [List.append_nil]

/-! ## Unfinished frames -/

/-- No frame is complete at the front of a buffer. -/
def Unfinished (buffer : Bytes) : Prop :=
  ∀ payload rest, payload.length ≤ maxPayload →
    buffer ≠ wire payload ++ rest

theorem decode?_eq_none_iff : decode? buffer = none ↔ Unfinished buffer := by
  constructor
  · intro h payload rest hle hr
    subst hr
    rw [decode?_wire_append hle] at h
    cases h
  · intro h
    cases hd : decode? buffer with
    | none => rfl
    | some frame =>
      obtain ⟨hle, heq⟩ := eq_wire_append_of_decode? hd
      exact absurd heq (h _ _ hle)

/-- An unfinished frame lacks something, and not more than a frame has. -/
theorem missing_of_unfinished (h : decode? buffer = none) :
    0 < missing buffer ∧
      buffer.length + missing buffer ≤ headerSize + maxPayload := by
  match buffer, h with
  | [], _ => simp [missing, headerSize, maxPayload]
  | [_], _ => simp [missing, headerSize, maxPayload]
  | high :: low :: body, h =>
    have hle := announced_le high low
    simp only [decode?] at h
    split at h
    · cases h
    · simp only [missing, headerSize, List.length_cons]
      omega

theorem length_lt_of_unfinished (h : decode? buffer = none) :
    buffer.length < headerSize + maxPayload := by
  have := missing_of_unfinished h
  omega

theorem wanted_pos (buffer : Bytes) : 0 < wanted buffer := by
  simp only [wanted]
  omega

/-! ## Streams -/

/-- Payloads in wire form, one after the other. -/
def wires (payloads : List Bytes) : Bytes :=
  payloads.flatMap wire

@[simp] theorem wires_nil : wires [] = [] := rfl

@[simp] theorem wires_cons (payload : Bytes) (payloads : List Bytes) :
    wires (payload :: payloads) = wire payload ++ wires payloads := rfl

@[simp] theorem wires_append (payloads payloads' : List Bytes) :
    wires (payloads ++ payloads') = wires payloads ++ wires payloads' :=
  List.flatMap_append

/-- Every frame takes room. -/
theorem two_mul_length_le_wires (payloads : List Bytes) :
    2 * payloads.length ≤ (wires payloads).length := by
  induction payloads with
  | nil => simp
  | cons payload payloads ih =>
    simp only [wires_cons, List.length_append, List.length_cons, length_wire]
    omega

/-- Every payload fits a frame. -/
def Fit (payloads : List Bytes) : Prop :=
  ∀ payload ∈ payloads, payload.length ≤ maxPayload

@[simp] theorem fit_nil : Fit [] := by
  intro payload h
  cases h

@[simp] theorem fit_cons :
    Fit (payload :: payloads) ↔
      payload.length ≤ maxPayload ∧ Fit payloads := by
  simp [Fit]

@[simp] theorem fit_append :
    Fit (payloads ++ payloads') ↔ Fit payloads ∧ Fit payloads' := by
  simp [Fit, or_imp, forall_and]

/-- The frames of a stream, and the tail that is no complete frame. -/
structure Cuts (stream : Bytes) (payloads : List Bytes) (tail : Bytes) :
    Prop where
  fit : Fit payloads
  eq : stream = wires payloads ++ tail
  unfinished : Unfinished tail

theorem cuts_drain (stream : Bytes) :
    Cuts stream (drain stream).1 (drain stream).2 := by
  fun_induction drain stream with
  | case1 buffer payload rest h _ payloads left heq ih =>
    rw [heq] at ih
    obtain ⟨hle, hbuf⟩ := eq_wire_append_of_decode? h
    exact ⟨fit_cons.mpr ⟨hle, ih.fit⟩,
      by rw [hbuf, wires_cons, List.append_assoc, ← ih.eq], ih.unfinished⟩
  | case2 buffer h =>
    exact ⟨fit_nil, rfl, decode?_eq_none_iff.mp h⟩

/-- A stream is cut in one way. -/
theorem Cuts.unique (h : Cuts stream payloads tail)
    (h' : Cuts stream payloads' tail') :
    payloads = payloads' ∧ tail = tail' := by
  induction payloads generalizing stream payloads' with
  | nil =>
    have hs : stream = tail := h.eq
    cases payloads' with
    | nil => exact ⟨rfl, hs.symm.trans h'.eq⟩
    | cons payload' payloads' =>
      have heq := h'.eq
      rw [wires_cons, List.append_assoc, hs] at heq
      exact absurd heq (h.unfinished _ _ (fit_cons.mp h'.fit).1)
  | cons payload payloads ih =>
    obtain ⟨hle, hfit⟩ := fit_cons.mp h.fit
    have heq := h.eq
    rw [wires_cons, List.append_assoc] at heq
    cases payloads' with
    | nil =>
      rw [show stream = tail' from h'.eq] at heq
      exact absurd heq (h'.unfinished _ _ hle)
    | cons payload' payloads' =>
      obtain ⟨hle', hfit'⟩ := fit_cons.mp h'.fit
      have heq' := h'.eq
      rw [wires_cons, List.append_assoc] at heq'
      -- both cuts start with the frame that `decode?` finds
      have hd := decode?_wire_append hle (wires payloads ++ tail)
      rw [← heq, heq', decode?_wire_append hle'] at hd
      simp only [Option.some.injEq, Prod.mk.injEq] at hd
      obtain ⟨rfl, hrest⟩ := hd
      obtain ⟨rfl, rfl⟩ := ih ⟨hfit, rfl, h.unfinished⟩
        ⟨hfit', hrest.symm, h'.unfinished⟩
      exact ⟨rfl, rfl⟩

theorem Cuts.eq_drain (h : Cuts stream payloads tail) :
    drain stream = (payloads, tail) := by
  obtain ⟨h1, h2⟩ := (cuts_drain stream).unique h
  exact Prod.ext h1 h2

/-- Frames that stand in front are the first of a stream. -/
theorem drain_wires_append (h : Fit payloads) (rest : Bytes) :
    drain (wires payloads ++ rest) =
      (payloads ++ (drain rest).1, (drain rest).2) := by
  have hrest := cuts_drain rest
  refine Cuts.eq_drain ⟨fit_append.mpr ⟨h, hrest.fit⟩, ?_, hrest.unfinished⟩
  rw [wires_append, List.append_assoc, ← hrest.eq]

theorem drain_of_unfinished (h : Fit payloads) (hrest : decode? rest = none) :
    drain (wires payloads ++ rest) = (payloads, rest) :=
  Cuts.eq_drain ⟨h, rfl, decode?_eq_none_iff.mp hrest⟩

theorem drain_wires (h : Fit payloads) :
    drain (wires payloads) = (payloads, []) := by
  have hdrain : drain (wires payloads ++ []) = (payloads, []) :=
    drain_of_unfinished h rfl
  rwa [List.append_nil] at hdrain

/-- Payloads that fit are told apart on the wire. -/
theorem wires_inj (h : Fit payloads) (h' : Fit payloads')
    (heq : wires payloads = wires payloads') : payloads = payloads' := by
  have hdrain := congrArg drain heq
  rw [drain_wires h, drain_wires h'] at hdrain
  exact congrArg Prod.fst hdrain

/-- More of a stream has the same frames in front. -/
theorem drain_prefix {part : Bytes} (h : part <+: stream) :
    (drain part).1 <+: (drain stream).1 := by
  obtain ⟨rest, rfl⟩ := h
  have hpart := cuts_drain part
  conv => rhs; rw [hpart.eq, List.append_assoc]
  rw [drain_wires_append hpart.fit]
  exact List.prefix_append _ _

end CardBridge.Frame
