import CardBridge.Proofs.Frame.Transfer
import CardBridge.Stream.Scripted

/-!
# One wait for a frame

What a wait and the stream say to each other, whatever the other side sends
and however it is cut, delayed and ended (`keeps_receive_noting`). The frame
is given exactly if it arrived in full, and as long as a read gives no more
than it was asked for, nothing behind the frame is taken.
-/

namespace CardBridge.Frame

open Dialogue

/-! ## One exchange -/

/-- The octets that a read has given. -/
def received : Exchange Stream → Bytes
  | ⟨.receive _, .ok octets⟩ => octets
  | _ => []

/-- The octets that were read, one exchange after the other. -/
def receivedIn (said : List (Exchange Stream)) : Bytes :=
  said.flatMap received

/-- A read was interrupted. -/
def delays : Exchange Stream → Bool
  | ⟨.receive _, .error cause⟩ => cause.isInterrupted
  | _ => false

/-- A read gives no more than it was asked for. -/
def Honest : Exchange Stream → Prop
  | ⟨.receive size, .ok octets⟩ => octets.length ≤ size
  | _ => True

variable {buffer octets payload rest : Bytes}
  {said : List (Exchange Stream)} {rounds total : Nat}

@[simp] theorem receivedIn_nil : receivedIn [] = [] := rfl

@[simp] theorem receivedIn_concat (said : List (Exchange Stream))
    (exchange : Exchange Stream) :
    receivedIn (said ++ [exchange]) = receivedIn said ++ received exchange := by
  simp [receivedIn]

/-- A source that follows a script gives no more than it is asked for. -/
theorem honest_receive (size : Nat) (source : Stream.Source) :
    Honest ⟨.receive size, (source.receive size).1⟩ := by
  fun_induction Stream.Source.receive size source with
  | case1 => exact Nat.zero_le _
  | case2 rest ih => exact ih
  | case3 chunk rest _ =>
    exact List.length_take_le ..
  | case4 chunk rest _ _ =>
    exact List.length_take_le ..
  | case5 cause rest => trivial
  | case6 rest => exact Nat.zero_le _

/-! ## What is asked for -/

/-- What an unfinished frame lacks is part of it. -/
theorem length_add_missing_le (hbuffer : decode? buffer = none)
    (hdecode : decode? (buffer ++ octets) = some (payload, rest)) :
    buffer.length + missing buffer ≤ headerSize + payload.length := by
  obtain ⟨hpayload, heq⟩ := decode?_eq_some_iff.mp hdecode
  match buffer with
  | [] => simp [missing, headerSize]
  | [_] => simp [missing, headerSize]
  | high :: low :: body =>
    -- the header is there, so it announces the payload that was found
    have hheader : [high, low] = header payload.length := by
      have hfront := congrArg (List.take 2) heq
      simpa [wire, header] using hfront
    simp only [header, List.cons.injEq, and_true] at hheader
    obtain ⟨rfl, rfl⟩ := hheader
    have hannounced := announced_header hpayload
    simp only [decode?, hannounced] at hbuffer
    split at hbuffer
    · cases hbuffer
    · simp only [missing, hannounced, headerSize, List.length_cons]
      omega

theorem wanted_le_missing (h : decode? buffer = none) :
    wanted buffer ≤ missing buffer := by
  have hpos := (missing_of_unfinished h).1
  simp only [wanted]
  omega

/-- No read goes behind the frame that it is to complete. -/
theorem rest_of_wanted (hbuffer : decode? buffer = none)
    (hoctets : octets.length ≤ wanted buffer)
    (hdecode : decode? (buffer ++ octets) = some (payload, rest)) :
    rest = [] := by
  have hlacks := length_add_missing_le hbuffer hdecode
  have hwanted := wanted_le_missing hbuffer
  have hlength := congrArg List.length (decode?_eq_some_iff.mp hdecode).2
  simp only [List.length_append, length_wire] at hlength
  simp only [headerSize] at hlacks
  exact List.length_eq_zero_iff.mp (by omega)

/-! ## One wait -/

/-- What a wait asks for while the frame in front has not arrived. -/
def Awaits (buffer : Bytes) (total : Nat) :
    Option Stream.Ask → List (Exchange Stream) → Prop
  | some (.receive _), said => decode? (buffer ++ receivedIn said) = none
  | some _, _ => False
  | none, said => total ≤ headerSize + maxPayload + said.countP delays

/-- How a wait ends: with the frame, of which nothing is left over, or with
an error before it arrived. -/
def Arrived (buffer : Bytes) (r : Except FrameError Bytes × Bytes)
    (said : List (Exchange Stream)) : Prop :=
  match r.1 with
  | .ok payload => r.2 = [] ∧
      decode? (buffer ++ receivedIn said) = some (payload, [])
  | .error _ => decode? (buffer ++ receivedIn said) = none

/-- A wait that goes on. Every exchange has given an octet or was an
interruption. -/
structure Incoming (buffer : Bytes) (total rounds : Nat)
    (said : List (Exchange Stream)) : Prop where
  spent : said.length + rounds = total
  brief : said.length ≤ (receivedIn said).length + said.countP delays
  bounded : (buffer ++ receivedIn said).length ≤ headerSize + maxPayload
  whole : ∀ payload rest,
    decode? (buffer ++ receivedIn said) = some (payload, rest) → rest = []

theorem Incoming.next (h : Incoming buffer total (rounds + 1) said)
    (hunfinished : decode? (buffer ++ receivedIn said) = none)
    (hpos : octets ≠ [])
    (hhonest : octets.length ≤ wanted (buffer ++ receivedIn said)) :
    Incoming buffer total rounds (said ++
      [⟨.receive (wanted (buffer ++ receivedIn said)), .ok octets⟩]) := by
  have hspent := h.spent
  have hbrief := h.brief
  have hreceived := receivedIn_concat said
    ⟨.receive (wanted (buffer ++ receivedIn said)), .ok octets⟩
  rw [received] at hreceived
  have hlength := List.length_pos_iff.mpr hpos
  refine ⟨?_, ?_, ?_, ?_⟩
  · simp only [List.length_append, List.length_singleton]
    omega
  · simp only [hreceived, List.length_append, List.length_singleton,
      List.countP_append]
    omega
  · have hmissing := (missing_of_unfinished hunfinished).2
    have hwanted := wanted_le_missing hunfinished
    rw [hreceived, ← List.append_assoc, List.length_append]
    omega
  · intro payload rest hdecode
    rw [hreceived, ← List.append_assoc] at hdecode
    exact rest_of_wanted hunfinished hhonest hdecode

theorem Incoming.interrupted (h : Incoming buffer total (rounds + 1) said)
    {cause : IoError} (hcause : cause.isInterrupted = true) (size : Nat) :
    Incoming buffer total rounds
      (said ++ [⟨.receive size, .error cause⟩]) := by
  have hspent := h.spent
  have hbrief := h.brief
  have hdelays : delays ⟨.receive size, .error cause⟩ = true := hcause
  refine ⟨?_, ?_, ?_, ?_⟩
  · simp only [List.length_append, List.length_singleton]
    omega
  · simp only [receivedIn_concat, received, List.append_nil,
      List.length_append, List.length_singleton, List.countP_append,
      List.countP_singleton, hdelays, if_true]
    omega
  · simpa [received] using h.bounded
  · simpa [received] using h.whole

theorem keeps_incoming (h : Incoming buffer total rounds said) :
    (receive rounds (buffer ++ receivedIn said)).Keeps (heeding Honest)
      (Awaits buffer total) (Arrived buffer) said := by
  induction rounds generalizing said with
  | zero =>
    have hspent := h.spent
    have hbrief := h.brief
    have hbounded := h.bounded
    rw [List.length_append] at hbounded
    show total ≤ _
    omega
  | succ rounds ih =>
    rw [receive]
    split
    · rename_i payload rest hdecode
      obtain rfl := h.whole payload rest hdecode
      exact ⟨rfl, hdecode⟩
    · rename_i hunfinished
      refine ⟨hunfinished, ?_⟩
      rintro answer said' ⟨hhonest, rfl⟩
      rcases answer with cause | _ | ⟨octet, octets⟩
      · by_cases hcause : cause.isInterrupted = true
        · simp only [hcause, if_true]
          have hnext := ih (h.interrupted hcause
            (wanted (buffer ++ receivedIn said)))
          simpa [received] using hnext
        · simp only [hcause, Bool.false_eq_true, if_false]
          show decode? _ = none
          simpa [received] using hunfinished
      · show decode? _ = none
        simpa [received] using hunfinished
      · have hnext := ih (h.next hunfinished (List.cons_ne_nil octet octets)
          hhonest)
        simpa [received] using hnext

/-- A wait for a frame, from the octets of it that are there. -/
theorem keeps_receive_noting (rounds : Nat) (h : decode? buffer = none) :
    (receive rounds buffer).Keeps (heeding Honest) (Awaits buffer rounds)
      (Arrived buffer) [] := by
  have hlength := length_lt_of_unfinished h
  have hincoming : Incoming buffer rounds rounds [] := by
    refine ⟨Nat.zero_add rounds, Nat.zero_le _, ?_, ?_⟩
    · simp only [receivedIn_nil, List.append_nil]
      omega
    · intro payload rest hdecode
      rw [receivedIn_nil, List.append_nil, h] at hdecode
      cases hdecode
  simpa using keeps_incoming hincoming

end CardBridge.Frame
