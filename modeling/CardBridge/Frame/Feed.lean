import CardBridge.Frame.Basic

/-!
# Frames out of pieces

A consumer that is handed a stream piece by piece takes every frame that a
piece completes before it waits for the next one.
-/

namespace CardBridge.Frame

/-- `decode?` leaves less than it was given. -/
theorem decode?_shortens {buffer payload rest : Bytes}
    (h : decode? buffer = some (payload, rest)) :
    rest.length < buffer.length := by
  match buffer, h with
  | [], h => simp [decode?] at h
  | [_], h => simp [decode?] at h
  | high :: low :: tail, h =>
    simp only [decode?] at h
    split at h
    · simp only [List.splitAt_eq, Option.some.injEq, Prod.mk.injEq] at h
      simp only [← h.2, List.length_drop, List.length_cons]
      omega
    · simp at h

/-- Takes every complete frame off the front of `buffer`. -/
def drain (buffer : Bytes) : List Bytes × Bytes :=
  match h : decode? buffer with
  | some (payload, rest) =>
    have := decode?_shortens h
    let (payloads, left) := drain rest
    (payload :: payloads, left)
  | none => ([], buffer)
termination_by buffer.length

/-- The frames completed by each piece in turn, and the octets kept after
the last one. -/
def feed (buffer : Bytes) : List Bytes → List Bytes × Bytes
  | [] => ([], buffer)
  | piece :: pieces =>
    let (payloads, kept) := drain (buffer ++ piece)
    let (later, left) := feed kept pieces
    (payloads ++ later, left)

end CardBridge.Frame
