import CardBridge.Proofs.Session.Affair

/-!
# The states of a session

The state of a session only goes forward, whoever moves it. Those who look
at it can see the states that a session went through; `Watch` keeps them,
and `course` is the order in which they come.
-/

namespace CardBridge.SessionState

variable {state next : SessionState}

/-! ## Moves of any kind -/

/-- The state after some attempts to move it. -/
def after (state : SessionState) (attempts : List SessionState) :
    SessionState :=
  attempts.foldl (fun state next => (state.advance next).1) state

theorem after_append (state : SessionState)
    (earlier later : List SessionState) :
    state.after (earlier ++ later) = (state.after earlier).after later :=
  List.foldl_append ..

theorem rank_le_of_mayBecome (h : state.mayBecome next = true) :
    state.rank ≤ next.rank := by
  revert h
  cases state <;> cases next <;> decide

theorem rank_le_advance (state next : SessionState) :
    state.rank ≤ (state.advance next).1.rank := by
  by_cases heq : state = next
  · simp [advance, heq]
  · by_cases hmay : state.mayBecome next = true
    · simpa [advance, heq, hmay] using rank_le_of_mayBecome hmay
    · simp [advance, heq, hmay]

theorem advance_of_rejected (h : (state.advance next).2 = false) :
    (state.advance next).1 = state := by
  by_cases heq : state = next
  · simp [advance, heq]
  · by_cases hmay : state.mayBecome next = true
    · simp [advance, heq, hmay] at h
    · simp [advance, heq, hmay]

theorem advance_of_accepted (h : (state.advance next).2 = true) :
    (state.advance next).1 = next := by
  by_cases heq : state = next
  · simp [advance, heq]
  · by_cases hmay : state.mayBecome next = true
    · simp [advance, heq, hmay]
    · simp [advance, heq, hmay] at h

theorem rank_le_after (state : SessionState)
    (attempts : List SessionState) :
    state.rank ≤ (state.after attempts).rank := by
  induction attempts generalizing state with
  | nil => exact Nat.le_refl _
  | cons next attempts ih =>
    exact Nat.le_trans (rank_le_advance state next) (ih _)

theorem after_closed (attempts : List SessionState) :
    closed.after attempts = closed := by
  induction attempts with
  | nil => rfl
  | cons next attempts ih =>
    have hstay : (closed.advance next).1 = closed := by
      cases next <;> rfl
    rw [after, List.foldl_cons, hstay]
    exact ih

end CardBridge.SessionState

namespace CardBridge.Session

open Dialogue

variable {α ε : Type}

/-! ## What can be seen -/

/-- What those who look at the state of a session can have seen. -/
structure Watch where
  state : SessionState := .idle
  /-- The states so far. -/
  seen : List SessionState := [.idle]
  /-- A call gave up. -/
  unwound : Bool := false

namespace Watch

/-- Somebody tries to move the state. -/
def move (v : Watch) (next : SessionState) : Watch :=
  let state := (v.state.advance next).1
  if state = v.state then v
  else { v with state, seen := v.seen ++ [state] }

/-- Enters what is asked and answered. -/
def enter (v : Watch) : (q : Ask) → Answer q → Watch
  | .advance next, _ => v.move next
  | .card _, answer =>
    match answer with
    | .returned _ => v
    | .unwound => { v with unwound := true }
  | .emit _, answer =>
    match answer with
    | .returned _ => v
    | .unwound => { v with unwound := true }
  | _, _ => v

theorem move_of_accepted {v : Watch} {next : SessionState}
    (h : (v.state.advance next).2 = true) (hne : v.state ≠ next) :
    v.move next = { v with state := next, seen := v.seen ++ [next] } := by
  rw [move, SessionState.advance_of_accepted h, if_neg (Ne.symm hne)]

/-- Only a move can be seen. -/
theorem seen_enter (v : Watch) {q : Ask} (hq : ∀ next, q ≠ .advance next)
    (a : Answer q) : (v.enter q a).seen = v.seen := by
  cases q with
  | advance next => exact absurd rfl (hq next)
  | card op => cases a <;> rfl
  | emit event => cases a <;> rfl
  | _ => rfl

end Watch

/-- What is seen of a step. -/
def Occurrence.watch (v : Watch) : Occurrence → Watch
  | .asked e => v.enter e.question e.answer
  | _ => v

/-- What was seen after these steps. -/
def watchOf (history : List Occurrence) : Watch :=
  history.foldl Occurrence.watch {}

/-- What is answered may be seen. -/
abbrev watched : Surroundings Session Watch :=
  fun q v a v' => v' = v.enter q a

/-! ## The order of the states -/

/-- The state between the beginning and the end, after so many changes from
`connecting` on. -/
def stateAt (listen : Bool) : Nat → SessionState
  | 0 => .connecting
  | n + 1 => if listen = true ∧ n % 2 = 0 then .listening else .connected

/-- The states up to there. -/
def course (listen : Bool) (n : Nat) : List SessionState :=
  .idle :: (List.range (n + 1)).map (stateAt listen)

example : course false 1 = [.idle, .connecting, .connected] := rfl

example : course true 3 =
    [.idle, .connecting, .listening, .connected, .listening] := rfl

/-- The states from beginning to end. -/
def lifetime (listen : Bool) (n : Nat) : List SessionState :=
  course listen n ++ [.closing, .closed]

theorem course_succ (listen : Bool) (n : Nat) :
    course listen (n + 1) = course listen n ++ [stateAt listen (n + 1)] := by
  rw [course, List.range_succ, List.map_append]
  rfl

/-- A session that dials serves one reader at most. -/
def Possible (listen : Bool) (n : Nat) : Prop :=
  listen = false → n ≤ 1

/-- A session is at work, after so many changes. -/
structure At (listen : Bool) (n : Nat) (v : Watch) : Prop where
  possible : Possible listen n
  state : v.state = stateAt listen n
  seen : v.seen = course listen n

/-- What was seen so far is how the life of a session begins. -/
def InCourse (listen : Bool) (v : Watch) : Prop :=
  ∃ n, Possible listen n ∧ v.seen <+: lifetime listen n

variable {listen : Bool} {n : Nat} {v : Watch} {q : Ask}

theorem At.inCourse (h : At listen n v) : InCourse listen v :=
  ⟨n, h.possible, h.seen ▸ List.prefix_append _ _⟩

theorem stateAt_rank_le (listen : Bool) (n : Nat) :
    (stateAt listen n).rank ≤ 2 := by
  cases n with
  | zero => exact Nat.le_succ 1
  | succ n =>
    rw [stateAt]
    split <;> exact Nat.le_refl 2

/-- Between the beginning and the end the next state may always be entered. -/
theorem advance_stateAt (hpossible : Possible listen (n + 1)) :
    ((stateAt listen n).advance (stateAt listen (n + 1))).2 = true ∧
      stateAt listen n ≠ stateAt listen (n + 1) := by
  cases listen with
  | false =>
    obtain rfl : n = 0 := by
      have := hpossible rfl
      omega
    decide
  | true =>
    rcases n with _ | n
    · decide
    · rcases Nat.mod_two_eq_zero_or_one n with h | h
      · have h' : (n + 1) % 2 = 1 := by omega
        simp only [stateAt, h, h']
        decide
      · have h' : (n + 1) % 2 = 0 := by omega
        simp only [stateAt, h, h']
        decide

theorem At.next (h : At listen n v) (hpossible : Possible listen (n + 1)) :
    (v.state.advance (stateAt listen (n + 1))).2 = true ∧
      At listen (n + 1) (v.move (stateAt listen (n + 1))) := by
  obtain ⟨haccepted, hne⟩ := advance_stateAt hpossible
  rw [← h.state] at haccepted hne
  refine ⟨haccepted, hpossible, ?_, ?_⟩
  · rw [Watch.move_of_accepted haccepted hne]
  · rw [Watch.move_of_accepted haccepted hne, course_succ, h.seen]

/-! ## What may be asked in which state -/

/-- An event that has to do with a reader or with the card. -/
def OfService : Event → Prop
  | .connected _ => True
  | .poweredOn => True
  | .poweredOff => True
  | .reset => True
  | .atr _ => True
  | .commandApdu _ => True
  | .responseApdu _ => True
  | _ => False

/-- What a question requires of the state. -/
def Permitted : Ask → Watch → Prop
  | .advance next, v => (v.state.advance next).2 = true
  | .emit event, v =>
    (OfService event → v.state = .connected) ∧
      (event.isTerminal = true → v.state = .closing)
  | .card .eject, v => v.state = .closing ∨ v.unwound = true
  | _, _ => True

/-- The order that is kept at every question. -/
def Watchful (listen : Bool) : Option Ask → Watch → Prop
  | none, v => InCourse listen v
  | some q, v => InCourse listen v ∧ Permitted q v

/-- What has nothing to do with the state. -/
def Aside : Ask → Prop
  | .advance _ => False
  | .card _ => False
  | .emit event => ¬ OfService event ∧ event.isTerminal = false
  | _ => True

/-- What is asked of the card and told of it in the service of a reader. -/
def Attends : Ask → Prop
  | .advance _ => False
  | .card op => op ≠ .eject
  | .emit event => event.isTerminal = false
  | _ => True

theorem Aside.permitted (h : Aside q) : Permitted q v := by
  cases q with
  | advance next => exact h.elim
  | card op => exact h.elim
  | emit event =>
    exact ⟨fun hservice => absurd hservice h.1,
      fun hlast => absurd (h.2.symm.trans hlast) nofun⟩
  | _ => trivial

theorem Attends.permitted (h : Attends q) (hv : v.state = .connected) :
    Permitted q v := by
  cases q with
  | advance next => exact h.elim
  | card op => cases op <;> trivial
  | emit event =>
    exact ⟨fun _ => hv, fun hlast => absurd (h.symm.trans hlast) nofun⟩
  | _ => trivial

/-- Only a move changes the state. -/
theorem At.enter (h : At listen n v) (hq : ∀ next, q ≠ .advance next)
    (a : Answer q) : At listen n (v.enter q a) := by
  obtain ⟨hpossible, hstate, hseen⟩ := h
  cases q with
  | advance next => exact absurd rfl (hq next)
  | card op => cases a <;> exact ⟨hpossible, hstate, hseen⟩
  | emit event => cases a <;> exact ⟨hpossible, hstate, hseen⟩
  | _ => exact ⟨hpossible, hstate, hseen⟩

theorem During.attends (h : During q) : Attends q := by
  match q, h with
  | .socket _, _ | .token .isCancelled, _ => trivial
  | .card _, hop => exact hop
  | .emit event, hevent => cases event <;> first | rfl | exact hevent.elim

theorem At.aside (h : At listen n v) (hq : Aside q) :
    Watchful listen (some q) v :=
  ⟨h.inCourse, hq.permitted⟩

/-- What has nothing to do with the state leaves it as it is. -/
theorem keeps_aside {d : Dialogue Session α} (hd : d.Asks Aside)
    (h : At listen n v) :
    d.Keeps watched (Watchful listen) (fun _ => At listen n) v := by
  refine hd.keeps (J := At listen n) (fun _ _ hq hv => hv.aside hq)
    (fun _ hv => hv.inCourse) ?_ h
  rintro q v a _ hq hv rfl
  exact hv.enter (fun _ heq => by subst heq; exact hq) a

/-- What is done in the service of a reader leaves the state as it is. -/
theorem keeps_attends {d : Dialogue Session α} (hd : d.Asks Attends)
    (h : At listen n v) (hconnected : stateAt listen n = .connected) :
    d.Keeps watched (Watchful listen) (fun _ => At listen n) v := by
  refine hd.keeps (J := At listen n) ?_ ?_ ?_ h
  · intro q v hq hv
    exact ⟨hv.inCourse, hq.permitted (hv.state.trans hconnected)⟩
  · intro v hv
    exact hv.inCourse
  · rintro q v a _ hq hv rfl
    exact hv.enter (fun _ heq => by subst heq; exact hq) a

end CardBridge.Session
