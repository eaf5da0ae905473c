import CardBridge.Proofs.Session.Conduct
import CardBridge.Session.Token

/-!
# A session and those who cancel it

The session and any number of calls to cancel its token, in any order. A
call takes two steps: it sets the flag and takes the handle that the token
holds, and later it shuts that connection down. Between any two steps
anything else may come, so every order of steps is a run of this system.
What the session is answered is left open, except for what the token says.
-/

namespace CardBridge.Session

open Dialogue

/-- How far a call to cancel the token has come. -/
inductive Cancelling where
  /-- It was not made yet. -/
  | pending
  /-- It set the flag and has still to shut the connection down. -/
  | holding (connection : Nat)
  /-- It is over. -/
  | over
  deriving DecidableEq

/-- One step of those who take part. -/
inductive Occurrence where
  /-- The session asked something and was answered. -/
  | asked (exchange : Exchange Session)
  /-- A call turned to the token. -/
  | cancelled (call : Nat)
  /-- A call shut the connection down whose handle it was given. -/
  | shut (call : Nat) (connection : Nat)

/-- Enters a step in the books of the session. -/
def Occurrence.enter (b : Books) : Occurrence → Books
  | .asked e => b.enter e.question e.answer
  | _ => b

/-- The books of the session after these steps. -/
def booksOf (history : List Occurrence) : Books :=
  history.foldl Occurrence.enter {}

/-- What is in the books of the flag was read of it last. -/
theorem last_reading {history : List Occurrence} {b : Books} {flag : Bool}
    (h : (history.foldl Occurrence.enter b).reading = some flag) :
    (b.reading = some flag ∧
        ∀ e, .asked e ∈ history → flag? e.question e.answer = none) ∨
      ∃ earlier e later, history = earlier ++ .asked e :: later ∧
        flag? e.question e.answer = some flag ∧
        ∀ e', .asked e' ∈ later → flag? e'.question e'.answer = none := by
  -- a reading among the later steps comes first; else the first step decides
  induction history generalizing b with
  | nil => exact .inl ⟨h, fun e he => absurd he List.not_mem_nil⟩
  | cons o history ih =>
    rcases ih h with ⟨hreading, hunread⟩ | ⟨earlier, e, later, rfl, hflag⟩
    · cases o with
      | asked e =>
        have henter : (b.enter e.question e.answer).reading = some flag :=
          hreading
        rw [Books.reading_enter] at henter
        cases hflag : flag? e.question e.answer with
        | none =>
          rw [hflag] at henter
          refine .inl ⟨henter, fun e' he' => ?_⟩
          rcases List.mem_cons.mp he' with heq | he'
          · cases heq
            exact hflag
          · exact hunread e' he'
        | some read =>
          rw [hflag] at henter
          exact .inr ⟨[], e, history, rfl, hflag.trans henter, hunread⟩
      | cancelled call =>
        exact .inl ⟨hreading, fun e' he' => hunread e' (by simpa using he')⟩
      | shut call c =>
        exact .inl ⟨hreading, fun e' he' => hunread e' (by simpa using he')⟩
    · exact .inr ⟨o :: earlier, e, later, rfl, hflag⟩

/-- The connections that were shut down by calls to cancel the token, each
with the call. -/
def shuts (history : List Occurrence) : List (Nat × Nat) :=
  history.filterMap fun
    | .shut call connection => some (call, connection)
    | _ => none

/-- Somebody has turned to the token. -/
def Flagged (history : List Occurrence) : Prop :=
  ∃ call, .cancelled call ∈ history

/-- What the token answers, and nothing else, is settled. -/
def TokenGives (token : Token Nat) (connection : Nat) :
    (q : Ask) → Answer q → Prop
  | .token .isCancelled, flag => flag = token.isCancelled
  | .token .register, taken => taken = (token.register connection).1
  | _, _ => True

/-- The token after the session turned to it, or to something else. -/
def tokenAfter (token : Token Nat) (connection : Nat) : Ask → Token Nat
  | .token .register => (token.register connection).2
  | .token .clear => token.clear
  | _ => token

/-- A session, its token, and the calls to cancel it. -/
structure Affair (α : Type) where
  /-- What is left of the session. -/
  session : Dialogue Session α
  /-- The token. The handles in it are the numbers of connections. -/
  token : Token Nat := .fresh
  /-- How far each call has come. -/
  calls : Nat → Cancelling := fun _ => .pending
  /-- The steps so far. -/
  history : List Occurrence := []

namespace Affair

variable {α β : Type}

/-- The books of the session. -/
def books (s : Affair α) : Books :=
  booksOf s.history

/-- The session is answered. -/
def answer (s : Affair α) (q : Ask) (a : Answer q)
    (rest : Dialogue Session α) : Affair α :=
  { s with
    session := rest
    token := tokenAfter s.token s.books.made q
    history := s.history ++ [.asked ⟨q, a⟩] }

/-- A call comes to this point. -/
def setCall (calls : Nat → Cancelling) (call : Nat) (state : Cancelling) :
    Nat → Cancelling :=
  fun other => if other = call then state else calls other

/-- A call sets the flag and is given what the token holds. -/
def cancel (s : Affair α) (call : Nat) : Affair α :=
  { s with
    token := s.token.cancel.2
    calls := setCall s.calls call
      (match s.token.cancel.1 with
        | some connection => .holding connection
        | none => .over)
    history := s.history ++ [.cancelled call] }

/-- A call shuts down the connection that it holds. -/
def shut (s : Affair α) (call connection : Nat) : Affair α :=
  { s with
    calls := setCall s.calls call .over
    history := s.history ++ [.shut call connection] }

/-- One step of one of those who take part. -/
inductive Step : Affair α → Affair α → Prop where
  /-- The session goes on. -/
  | answer {s : Affair α} {q : Ask} {next : Answer q → Dialogue Session α}
    {a : Answer q} (hsession : s.session = .ask q next)
    (ha : TokenGives s.token s.books.made q a) : Step s (s.answer q a (next a))
  /-- Somebody makes a call. -/
  | cancel {s : Affair α} {call : Nat} (hcall : s.calls call = .pending) :
    Step s (s.cancel call)
  /-- A call goes on. -/
  | shut {s : Affair α} {call connection : Nat}
    (hcall : s.calls call = .holding connection) :
    Step s (s.shut call connection)

/-- Some steps in a row. -/
inductive Run (s : Affair α) : Affair α → Prop where
  /-- No step at all. -/
  | start : Run s s
  /-- One more step. -/
  | next {s' s'' : Affair α} (hrun : Run s s') (hstep : Step s' s'') :
    Run s s''

variable {s s' s'' : Affair α} {history earlier later : List Occurrence}

/-! ## Histories -/

theorem books_answer (s : Affair α) (q : Ask) (a : Answer q)
    (rest : Dialogue Session α) :
    (s.answer q a rest).books = s.books.enter q a := by
  simp [books, answer, booksOf, Occurrence.enter]

@[simp] theorem books_cancel (s : Affair α) (call : Nat) :
    (s.cancel call).books = s.books := by
  simp [books, cancel, booksOf, Occurrence.enter]

@[simp] theorem books_shut (s : Affair α) (call connection : Nat) :
    (s.shut call connection).books = s.books := by
  simp [books, shut, booksOf, Occurrence.enter]

theorem Step.history_eq (h : Step s s') :
    ∃ o, s'.history = s.history ++ [o] := by
  cases h with
  | answer => exact ⟨_, rfl⟩
  | cancel => exact ⟨_, rfl⟩
  | shut => exact ⟨_, rfl⟩

theorem Run.trans (h : Run s s') (h' : Run s' s'') : Run s s'' := by
  induction h' with
  | start => exact h
  | next _ hstep ih => exact ih.next hstep

theorem Run.prefix (h : Run s s') : s.history <+: s'.history := by
  induction h with
  | start => exact List.prefix_rfl
  | next _ hstep ih =>
    obtain ⟨o, ho⟩ := hstep.history_eq
    rw [ho]
    exact ih.trans (List.prefix_append _ _)

/-- A run has passed through every part of its history. -/
theorem Run.split (h : Run s s'') (hearlier : s.history <+: earlier)
    (hlater : earlier <+: s''.history) :
    ∃ s', Run s s' ∧ s'.history = earlier ∧ Run s' s'' := by
  induction h with
  | start =>
    have heq := hearlier.eq_of_length_le hlater.length_le
    exact ⟨s, .start, heq, .start⟩
  | next hrun hstep ih =>
    obtain ⟨o, ho⟩ := hstep.history_eq
    rw [ho] at hlater
    rcases List.prefix_concat_iff.mp hlater with heq | hprefix
    · exact ⟨_, hrun.next hstep, ho.trans heq.symm, .start⟩
    · obtain ⟨s', hbefore, hs', hafter⟩ := ih hprefix
      exact ⟨s', hbefore, hs', hafter.next hstep⟩

/-- A run has passed through every answer in its history. -/
theorem Run.answered (h : Run s s'') (hearlier : s.history <+: earlier)
    {e : Exchange Session}
    (hlater : s''.history = earlier ++ .asked e :: later) :
    ∃ s' next, Run s s' ∧ s'.history = earlier ∧
      s'.session = .ask e.question next ∧
      TokenGives s'.token s'.books.made e.question e.answer ∧
      Run (s'.answer e.question e.answer (next e.answer)) s'' := by
  have hone : earlier ++ [.asked e] <+: s''.history := ⟨later, by simp [hlater]⟩
  -- the run has come to where the answer was the last step
  obtain ⟨s₁, hbefore, hs₁, hafter⟩ :=
    h.split (hearlier.trans (List.prefix_append _ _)) hone
  cases hbefore with
  | start =>
    have hlength := hearlier.length_le
    simp only [hs₁, List.length_append, List.length_cons,
      List.length_nil] at hlength
    omega
  | next hrun hstep =>
    cases hstep with
    | answer hsession ha =>
      obtain ⟨rfl, heq⟩ := List.append_inj' hs₁ rfl
      cases heq
      exact ⟨_, _, hrun, rfl, hsession, ha, hafter⟩
    | cancel => simp [cancel] at hs₁
    | shut => simp [shut] at hs₁

/-- What the program of the session keeps to, it keeps to in company. -/
theorem Run.keeps {P : Option Ask → Books → Prop} {Q : α → Books → Prop}
    (h : Run s s') (hs : s.session.Keeps entered P Q s.books) :
    s'.session.Keeps entered P Q s'.books := by
  induction h with
  | start => exact hs
  | next _ hstep ih =>
    cases hstep with
    | answer hsession _ =>
      rw [hsession] at ih
      exact ih.step (books_answer _ _ _ _)
    | cancel =>
      rw [books_cancel]
      exact ih
    | shut =>
      rw [books_shut]
      exact ih

/-! ## One part after another -/

/-- The same, with this left of the session. -/
def continuing (s : Affair α) (rest : Dialogue Session β) : Affair β where
  session := rest
  token := s.token
  calls := s.calls
  history := s.history

/-- A step of a session of two parts is one of the first, unless that is
over. -/
theorem Step.of_continuing {f : α → Dialogue Session β} {u : Affair β}
    (hstep : Step (s.continuing (s.session >>= f)) u) :
    (∃ t, Step s t ∧ u = t.continuing (t.session >>= f)) ∨
      ∃ a, s.session = .done a := by
  cases hstep with
  | answer hsession ha =>
    cases hfirst : s.session with
    | done a => exact .inr ⟨a, rfl⟩
    | cut =>
      rw [hfirst] at hsession
      cases hsession
    | ask q next =>
      rw [hfirst] at hsession
      cases hsession
      exact .inl ⟨_, .answer hfirst ha, rfl⟩
  | cancel hcall => exact .inl ⟨_, .cancel hcall, rfl⟩
  | shut hcall => exact .inl ⟨_, .shut hcall, rfl⟩

theorem Run.of_continuing {f : α → Dialogue Session β} {u : Affair β}
    (hrun : Run (s.continuing (s.session >>= f)) u) :
    (∃ t, Run s t ∧ u = t.continuing (t.session >>= f)) ∨
      ∃ t a, Run s t ∧ t.session = .done a ∧ Run (t.continuing (f a)) u := by
  induction hrun with
  | start => exact .inl ⟨s, .start, rfl⟩
  | next _ hstep ih =>
    rcases ih with ⟨t, hbefore, rfl⟩ | ⟨t, a, hbefore, ht, hafter⟩
    · rcases hstep.of_continuing with ⟨t', hstep', rfl⟩ | ⟨a, ht⟩
      · exact .inl ⟨t', hbefore.next hstep', rfl⟩
      · rw [ht] at hstep
        exact .inr ⟨t, a, hbefore, ht, Run.start.next hstep⟩
    · exact .inr ⟨t, a, hbefore, ht, hafter.next hstep⟩

/-- A session of two parts that is over has been where the first was over. -/
theorem Run.worked {f : α → Dialogue Session β} {u : Affair β} {b : β}
    (hrun : Run (s.continuing (s.session >>= f)) u)
    (hdone : u.session = .done b) :
    ∃ t a, Run s t ∧ t.session = .done a ∧ Run (t.continuing (f a)) u := by
  rcases hrun.of_continuing with ⟨t, hbefore, rfl⟩ | hworked
  · cases ht : t.session with
    | done a => exact ⟨t, a, hbefore, ht, .start⟩
    | cut =>
      rw [ht] at hdone
      cases hdone
    | ask q next =>
      rw [ht] at hdone
      cases hdone
  · exact hworked

/-! ## The token -/

/-- Nobody has turned to the token yet but the session. -/
structure Unflagged (s : Affair α) : Prop where
  unflagged : ¬ Flagged s.history
  token : s.token = .active s.books.serving
  calls : ∀ call, s.calls call = .pending
  shuts : shuts s.history = []

/-- The call `first` has set the flag, after the steps `earlier`. It was
given the connection that the token held then, and has shut it down or is to
do so; no other call was given anything. -/
structure FlaggedBy (earlier : List Occurrence) (first : Nat) (s : Affair α) :
    Prop where
  history : ∃ later, s.history = earlier ++ .cancelled first :: later
  unflagged : ¬ Flagged earlier
  token : s.token = .cancelled
  serving : ∀ c, s.books.serving = some c →
    (booksOf earlier).serving = some c
  given : ∀ c, (booksOf earlier).serving = some c →
    s.calls first = .holding c ∧ shuts s.history = [] ∨
      s.calls first = .over ∧ shuts s.history = [(first, c)]
  nothing : (booksOf earlier).serving = none →
    s.calls first = .over ∧ shuts s.history = []
  others : ∀ call c, s.calls call = .holding c → call = first

/-- What is true of the token at any time. -/
def Sound (s : Affair α) : Prop :=
  Unflagged s ∨ ∃ earlier first, FlaggedBy earlier first s

@[simp] theorem flagged_concat {o : Occurrence} :
    Flagged (history ++ [o]) ↔
      Flagged history ∨ ∃ call, o = .cancelled call := by
  simp [Flagged, exists_or, eq_comm]

@[simp] theorem setCall_self (calls : Nat → Cancelling) (call : Nat)
    (state : Cancelling) : setCall calls call state call = state := by
  simp [setCall]

theorem setCall_of_ne (calls : Nat → Cancelling) {call other : Nat}
    (state : Cancelling) (h : other ≠ call) :
    setCall calls call state other = calls other := by
  simp [setCall, h]

theorem calls_cancel_of_ne (s : Affair α) {call other : Nat}
    (h : other ≠ call) : (s.cancel call).calls other = s.calls other :=
  setCall_of_ne _ _ h

theorem calls_shut_of_ne (s : Affair α) {call other : Nat} (c : Nat)
    (h : other ≠ call) : (s.shut call c).calls other = s.calls other :=
  setCall_of_ne _ _ h

/-- Before the flag is set the token holds what is being served. -/
theorem tokenAfter_active (b : Books) {q : Ask} {a : Answer q}
    (ha : TokenGives (.active b.serving) b.made q a) :
    tokenAfter (.active b.serving) b.made q =
      .active (b.enter q a).serving := by
  match q, a, ha with
  | .network (.connect _ _), .ok _, _ | .network (.connect _ _), .error _, _
  | .network (.poll _), .ok (some _), _ | .network (.poll _), .ok none, _
  | .network (.poll _), .error _, _ | .network (.resolve _ _), _, _
  | .network (.listen _), _, _ | .network .unpoll, _, _ => rfl
  | .socket (.stream _), _, _ | .socket (.noDelay _), _, _
  | .socket (.readTimeout _), _, _ | .socket (.writeTimeout _), _, _
  | .socket .duplicate, _, _ | .socket .shutdown, _, _ => rfl
  | .card _, _, _ | .localAddresses, _, _ | .emit _, _, _
  | .advance _, _, _ | .log _, _, _ => rfl
  | .token .isCancelled, _, _ | .token .clear, _, _ => rfl
  | .token .register, _, rfl => rfl

theorem tokenAfter_cancelled (connection : Nat) (q : Ask) :
    tokenAfter .cancelled connection q = .cancelled := by
  match q with
  | .token .isCancelled | .token .clear | .token .register => rfl
  | .network _ | .socket _ | .card _ | .localAddresses | .emit _
  | .advance _ | .log _ => rfl

/-- What is read of the flag is what the token says. -/
theorem TokenGives.flag_eq {token : Token Nat} {connection : Nat} {q : Ask}
    {a : Answer q} (ha : TokenGives token connection q a) {flag : Bool}
    (h : flag? q a = some flag) : flag = token.isCancelled := by
  cases q with
  | token q =>
    cases q with
    | isCancelled => exact (Option.some.inj h).symm.trans ha
    | register =>
      rw [← Option.some.inj h, show a = _ from ha, Token.register_fst,
        Bool.not_not]
    | clear => cases h
  | _ => cases h

/-- Once the flag is set nothing is served that was not served before. -/
theorem serving_enter_of_cancelled (b : Books) {connection : Nat} {q : Ask}
    {a : Answer q} (ha : TokenGives .cancelled connection q a) {c : Nat}
    (h : (b.enter q a).serving = some c) : b.serving = some c := by
  cases b.turn q a with
  | aside _ h' => exact h'.serving ▸ h
  | cleared _ h' => simp [h'] at h
  | read _ _ h' =>
    rw [h'] at h
    exact h
  | taken _ hflag _ => cases TokenGives.flag_eq ha hflag
  | refused _ _ h' =>
    rw [h'] at h
    exact h

theorem Unflagged.answer (h : Unflagged s) {q : Ask} {a : Answer q}
    (rest : Dialogue Session α) (ha : TokenGives s.token s.books.made q a) :
    Unflagged (s.answer q a rest) := by
  rw [h.token] at ha
  refine ⟨?_, ?_, h.calls, ?_⟩
  · simpa [Affair.answer] using h.unflagged
  · rw [books_answer]
    simp only [Affair.answer, h.token]
    exact tokenAfter_active s.books ha
  · simpa [Affair.answer, Session.shuts] using h.shuts

theorem Unflagged.cancel (h : Unflagged s) (call : Nat) :
    FlaggedBy s.history call (s.cancel call) := by
  refine ⟨⟨[], rfl⟩, h.unflagged, by simp [Affair.cancel], ?_, ?_, ?_, ?_⟩
  · intro c hc
    rw [books_cancel] at hc
    exact hc
  · intro c hc
    refine .inl ⟨?_, by simpa [Affair.cancel, Session.shuts] using h.shuts⟩
    simp [Affair.cancel, h.token, Token.connection?, books, hc]
  · intro hc
    refine ⟨?_, by simpa [Affair.cancel, Session.shuts] using h.shuts⟩
    simp [Affair.cancel, h.token, Token.connection?, books, hc]
  · intro other c hc
    apply Decidable.byContradiction
    intro hne
    simp [calls_cancel_of_ne s hne, h.calls] at hc

theorem FlaggedBy.answer {first : Nat} (h : FlaggedBy earlier first s) {q : Ask}
    {a : Answer q} (rest : Dialogue Session α)
    (ha : TokenGives s.token s.books.made q a) :
    FlaggedBy earlier first (s.answer q a rest) := by
  obtain ⟨later, hhistory⟩ := h.history
  rw [h.token] at ha
  have hshuts : Session.shuts (s.answer q a rest).history =
      Session.shuts s.history := by
    simp [Affair.answer, Session.shuts]
  refine ⟨⟨later ++ [.asked ⟨q, a⟩], ?_⟩, h.unflagged, ?_, ?_, ?_, ?_,
    h.others⟩
  · simp [Affair.answer, hhistory]
  · simp only [Affair.answer, h.token]
    exact tokenAfter_cancelled _ q
  · intro c hc
    rw [books_answer] at hc
    exact h.serving c (serving_enter_of_cancelled s.books ha hc)
  · rw [hshuts]
    exact h.given
  · rw [hshuts]
    exact h.nothing

/-- The call that set the flag is no longer to be made. -/
theorem FlaggedBy.first_ne {first call : Nat} (h : FlaggedBy earlier first s)
    (hcall : s.calls call = .pending) : first ≠ call := by
  intro hsame
  subst hsame
  cases hserving : (booksOf earlier).serving with
  | none => simp [h.nothing hserving] at hcall
  | some c =>
    rcases h.given c hserving with ⟨hc, -⟩ | ⟨hc, -⟩
    · simp [hc] at hcall
    · simp [hc] at hcall

theorem FlaggedBy.cancel {first call : Nat} (h : FlaggedBy earlier first s)
    (hcall : s.calls call = .pending) :
    FlaggedBy earlier first (s.cancel call) := by
  obtain ⟨later, hhistory⟩ := h.history
  have hne := h.first_ne hcall
  have hshuts : Session.shuts (s.cancel call).history =
      Session.shuts s.history := by
    simp [Affair.cancel, Session.shuts]
  have hfirst := calls_cancel_of_ne s hne
  refine ⟨⟨later ++ [.cancelled call], ?_⟩, h.unflagged, ?_, ?_, ?_, ?_, ?_⟩
  · simp [Affair.cancel, hhistory]
  · simp [Affair.cancel]
  · rw [books_cancel]
    exact h.serving
  · rw [hshuts, hfirst]
    exact h.given
  · rw [hshuts, hfirst]
    exact h.nothing
  · intro other c hc
    by_cases heq : other = call
    · -- the token has nothing left to give
      subst heq
      simp [Affair.cancel, h.token, Token.connection?] at hc
    · rw [calls_cancel_of_ne s heq] at hc
      exact h.others other c hc

theorem FlaggedBy.shut {first call c : Nat} (h : FlaggedBy earlier first s)
    (hcall : s.calls call = .holding c) :
    FlaggedBy earlier first (s.shut call c) := by
  obtain ⟨later, hhistory⟩ := h.history
  obtain rfl := h.others call c hcall
  refine ⟨⟨later ++ [.shut call c], ?_⟩, h.unflagged, h.token, ?_, ?_, ?_,
    ?_⟩
  · simp [Affair.shut, hhistory]
  · rw [books_shut]
    exact h.serving
  · -- what it was given is what it shuts down
    intro c' hc'
    rcases h.given c' hc' with ⟨hheld, hshuts⟩ | ⟨hover, -⟩
    · obtain rfl : c = c' := by simpa [hcall] using hheld
      refine .inr ⟨by simp [Affair.shut], ?_⟩
      simp only [Session.shuts] at hshuts
      simp [Affair.shut, Session.shuts, hshuts]
    · simp [hover] at hcall
  · intro hnone
    simp [h.nothing hnone] at hcall
  · intro other c' hc'
    by_cases heq : other = call
    · exact heq
    · rw [calls_shut_of_ne s c heq] at hc'
      exact h.others other c' hc'

theorem Step.sound (hstep : Step s s') (h : Sound s) : Sound s' := by
  cases hstep with
  | answer _ ha =>
    rcases h with h | ⟨earlier, first, h⟩
    · exact .inl (h.answer _ ha)
    · exact .inr ⟨earlier, first, h.answer _ ha⟩
  | cancel hcall =>
    rcases h with h | ⟨earlier, first, h⟩
    · exact .inr ⟨_, _, h.cancel _⟩
    · exact .inr ⟨earlier, first, h.cancel hcall⟩
  | shut hcall =>
    rcases h with h | ⟨earlier, first, h⟩
    · simp [h.calls] at hcall
    · exact .inr ⟨earlier, first, h.shut hcall⟩

/-- Whatever the order of steps, the token is sound. -/
theorem Run.sound (hrun : Run s s') (h : Sound s) : Sound s' := by
  induction hrun with
  | start => exact h
  | next _ hstep ih => exact hstep.sound ih

/-- The flag is set if somebody has turned to the token. -/
theorem Sound.isCancelled_iff (h : Sound s) :
    s.token.isCancelled = true ↔ Flagged s.history := by
  rcases h with h | ⟨earlier, first, h⟩
  · simp [h.token, Token.isCancelled, h.unflagged]
  · obtain ⟨later, hhistory⟩ := h.history
    simp [h.token, Token.isCancelled, Flagged, hhistory, exists_or]

/-! ## What the books keep -/

/-- What no answer can change in the books holds to the end of a run. -/
theorem Run.books_keep {J : Books → Prop} (hrun : Run s s')
    (hanswer : ∀ t q next a, Run s t → t.session = .ask q next →
      TokenGives t.token t.books.made q a → J t.books →
        J (t.books.enter q a))
    (h : J s.books) : J s'.books := by
  induction hrun with
  | start => exact h
  | next hbefore hstep ih =>
    cases hstep with
    | answer hsession ha =>
      rw [books_answer]
      exact hanswer _ _ _ _ hbefore hsession ha ih
    | cancel =>
      rw [books_cancel]
      exact ih
    | shut =>
      rw [books_shut]
      exact ih

theorem Run.consistent (hrun : Run s s') (h : s.books.Consistent) :
    s'.books.Consistent :=
  hrun.books_keep (fun _ _ _ _ _ _ _ hb => hb.enter) h

/-- A session that has not begun, with a token that nobody has used. -/
def opening (session : Dialogue Session α) : Affair α where
  session := session

theorem sound_opening (session : Dialogue Session α) :
    Sound (opening session) :=
  .inl ⟨by simp [opening, Flagged], rfl, fun _ => rfl, rfl⟩

/-! ## Runs in which nothing is left open -/

/-- The answer of the token, or else the one that is given. -/
def tokenOr (token : Token Nat) (connection : Nat) :
    (q : Ask) → Answer q → Answer q
  | .token .isCancelled, _ => token.isCancelled
  | .token .register, _ => (token.register connection).1
  | _, a => a

theorem tokenGives_tokenOr (token : Token Nat) (connection : Nat) (q : Ask)
    (a : Answer q) :
    TokenGives token connection q (tokenOr token connection q a) := by
  cases q with
  | token q => cases q <;> trivial
  | _ => trivial

/-- The session is answered so many times, always the same to the same
question. -/
def proceed (world : (q : Ask) → Answer q) : Nat → Affair α → Affair α
  | 0, s => s
  | n + 1, s =>
    match s.session with
    | .ask q next =>
      let a := tokenOr s.token s.books.made q (world q)
      proceed world n (s.answer q a (next a))
    | _ => s

theorem run_proceed (world : (q : Ask) → Answer q) (n : Nat)
    (s : Affair α) : Run s (proceed world n s) := by
  induction n generalizing s with
  | zero => exact .start
  | succ n ih =>
    rw [proceed]
    split
    · rename_i q next hsession
      exact (Run.start.next (.answer hsession
        (tokenGives_tokenOr _ _ _ _))).trans (ih _)
    · exact .start

/-- A world in which every host is one reader, everything succeeds, and all
reads give the same. -/
def mildWorld (received : Except IoError Bytes) : (q : Ask) → Answer q
  | .network (.resolve _ _) => .ok ["peer"]
  | .network (.connect _ _) => .ok (some "peer")
  | .network (.listen _) => .ok 0
  | .network (.poll _) => .ok (some (some "peer"))
  | .network .unpoll => .ok ()
  | .socket (.stream (.receive _)) => received
  | .socket (.stream (.send offered)) => .ok offered.length
  | .socket (.stream .flush) => .ok ()
  | .socket (.noDelay _) => .ok ()
  | .socket (.readTimeout _) => .ok ()
  | .socket (.writeTimeout _) => .ok ()
  | .socket .duplicate => .ok ()
  | .socket .shutdown => .ok ()
  | .card .atr => .returned (.ok [])
  | .card (.transmit _) => .returned (.ok [])
  | .card .powerOn => .returned (.ok ())
  | .card .powerOff => .returned (.ok ())
  | .card .reset => .returned (.ok ())
  | .card .eject => .returned (.ok ())
  | .token .isCancelled => false
  | .token .register => true
  | .token .clear => ()
  | .localAddresses => .ok []
  | .emit _ => .returned ()
  | .advance _ => ()
  | .log _ => ()

end Affair

end CardBridge.Session
