import CardBridge.Proofs.Session.Affair

/-!
# No cancellation is lost

In every order of the steps of a session and of those who cancel it, a
connection that is served when the flag is set is shut down, one that was
taken back before never is, and the reason for which the session ends is
what the flag was when the session read it last.
-/

namespace CardBridge.Session

open Dialogue

namespace Affair

variable {s s' : Affair Outcome} {rounds : Nat} {config : SessionConfig}
  {cardName : String} {earlier later : List Occurrence}

/-- A session that has come some way, in the company of those who may cancel
it. -/
structure Reached (s : Affair Outcome) : Prop where
  sound : Sound s
  consistent : s.books.Consistent
  keeps : s.session.Keeps entered Orderly CameOut s.books

theorem idle_nil : Idle {} :=
  ⟨⟨⟨List.not_mem_nil, nofun⟩, rfl, nofun⟩, rfl, nofun⟩

theorem reached_opening (rounds : Nat) (config : SessionConfig)
    (cardName : String) : Reached (opening (run rounds config cardName)) :=
  ⟨sound_opening _, nofun, keeps_run rounds config cardName idle_nil⟩

theorem Run.reached (hrun : Run s s') (h : Reached s) : Reached s' :=
  ⟨hrun.sound h.sound, hrun.consistent h.consistent, hrun.keeps h.keeps⟩

theorem Reached.orderly (h : Reached s) {q : Ask}
    {next : Answer q → Dialogue Session Outcome}
    (hsession : s.session = .ask q next) : Orderly (some q) s.books := by
  have hkeeps := h.keeps
  rw [hsession] at hkeeps
  exact hkeeps.1

theorem Reached.cameOut (h : Reached s) {outcome : Outcome}
    (hsession : s.session = .done outcome) : CameOut outcome s.books := by
  have hkeeps := h.keeps
  rw [hsession] at hkeeps
  exact hkeeps

theorem Reached.woundUp (h : Reached s) {reason : ExitReason}
    (hsession : s.session = .done (.ended reason)) :
    ∃ worked before, (∀ event ∈ before, Ordinary event) ∧
      WoundUp worked before reason s.books :=
  h.cameOut hsession

/-! ## Connections -/

/-- A connection that was taken back is not served again. -/
theorem Run.retired (hrun : Run s s') (h : Reached s) {c : Nat}
    (hregistered : c ∈ s.books.registered)
    (hserving : s.books.serving ≠ some c) : s'.books.serving ≠ some c := by
  have hkeep := hrun.books_keep
    (J := fun b => c ∈ b.registered ∧ b.serving ≠ some c) ?_
    ⟨hregistered, hserving⟩
  · exact hkeep.2
  · intro t q next a hbefore hsession _ hb
    obtain ⟨hc, hnot⟩ := hb
    -- only a new connection can be offered to the token
    refine ⟨Books.registered_enter hc, fun heq => ?_⟩
    rcases Books.serving_enter heq with heq | ⟨rfl, rfl⟩
    · exact hnot heq
    · have hfresh := ((hbefore.reached h).orderly hsession).2.2
      exact Nat.lt_irrefl _ (hfresh _ hc)

/-- Once the token has refused a connection, the session only winds up. -/
theorem Run.closing (hrun : Run s s') (h : Reached s)
    (hrefused : s.books.refused = true)
    {e : Exchange Session} (hlater : s'.history = s.history ++ later)
    (he : .asked e ∈ later) : Closing e.question := by
  obtain ⟨between, rest, rfl⟩ := List.append_of_mem he
  obtain ⟨t, next, hbefore, -, hsession, -, -⟩ :=
    hrun.answered (List.prefix_append _ between) (by simpa using hlater)
  have ht := hbefore.books_keep (J := fun b => b.refused = true)
    (fun _ _ _ _ _ _ _ hb => Books.refused_enter hb) hrefused
  exact ((hbefore.reached h).orderly hsession).1 ht

/-! ## The token and the session -/

/-- What is true, at any time, of a session that may be cancelled by
anyone. -/
structure Heeded (s : Affair Outcome) : Prop where
  /-- If the flag is set while a connection is served, that connection has
  been shut down, or it is for the call that set the flag, and for no other,
  to do so next. -/
  notLost : ∀ c, s.token.isCancelled = true → s.books.serving = some c →
    ∃ earlier first later,
      s.history = earlier ++ .cancelled first :: later ∧ ¬ Flagged earlier ∧
        ((first, c) ∈ shuts s.history ∨
          s.calls first = .holding c ∧
            (∀ call c', s.calls call = .holding c' → call = first) ∧
            Step s (s.shut first c))
  /-- A connection that is offered once the flag is set is refused and never
  served. -/
  refused : ∀ earlier taken later,
    s.history = earlier ++ .asked ⟨.token .register, taken⟩ :: later →
      Flagged earlier →
        taken = false ∧ ∀ e, .asked e ∈ later → Closing e.question
  /-- A connection that was taken back before the flag was set is not shut
  down by anyone who sets it. -/
  cleared : ∀ earlier later c,
    s.history = earlier ++ .asked ⟨.token .clear, ()⟩ :: later →
      ¬ Flagged earlier → (booksOf earlier).serving = some c →
        ∀ call, (call, c) ∉ shuts s.history ∧ s.calls call ≠ .holding c
  /-- At most one connection is shut down. -/
  once : (shuts s.history).length ≤ 1
  /-- The session ends because it was cancelled if and only if the flag was
  set when it read the flag last. -/
  reason : ∀ reason, s.session = .done (.ended reason) →
    ∃ earlier e later, s.history = earlier ++ .asked e :: later ∧
      flag? e.question e.answer ≠ none ∧
      (∀ e', .asked e' ∈ later → flag? e'.question e'.answer = none) ∧
      (reason = .cancelled ↔ Flagged earlier)
  /-- Then it reports no failure. -/
  silent : s.session = .done (.ended .cancelled) →
    ∀ message, .error message ∉ s.books.events
  /-- It does end so if the flag was set while a connection was served,
  whatever became of that connection. -/
  served : ∀ earlier call later reason,
    s.history = earlier ++ .cancelled call :: later →
      (booksOf earlier).serving ≠ none →
        s.session = .done (.ended reason) → reason = .cancelled

theorem Sound.notLost (h : Sound s) {c : Nat}
    (hflag : s.token.isCancelled = true) (hserving : s.books.serving = some c) :
    ∃ earlier first later,
      s.history = earlier ++ .cancelled first :: later ∧ ¬ Flagged earlier ∧
        ((first, c) ∈ shuts s.history ∨
          s.calls first = .holding c ∧
            (∀ call c', s.calls call = .holding c' → call = first) ∧
            Step s (s.shut first c)) := by
  rcases h with h | ⟨earlier, first, h⟩
  · simp [h.token, Token.isCancelled] at hflag
  · obtain ⟨later, hhistory⟩ := h.history
    refine ⟨earlier, first, later, hhistory, h.unflagged, ?_⟩
    rcases h.given c (h.serving c hserving) with ⟨hheld, -⟩ | ⟨-, hshuts⟩
    · exact .inr ⟨hheld, h.others, .shut hheld⟩
    · exact .inl (by simp [hshuts])

theorem Sound.once (h : Sound s) : (shuts s.history).length ≤ 1 := by
  rcases h with h | ⟨earlier, first, h⟩
  · simp [h.shuts]
  · cases hserving : (booksOf earlier).serving with
    | none => simp [(h.nothing hserving).2]
    | some c =>
      rcases h.given c hserving with ⟨-, hshuts⟩ | ⟨-, hshuts⟩ <;>
        simp [hshuts]

theorem Run.refused (hrun : Run (opening (run rounds config cardName)) s)
    {taken : Bool}
    (hhistory : s.history =
      earlier ++ .asked ⟨.token .register, taken⟩ :: later)
    (hflagged : Flagged earlier) :
    taken = false ∧ ∀ e, .asked e ∈ later → Closing e.question := by
  obtain ⟨t, next, hbefore, ht, hsession, htoken, hafter⟩ :=
    hrun.answered List.nil_prefix hhistory
  have hreached := hbefore.reached (reached_opening rounds config cardName)
  have hcancelled : t.token.isCancelled = true :=
    hreached.sound.isCancelled_iff.mpr (ht ▸ hflagged)
  have htaken : taken = (t.token.register t.books.made).1 := htoken
  rw [Token.register_fst, hcancelled] at htaken
  subst htaken
  refine ⟨rfl, fun e he => ?_⟩
  have hnext := (Run.start.next (.answer hsession htoken)).reached hreached
  refine hafter.closing hnext ?_ (?_ : _ = _ ++ later) he
  · rw [books_answer]
    rfl
  · simp [hhistory, answer, ht]

/-- Only the connection that was served when the flag was set is given to
anyone. -/
theorem Sound.given (h : Sound s) {call c : Nat}
    (hgiven : (call, c) ∈ shuts s.history ∨ s.calls call = .holding c) :
    ∃ earlier first later,
      s.history = earlier ++ .cancelled first :: later ∧
        (booksOf earlier).serving = some c := by
  rcases h with h | ⟨earlier, first, h⟩
  · simp [h.shuts, h.calls] at hgiven
  · obtain ⟨later, hhistory⟩ := h.history
    refine ⟨earlier, first, later, hhistory, ?_⟩
    cases hserving : (booksOf earlier).serving with
    | none =>
      obtain ⟨hover, hshuts⟩ := h.nothing hserving
      rcases hgiven with hgiven | hgiven
      · simp [hshuts] at hgiven
      · obtain rfl := h.others call c hgiven
        simp [hover] at hgiven
    | some c' =>
      rcases h.given c' hserving with ⟨hheld, hshuts⟩ | ⟨hover, hshuts⟩
      · rcases hgiven with hgiven | hgiven
        · simp [hshuts] at hgiven
        · obtain rfl := h.others call c hgiven
          simpa [hheld] using hgiven
      · rcases hgiven with hgiven | hgiven
        · obtain ⟨-, rfl⟩ : call = first ∧ c = c' := by
            simpa [hshuts] using hgiven
          rfl
        · obtain rfl := h.others call c hgiven
          simp [hover] at hgiven

/-- The first of two different steps in a history comes before the other if
it is not among the steps before that. -/
theorem prefix_of_cancelled {earlier later before after : List Occurrence}
    {e : Exchange Session} {call : Nat}
    (h : earlier ++ .asked e :: later = before ++ .cancelled call :: after)
    (hflagged : ¬ Flagged earlier) : earlier ++ [.asked e] <+: before := by
  rcases List.append_eq_append_iff.mp h with
    ⟨between, rfl, heq⟩ | ⟨between, rfl, heq⟩
  · cases between with
    | nil => cases heq
    | cons o between =>
      obtain ⟨rfl, -⟩ := List.cons.inj heq
      exact ⟨between, by simp⟩
  · cases between with
    | nil => cases heq
    | cons o between =>
      obtain ⟨rfl, -⟩ := List.cons.inj heq
      exact absurd ⟨call, by simp⟩ hflagged

theorem Run.cleared (hrun : Run (opening (run rounds config cardName)) s)
    {c : Nat}
    (hhistory : s.history = earlier ++ .asked ⟨.token .clear, ()⟩ :: later)
    (hflagged : ¬ Flagged earlier)
    (hserving : (booksOf earlier).serving = some c) (call : Nat) :
    (call, c) ∉ shuts s.history ∧ s.calls call ≠ .holding c := by
  have hreached := reached_opening rounds config cardName
  obtain ⟨t, next, hbefore, ht, hsession, htoken, hafter⟩ :=
    hrun.answered List.nil_prefix hhistory
  have hthen := hbefore.reached hreached
  have hregistered : c ∈ t.books.registered :=
    (hthen.consistent c (by rw [books, ht, hserving])).1
  have hnext := (Run.start.next (.answer hsession htoken)).reached hthen
  rw [← not_or]
  intro hgiven
  obtain ⟨before, first, after, heq, hlast⟩ :=
    (hrun.reached hreached).sound.given hgiven
  -- the connection would have to be served again when the flag is set
  have hprefix := prefix_of_cancelled (hhistory.symm.trans heq) hflagged
  obtain ⟨u, hu, hhistory', -⟩ := hafter.split
    (by simpa [answer, ht] using hprefix) ⟨_, heq.symm⟩
  refine hu.retired hnext (c := c) ?_ ?_ ?_
  · rw [books_answer]
    exact Books.registered_enter hregistered
  · simp [books_answer, Books.enter]
  · rw [books, hhistory', hlast]

theorem Run.reason (hrun : Run (opening (run rounds config cardName)) s)
    {reason : ExitReason} (hdone : s.session = .done (.ended reason)) :
    ∃ earlier e later, s.history = earlier ++ .asked e :: later ∧
      flag? e.question e.answer ≠ none ∧
      (∀ e', .asked e' ∈ later → flag? e'.question e'.answer = none) ∧
      (reason = .cancelled ↔ Flagged earlier) := by
  have hreached := reached_opening rounds config cardName
  obtain ⟨_, _, -, hwound⟩ := (hrun.reached hreached).woundUp hdone
  rcases last_reading hwound.reading with
    ⟨hnone, -⟩ | ⟨earlier, e, later, hhistory, hflag, hunread⟩
  · cases hnone
  · obtain ⟨t, next, hbefore, rfl, hsession, htoken, -⟩ :=
      hrun.answered List.nil_prefix hhistory
    refine ⟨t.history, e, later, hhistory, by simp [hflag], hunread, ?_⟩
    rw [← (hbefore.reached hreached).sound.isCancelled_iff,
      ← TokenGives.flag_eq htoken hflag, decide_eq_true_iff]

theorem Reached.silent (h : Reached s)
    (hdone : s.session = .done (.ended .cancelled)) (message : String) :
    .error message ∉ s.books.events := by
  obtain ⟨_, before, hordinary, hwound⟩ := h.woundUp hdone
  obtain ⟨report, hevents, -, rfl⟩ := hwound.events
  rw [hevents]
  simp only [List.append_nil, List.mem_append, List.mem_singleton, reduceCtorEq,
    or_false]
  exact fun hmem => hordinary _ hmem

/-- A flag that is set while a connection is served is read later. -/
theorem Run.served (hrun : Run (opening (run rounds config cardName)) s)
    {call : Nat} {reason : ExitReason}
    (hhistory : s.history = earlier ++ .cancelled call :: later)
    (hserving : (booksOf earlier).serving ≠ none)
    (hdone : s.session = .done (.ended reason)) : reason = .cancelled := by
  have hreached := reached_opening rounds config cardName
  have hprefix : earlier ++ [.cancelled call] <+: s.history :=
    ⟨later, by simp [hhistory]⟩
  obtain ⟨t, hbefore, ht, hafter⟩ := hrun.split List.nil_prefix hprefix
  have hthen := hbefore.reached hreached
  have hbooks : t.books = booksOf earlier := by
    simp [books, ht, booksOf, Occurrence.enter]
  obtain ⟨c, hc⟩ := Option.ne_none_iff_exists'.mp hserving
  have hdue : t.books.due = true :=
    (hthen.consistent c (by rw [hbooks, hc])).2
  -- a reading is due, and once made it is a reading of the flag that is set
  have hkeep := hafter.books_keep
    (J := fun b => b.due = true ∨ b.reading = some true) ?_ (.inl hdue)
  · obtain ⟨_, _, -, hwound⟩ := (hrun.reached hreached).woundUp hdone
    rcases hkeep with hdue | hreading
    · cases hdue.symm.trans hwound.due
    · simpa using hwound.reading.symm.trans hreading
  · intro u q next a hu hsession htoken hb
    have hflagged : Flagged u.history :=
      ⟨call, hu.prefix.subset (by simp [ht])⟩
    have hcancelled : u.token.isCancelled = true :=
      (hu.reached hthen).sound.isCancelled_iff.mpr hflagged
    cases u.books.turn q a with
    | aside _ h =>
      rw [h.due, h.reading]
      exact hb
    | cleared _ h =>
      rw [h]
      exact hb
    | read flag hflag h =>
      rw [h, TokenGives.flag_eq htoken hflag, hcancelled]
      exact .inr rfl
    | taken _ hflag _ =>
      cases (TokenGives.flag_eq htoken hflag).trans hcancelled
    | refused _ _ h =>
      rw [h]
      exact .inr rfl

/-- In every order of the steps of a session and of those who cancel it,
every cancellation is heeded. -/
theorem Run.heeded (hrun : Run (opening (run rounds config cardName)) s) :
    Heeded s := by
  have hreached := hrun.reached (reached_opening rounds config cardName)
  refine ⟨?_, ?_, ?_, hreached.sound.once, ?_, hreached.silent, ?_⟩
  · intro c hflag hserving
    exact hreached.sound.notLost hflag hserving
  · intro earlier taken later hhistory hflagged
    exact hrun.refused hhistory hflagged
  · intro earlier later c hhistory hflagged hserving
    exact hrun.cleared hhistory hflagged hserving
  · intro reason hdone
    exact hrun.reason hdone
  · intro earlier call later reason hhistory hserving hdone
    exact hrun.served hhistory hserving hdone

/-- A call comes while the session waits for a frame. The wait fails once
the connection is shut down, and that is no failure of the session. -/
theorem heeded_while_reading :
    ∃ s, Run (opening (run 2 (.client "reader" 1) "card")) s ∧
      s.session = .done (.ended .cancelled) ∧ shuts s.history = [(0, 1)] ∧
      Heeded s := by
  have hreading := run_proceed (mildWorld (.ok [])) 13
    (opening (run 2 (.client "reader" 1) "card"))
  have hcancelled := hreading.next (@Step.cancel _ _ 0 rfl)
  have hshut := hcancelled.next (@Step.shut _ _ 0 1 rfl)
  have hrun := hshut.trans
    (run_proceed (mildWorld (.error (.ofKind .connectionReset))) 10 _)
  exact ⟨_, hrun, rfl, rfl, hrun.heeded⟩

end Affair

end CardBridge.Session
