import CardBridge.Proofs.Session.Cancellation
import CardBridge.Proofs.Session.Rounds

/-!
# How a session ends

However a session is answered and whenever it is cancelled, it ejects its
card once and last, has shut down every connection that the token took
before it does so, and tells once and last that it is over, after the one
report of a failure if there was one. That it is cut instead only means that
its rounds are used up.
-/

namespace CardBridge.Session

open Dialogue

namespace Affair

variable {s s' : Affair Outcome} {rounds : Nat} {config : SessionConfig}
  {cardName : String} {earlier later : List Occurrence}

/-- What is true of a session at its end, and on the way there. -/
structure Concluded (rounds : Nat) (config : SessionConfig)
    (s : Affair Outcome) : Prop where
  /-- The card was ejected once, by the last call to it. -/
  ejected : ∀ outcome, s.session = .done outcome →
    ∃ before, s.books.calls = before ++ [.eject] ∧ .eject ∉ before
  /-- The last event, and the only one of its kind, gives the reason. Right
  before it a failure is reported, if that is the reason and only then: the
  one with which the work of the session has ended. -/
  told : ∀ reason, s.session = .done (.ended reason) →
    ∃ t worked report, Run (opening (serve rounds config).run) t ∧
      t.session = .done worked ∧ t.history <+: s.history ∧
      s.books.events = t.books.events ++ report ++ [.disconnected reason] ∧
      (∀ event ∈ t.books.events, Ordinary event) ∧
      Report worked reason report
  /-- The connections that the token took were shut down when the card was
  ejected. -/
  hungUp : ∀ reason, s.session = .done (.ended reason) →
    ∀ earlier answer later,
      s.history = earlier ++ .asked ⟨.card .eject, answer⟩ :: later →
        ∀ c ∈ (booksOf earlier).registered, c ∈ (booksOf earlier).hungUp
  /-- The token holds no connection when the end is told. -/
  released : ∀ reason next,
    s.session = .ask (.emit (.disconnected reason)) next →
      s.token.connection? = none
  /-- Only a session that has used up its rounds is cut. -/
  cut : s.session = .cut → rounds ≤ answers s.history

theorem Reached.ejected (h : Reached s) {outcome : Outcome}
    (hdone : s.session = .done outcome) : Ejected s.books := by
  obtain ⟨worked, before, -, hcameOut⟩ := h.cameOut hdone
  cases outcome with
  | ended reason => exact WoundUp.ejected hcameOut
  | unwound => exact hcameOut

/-- The end of a session follows from how its work has ended. -/
theorem Run.told (hrun : Run (opening (run rounds config cardName)) s)
    {reason : ExitReason} (hdone : s.session = .done (.ended reason)) :
    ∃ t worked report, Run (opening (serve rounds config).run) t ∧
      t.session = .done worked ∧ t.history <+: s.history ∧
      s.books.events = t.books.events ++ report ++ [.disconnected reason] ∧
      (∀ event ∈ t.books.events, Ordinary event) ∧
      Report worked reason report := by
  obtain ⟨t, worked, hwork, ht, hafter⟩ :=
    Run.worked (s := opening (serve rounds config).run)
      (f := concluding cardName) hrun hdone
  have hfinished : Finished worked t.books := by
    have hkeeps := hwork.keeps (keeps_serve rounds config idle_nil)
    rw [ht] at hkeeps
    exact hkeeps
  have hwound : WoundUp worked t.books.events reason s.books := by
    have hkeeps := hafter.keeps (keeps_concluding cardName hfinished)
    rw [hdone] at hkeeps
    exact hkeeps
  obtain ⟨report, hevents, hreport⟩ := hwound.events
  exact ⟨t, worked, report, hwork, ht, hafter.prefix, hevents,
    hfinished.ordinary, hreport⟩

/-- From the call to eject the card on, no connection is shut down. -/
theorem Run.hungUp_eq (hrun : Run s s') (h : Reached s)
    (hejected : .eject ∈ s.books.calls) :
    s'.books.hungUp = s.books.hungUp := by
  have hkeep := hrun.books_keep
    (J := fun b => b.hungUp = s.books.hungUp ∧ .eject ∈ b.calls) ?_
    ⟨rfl, hejected⟩
  · exact hkeep.1
  · intro t q next a hbefore hsession _ hb
    obtain ⟨hhungUp, hcalls⟩ := hb
    have hparting := ((hbefore.reached h).orderly hsession).2.1 hcalls
    obtain ⟨hcalls', hhungUp'⟩ := hparting.enter a
    exact ⟨hhungUp'.trans hhungUp, hcalls' ▸ hcalls⟩

theorem Run.registered_subset (hrun : Run s s') :
    ∀ c ∈ s.books.registered, c ∈ s'.books.registered := by
  refine hrun.books_keep (J := fun b => ∀ c ∈ s.books.registered,
    c ∈ b.registered) ?_ fun _ => id
  intro t q next a _ _ _ hb c hc
  exact Books.registered_enter (hb c hc)

theorem Run.hungUp_before_eject
    (hrun : Run (opening (run rounds config cardName)) s)
    {reason : ExitReason} (hdone : s.session = .done (.ended reason))
    {answer : Attempt (Card.Answer .eject)}
    (hhistory : s.history = earlier ++ .asked ⟨.card .eject, answer⟩ :: later)
    {c : Nat} (hc : c ∈ (booksOf earlier).registered) :
    c ∈ (booksOf earlier).hungUp := by
  have hreached := reached_opening rounds config cardName
  obtain ⟨_, _, -, hwound⟩ := (hrun.reached hreached).woundUp hdone
  obtain ⟨t, next, hbefore, ht, hsession, htoken, hafter⟩ :=
    hrun.answered List.nil_prefix hhistory
  have hnext := (Run.start.next (.answer hsession htoken)).reached
    (hbefore.reached hreached)
  -- it was shut down by the end, and nothing is shut down from here on
  have hlast : c ∈ s.books.hungUp := by
    refine hwound.hungUp c (hafter.registered_subset c ?_)
    rw [books_answer, books, ht]
    exact Books.registered_enter hc
  rw [hafter.hungUp_eq hnext (by simp [books_answer, Books.enter]),
    books_answer, books, ht] at hlast
  exact hlast

theorem Reached.released (h : Reached s) {reason : ExitReason}
    {next : Attempt Unit → Dialogue Session Outcome}
    (hsession : s.session = .ask (.emit (.disconnected reason)) next) :
    s.token.connection? = none := by
  have hserving : s.books.serving = none := (h.orderly hsession).2.2
  rcases h.sound with h | ⟨earlier, first, h⟩
  · rw [h.token, hserving]
    rfl
  · rw [h.token]
    rfl

theorem Run.concluded (hrun : Run (opening (run rounds config cardName)) s) :
    Concluded rounds config s := by
  have hreached := hrun.reached (reached_opening rounds config cardName)
  refine ⟨?_, ?_, ?_, ?_, ?_⟩
  · intro outcome hdone
    exact hreached.ejected hdone
  · intro reason hdone
    exact hrun.told hdone
  · intro reason hdone earlier answer later hhistory c hc
    exact hrun.hungUp_before_eject hdone hhistory hc
  · intro reason next hsession
    exact hreached.released hsession
  · intro hcut
    exact hrun.le_answers hcut

/-- A session that is given up before it began makes one call to the card,
and tells nobody anything. -/
theorem Run.abandoned {s : Affair Unit}
    (hrun : Run (opening (abandon cardName)) s)
    (hdone : s.session = .done ()) :
    s.books.calls = [.eject] ∧ s.books.events = [] := by
  have hkeeps := hrun.keeps (s := opening (abandon cardName))
    (keeps_abandon cardName List.not_mem_nil)
  rw [hdone] at hkeeps
  have hbooks : s.books = _ := hkeeps
  rw [hbooks]
  exact ⟨rfl, rfl⟩

/-- Every run of a session is concluded in order, whatever fails in it and
whenever it is cancelled; so is a session that is given up before it
began. -/
theorem sessions_conclude (rounds : Nat) (config : SessionConfig)
    (cardName : String) :
    (∀ s, Run (opening (run rounds config cardName)) s →
        Concluded rounds config s) ∧
      ∀ s, Run (opening (abandon cardName)) s → s.session = .done () →
        s.books.calls = [.eject] ∧ s.books.events = [] :=
  ⟨fun _ hrun => hrun.concluded, fun _ hrun hdone => hrun.abandoned hdone⟩

/-- The connection breaks while the session waits for a frame; another
session does not begin at all. -/
theorem sessions_conclude_after_failure :
    (∃ s, Run (opening (run 2 (.client "reader" 1) "card")) s ∧
      s.session = .done (.ended (.failed "frame error")) ∧
      s.books.hungUp = [1] ∧ Concluded 2 (.client "reader" 1) s) ∧
    ∃ s, Run (opening (abandon "card")) s ∧ s.session = .done () ∧
      s.books.calls = [.eject] ∧ s.books.events = [] := by
  obtain ⟨hrun, habandon⟩ :=
    sessions_conclude 2 (.client "reader" 1) "card"
  have hfailed := run_proceed (mildWorld (.error (.ofKind .connectionReset)))
    24 (opening (run 2 (.client "reader" 1) "card"))
  have hgivenUp := run_proceed (mildWorld (.ok [])) 1
    (opening (abandon "card"))
  exact ⟨⟨_, hfailed, rfl, rfl, hrun _ hfailed⟩,
    ⟨_, hgivenUp, rfl, habandon _ hgivenUp rfl⟩⟩

end Affair

end CardBridge.Session
