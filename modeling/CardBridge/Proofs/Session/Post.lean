import CardBridge.Proofs.Session.Account
import CardBridge.Proofs.Session.Cancellation
import CardBridge.Proofs.Session.Rounds

/-!
# Sessions that are handed over

A session that was handed over to be run on a worker, or that is given up
because none was found: what is seen of it step by step, what it keeps to in
the company of those who cancel it, and what was seen of it when it is over
(`Post.Sound.ended`).
-/

namespace CardBridge.Session

open Dialogue

/-- A session that is to be run. -/
structure Job where
  rounds : Nat
  config : SessionConfig
  cardName : String

/-! ## What is seen of a session -/

/-- What a step shows of the card and of what those who watch are told. -/
def seen : Occurrence → List Deed
  | .asked ⟨.card op, _⟩ => [.called op]
  | .asked ⟨.emit event, _⟩ => [.told event]
  | _ => []

/-- What a step shows is entered in the books. -/
theorem enter_seen (b : Books) (o : Occurrence) :
    (o.enter b).calls = b.calls ++ callsOf (seen o) ∧
      (o.enter b).events = b.events ++ eventsOf (seen o) := by
  match o with
  | .cancelled _ | .shut _ _ =>
    simp [seen, callsOf, eventsOf, Occurrence.enter]
  | .asked ⟨.card op, a⟩ | .asked ⟨.emit event, a⟩ =>
    simp [seen, callsOf, eventsOf, Deed.call?, Deed.event?, Occurrence.enter,
      Books.enter]
  | .asked ⟨.network (.connect _ _), .ok _⟩
  | .asked ⟨.network (.connect _ _), .error _⟩
  | .asked ⟨.network (.poll _), .ok (some _)⟩
  | .asked ⟨.network (.poll _), .ok none⟩
  | .asked ⟨.network (.poll _), .error _⟩
  | .asked ⟨.network (.resolve _ _), _⟩ | .asked ⟨.network (.listen _), _⟩
  | .asked ⟨.network .unpoll, _⟩ | .asked ⟨.socket (.stream _), _⟩
  | .asked ⟨.socket (.noDelay _), _⟩ | .asked ⟨.socket (.readTimeout _), _⟩
  | .asked ⟨.socket (.writeTimeout _), _⟩ | .asked ⟨.socket .duplicate, _⟩
  | .asked ⟨.socket .shutdown, _⟩ | .asked ⟨.token .isCancelled, _⟩
  | .asked ⟨.token .register, true⟩ | .asked ⟨.token .register, false⟩
  | .asked ⟨.token .clear, _⟩ | .asked ⟨.localAddresses, _⟩
  | .asked ⟨.advance _, _⟩ | .asked ⟨.log _, _⟩ =>
    simp [seen, callsOf, eventsOf, Occurrence.enter, Books.enter,
      Books.connect, Books.read, Books.register]

theorem books_seen (b : Books) (history : List Occurrence) :
    (history.foldl Occurrence.enter b).calls =
        b.calls ++ callsOf (history.flatMap seen) ∧
      (history.foldl Occurrence.enter b).events =
        b.events ++ eventsOf (history.flatMap seen) := by
  induction history generalizing b with
  | nil => simp [callsOf, eventsOf]
  | cons o history ih =>
    obtain ⟨hcalls, hevents⟩ := enter_seen b o
    obtain ⟨ihcalls, ihevents⟩ := ih (o.enter b)
    rw [List.foldl_cons, List.flatMap_cons, callsOf_append, eventsOf_append]
    rw [ihcalls, ihevents, hcalls, hevents]
    simp

/-- The card was ejected once, by the last call to it. -/
def EjectedLast (deeds : List Deed) : Prop :=
  ∃ before, callsOf deeds = before ++ [.eject] ∧ .eject ∉ before

/-- What was seen of a session that is over, by how its run came out. A
session that is given up does not run. -/
def Ended (deeds : List Deed) : Option Outcome → Prop
  | some (.ended reason) =>
    EjectedLast deeds ∧
      ∃ before, eventsOf deeds = before ++ [.disconnected reason] ∧
        ∀ other, .disconnected other ∉ before
  | some .unwound => EjectedLast deeds
  | none => callsOf deeds = [.eject] ∧ eventsOf deeds = []

/-! ## Sessions that were handed over -/

/-- A session that was handed over. -/
structure Post where
  job : Job
  /-- A worker was started on it; otherwise it is given up. -/
  engaged : Bool
  /-- What is left of it. Nothing comes of a session that is given up. -/
  affair : Affair (Option Outcome)

/-- A call that was made is not made again. -/
theorem Affair.Step.made {α : Type} {s s' : Affair α} {n : Nat}
    (hstep : Affair.Step s s') (h : s.calls n ≠ .pending) :
    s'.calls n ≠ .pending := by
  cases hstep with
  | answer => exact h
  | cancel =>
    rename_i call hcall
    have hne : n ≠ call := fun heq => h (heq ▸ hcall)
    rw [Affair.calls_cancel_of_ne _ hne]
    exact h
  | shut =>
    rename_i call connection hcall
    by_cases heq : n = call
    · subst heq
      simp [Affair.shut]
    · rw [Affair.calls_shut_of_ne _ connection heq]
      exact h

/-- A call that is over stays so. -/
theorem Affair.Step.over {α : Type} {s s' : Affair α} {n : Nat}
    (hstep : Affair.Step s s') (h : s.calls n = .over) :
    s'.calls n = .over := by
  cases hstep with
  | answer => exact h
  | cancel =>
    rename_i call hcall
    have hne : n ≠ call := by
      rintro rfl
      simp [h] at hcall
    rw [Affair.calls_cancel_of_ne _ hne]
    exact h
  | shut =>
    rename_i call connection _
    by_cases heq : n = call
    · subst heq
      exact Affair.setCall_self _ _ _
    · rw [Affair.calls_shut_of_ne _ connection heq]
      exact h

/-- A step concerns at most one of the calls. -/
theorem Affair.Step.calls_eq {α : Type} {s s' : Affair α}
    (hstep : Affair.Step s s') :
    ∃ bound, ∀ n, bound ≤ n → s'.calls n = s.calls n := by
  cases hstep with
  | answer => exact ⟨0, fun _ _ => rfl⟩
  | cancel =>
    rename_i call _
    exact ⟨call + 1, fun n hn =>
      Affair.calls_cancel_of_ne _ (Nat.ne_of_gt hn)⟩
  | shut =>
    rename_i call connection _
    exact ⟨call + 1, fun n hn =>
      Affair.calls_shut_of_ne _ connection (Nat.ne_of_gt hn)⟩

theorem Affair.made_cancel {α : Type} (s : Affair α) (n : Nat) :
    (s.cancel n).calls n ≠ .pending := by
  simp only [Affair.cancel, Affair.setCall_self]
  split <;> simp

/-- A session that is over stays so, and nothing more is seen of it. -/
theorem Affair.Step.settled {α : Type} {s s' : Affair α} {a : α}
    {o : Occurrence} (hstep : Affair.Step s s') (hdone : s.session = .done a)
    (ho : s'.history = s.history ++ [o]) :
    s'.session = .done a ∧ seen o = [] := by
  cases hstep with
  | answer hsession =>
    rw [hdone] at hsession
    cases hsession
  | cancel =>
    obtain rfl : .cancelled _ = o := by simpa [Affair.cancel] using ho
    exact ⟨hdone, rfl⟩
  | shut =>
    obtain rfl : .shut _ _ = o := by simpa [Affair.shut] using ho
    exact ⟨hdone, rfl⟩

/-- Events are only added behind those that there are. -/
theorem Affair.events_concat {α : Type} {s s' : Affair α} {o : Occurrence}
    (ho : s'.history = s.history ++ [o]) :
    s'.books.events = s.books.events ++ eventsOf (seen o) := by
  have hbooks : s'.books = o.enter s.books := by
    rw [Affair.books, ho, booksOf, List.foldl_append]
    rfl
  rw [hbooks, (enter_seen s.books o).2]

namespace Post

/-- A session that nothing was done about yet. -/
def opening (job : Job) : (engaged : Bool) → Post
  | true => ⟨job, true,
    .opening (some <$> run job.rounds job.config job.cardName)⟩
  | false => ⟨job, false, .opening ((fun _ => none) <$> abandon job.cardName)⟩

/-- The session is over. -/
def Finished (post : Post) : Prop :=
  ∃ outcome, post.affair.session = .done outcome

/-- What was seen of it. -/
def deeds (post : Post) : List Deed :=
  post.affair.history.flatMap seen

/-- What the session keeps to on the way. Only one that runs can be cut. -/
def Minds (engaged : Bool) (q : Option Ask) (b : Books) : Prop :=
  Orderly q b ∧ (q = none → engaged = true)

/-- How the session comes out. -/
def CameOut (engaged : Bool) : Option Outcome → Books → Prop
  | some outcome, b => engaged = true ∧ Session.CameOut outcome b
  | none, b => engaged = false ∧ b.calls = [.eject] ∧ b.events = []

/-- What is true of a session at any time. -/
structure Sound (post : Post) : Prop where
  keeps : post.affair.session.Keeps entered (Minds post.engaged)
    (CameOut post.engaged) post.affair.books
  /-- It is cut only where its rounds are used up. -/
  lasting : ∃ n rest, post.affair.session.ContinuedBy n rest ∧
    post.job.rounds ≤ n + answers post.affair.history
  /-- There is always one more call to cancel the session. -/
  fresh : ∃ bound, ∀ call, bound ≤ call →
    post.affair.calls call = .pending

variable {post : Post} {affair : Affair (Option Outcome)}

theorem keeps_abandon_whole (cardName : String) (b : Books) :
    (abandon cardName).Keeps entered (fun q _ => q ≠ none) (fun _ _ => True)
      b := by
  refine ⟨nofun, ?_⟩
  intro answer _ _
  rcases answer with ⟨e | _⟩ | _
  · exact ⟨nofun, fun _ _ _ => trivial⟩
  · trivial
  · trivial

theorem sound_opening (job : Job) (engaged : Bool) :
    (opening job engaged).Sound := by
  cases engaged with
  | true =>
    have hrun := keeps_run job.rounds job.config job.cardName Affair.idle_nil
    have hlasting := (continued_run (Nat.le_refl job.rounds) job.config
      job.cardName).map some
    refine ⟨keeps_map.mpr (hrun.mono ?_ ?_), ⟨_, _, hlasting, Nat.le_add_right _ _⟩,
      0, fun _ _ => rfl⟩
    · intro q b h
      exact ⟨h, fun _ => rfl⟩
    · intro outcome b h
      exact ⟨rfl, h⟩
  | false =>
    have habandon : (abandon job.cardName).Keeps entered Orderly _ {} :=
      keeps_abandon job.cardName List.not_mem_nil
    have hwhole := keeps_abandon_whole job.cardName {}
    have hlasting : (opening job false).affair.session.ContinuedBy job.rounds _ :=
      (continued_abandon job.cardName).map _
    refine ⟨keeps_map.mpr ((habandon.and hwhole).mono ?_ ?_),
      ⟨_, _, hlasting, Nat.le_add_right _ _⟩, 0, fun _ _ => rfl⟩
    · intro q b h
      exact ⟨h.1, fun hq => absurd hq h.2⟩
    · intro _ b h
      obtain ⟨rfl, -⟩ := h
      exact ⟨rfl, rfl, rfl⟩

/-- A step of a session, or of those who cancel it. -/
theorem Sound.step (h : post.Sound) (hstep : Affair.Step post.affair affair) :
    Sound { post with affair } := by
  obtain ⟨bound, hfresh⟩ := h.fresh
  obtain ⟨bound', hsame⟩ := hstep.calls_eq
  refine ⟨(Affair.Run.start.next hstep).keeps h.keeps, ?_, max bound bound',
    ?_⟩
  · obtain ⟨n, rest, hlasting, hrounds⟩ := h.lasting
    obtain ⟨m, rest', -, hlasting', hanswers⟩ := hstep.continued hlasting
    exact ⟨m, rest', hlasting', Nat.le_trans hrounds hanswers⟩
  · intro n hn
    show affair.calls n = .pending
    rw [hsame n (by omega)]
    exact hfresh n (by omega)

theorem deeds_moved {o : Occurrence}
    (ho : affair.history = post.affair.history ++ [o]) :
    deeds { post with affair } = post.deeds ++ seen o := by
  simp [deeds, ho]

/-- Something comes of a session exactly if a worker was started on it. -/
theorem Sound.outcome (h : post.Sound) {outcome : Option Outcome}
    (hdone : post.affair.session = .done outcome) :
    outcome.isSome = post.engaged := by
  have hkeeps := h.keeps
  rw [hdone] at hkeeps
  cases outcome with
  | none => exact hkeeps.1.symm
  | some outcome => exact hkeeps.1.symm

/-- Only a session that runs can be cut, and only where its rounds are used
up. -/
theorem Sound.of_cut (h : post.Sound) (hcut : post.affair.session = .cut) :
    post.engaged = true ∧ post.job.rounds ≤ answers post.affair.history := by
  have hkeeps := h.keeps
  rw [hcut] at hkeeps
  obtain ⟨n, rest, hlasting, hrounds⟩ := h.lasting
  rw [hcut] at hlasting
  obtain rfl := hlasting.eq_zero
  exact ⟨hkeeps.2 rfl, by omega⟩

/-- What was seen of a session that is over. -/
theorem Sound.ended (h : post.Sound) {outcome : Option Outcome}
    (hdone : post.affair.session = .done outcome) :
    Ended post.deeds outcome := by
  have hkeeps := h.keeps
  rw [hdone] at hkeeps
  obtain ⟨hcalls, hevents⟩ := books_seen {} post.affair.history
  rw [List.nil_append] at hcalls hevents
  cases outcome with
  | none =>
    obtain ⟨-, hejected, hquiet⟩ := hkeeps
    exact ⟨hcalls.symm.trans hejected, hevents.symm.trans hquiet⟩
  | some outcome =>
    obtain ⟨-, hcameOut⟩ := hkeeps
    cases outcome with
    | unwound =>
      obtain ⟨_, _, -, before, hejected, hbefore⟩ := hcameOut
      exact ⟨before, hcalls.symm.trans hejected, hbefore⟩
    | ended reason =>
      obtain ⟨_, told, hordinary, hwound⟩ := hcameOut
      obtain ⟨⟨before, hejected, hbefore⟩, ⟨report, htold, hreport⟩, -⟩ :=
        hwound
      refine ⟨⟨before, hcalls.symm.trans hejected, hbefore⟩,
        told ++ report, hevents.symm.trans htold, ?_⟩
      intro other hother
      rcases List.mem_append.mp hother with hmem | hmem
      · exact hordinary _ hmem
      · exact hreport.disconnected_notMem hmem

end Post

end CardBridge.Session
