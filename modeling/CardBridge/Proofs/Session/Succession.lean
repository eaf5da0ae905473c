import CardBridge.Proofs.Session.Firm

/-!
# Sessions take turns

What is true of a supervisor and its sessions at any time, whatever the
sessions are answered, whoever cancels them and whatever the owner does: no
two sessions are under way at once, so that a session is over, with its card
ejected and its end told, before anything is seen of the next; every card is
ejected; the session that is stored is told to stop before it is waited for,
unless the owner only waits; and the owner is told why it ended
(`sessions_take_turns`). What the owner begins can always come to its end,
unless a session was cut.
-/

namespace CardBridge.Session.Firm

open Dialogue
open Supervisor (Operation Returned Vacant reasonOf)

variable {f f' : Firm} {b : Business} {i : Nat} {post : Post}

/-- A session used up its rounds, and is cut. -/
def Cut (f : Firm) : Prop :=
  ∃ post ∈ f.posts, post.engaged = true ∧ post.affair.session = .cut ∧
    post.job.rounds ≤ answers post.affair.history

/-- What an operation comes to, on a supervisor that was `before` and with
the sessions that came to be. -/
def Upshot (posts : List Post) (before : Supervisor) :
    Operation Job → Returned → Option Supervisor → Prop
  | .start job, returned, after =>
    ∃ earlier post, posts = earlier ++ [post] ∧ post.job = job ∧
      (∀ p ∈ earlier, p.Finished) ∧
      (returned = .started (.ok ()) ∧ post.engaged = true ∧
          after = some { active := some earlier.length } ∨
        ∃ cause, returned = .started (.error (.spawn cause)) ∧
          post.affair.session = .done none ∧
          callsOf post.deeds = [.eject] ∧ eventsOf post.deeds = [] ∧
          ∃ s, after = some s ∧ Vacant Job s)
  | .drop, _, after => after = none ∧ ∀ p ∈ posts, p.Finished
  | _, returned, after =>
    (∃ s, after = some s ∧ Vacant Job s) ∧ (∀ p ∈ posts, p.Finished) ∧
      ∃ reason, returned = .ended reason ∧
        (before.active = none ∧ reason = none ∨
          ∃ worker post outcome, before.active = some worker ∧
            posts[worker]? = some post ∧
            post.affair.session = .done (some outcome) ∧
            reason = some (reasonOf outcome))

/-- What is true at any time. -/
structure InOrder (f : Firm) : Prop where
  /-- Only the session that was handed over last may not be over. -/
  last : ∀ i post, f.posts[i]? = some post → ¬ post.Finished →
    i + 1 = f.posts.length
  /-- All that is seen of one session is seen before anything of the next. -/
  log : f.log = inTurn (f.posts.map Post.deeds)
  /-- The card of a session that is over was ejected once, by the last call
  to it, and those who watch were told of the end once, by the last event. -/
  ended : ∀ post ∈ f.posts, ∀ outcome,
    post.affair.session = .done outcome → Ended post.deeds outcome
  /-- Every session that was to be started came to be. -/
  jobs : (∀ b, f.owner ≠ .busy b) → f.posts.map Post.job = f.jobs
  upshot : ∀ b returned after, f.owner = .busy b → b.pending = none →
    b.rest = .done (returned, after) →
      Upshot f.posts b.before b.operation returned after
  /-- What is stored is the session that was handed over last. -/
  stored : ∀ s worker, f.owner = .idle s → s.active = some worker →
    worker + 1 = f.posts.length ∧
      ∃ post, f.posts[worker]? = some post ∧ post.engaged = true
  /-- Without a session that is stored, and without a supervisor, all are
  over. -/
  vacant : f.owner = .gone ∨ (∃ s, f.owner = .idle s ∧ s.active = none) →
    ∀ post ∈ f.posts, post.Finished
  /-- Only the session that is stored is waited for. Before that a call to
  cancel it was made and is over, unless the owner only waits. -/
  stopped : ∀ b worker next, f.Asks b (.join worker) next →
    b.before.active = some worker ∧
      (b.operation.Stops → ∃ post call, f.posts[worker]? = some post ∧
        .cancelled call ∈ post.affair.history ∧
        post.affair.calls call = .over)
  /-- Who only waits cancels nothing. -/
  tells : ∀ b worker next, f.Asks b (.cancel worker) next →
    b.before.active = some worker ∧ b.operation.Stops
  /-- What the owner has begun can come to its end. -/
  returns : ∀ b, f.owner = .busy b → ∃ f' b', Run f f' ∧
    f'.owner = .busy b' ∧ b'.operation = b.operation ∧
    b'.before = b.before ∧
    (b'.pending = none ∧ (∃ upshot, b'.rest = .done upshot) ∨ f'.Cut)

/-! ## What an operation comes to -/

/-- All sessions but the one that was handed over last are over. -/
theorem Agrees.finished_earlier {earlier : List Post}
    {pending : Option Pending} {l : Supervisor.Ledger Job}
    (h : Agrees (earlier ++ [post]) pending l) {p : Post}
    (hp : p ∈ earlier) : p.Finished := by
  obtain ⟨j, hj⟩ := List.getElem?_of_mem hp
  obtain ⟨hlt, -⟩ := List.getElem?_eq_some_iff.mp hj
  have hp' : (earlier ++ [post])[j]? = some p :=
    (List.getElem?_append_left hlt).trans hj
  apply Classical.byContradiction
  intro hunfinished
  have hlast := h.last hp' hunfinished
  simp only [List.length_append, List.length_singleton] at hlast
  omega

theorem Kept.upshot (h : Kept f) {returned : Returned}
    {after : Option Supervisor} (howner : f.owner = .busy b)
    (hpending : b.pending = none) (hrest : b.rest = .done (returned, after)) :
    Upshot f.posts b.before b.operation returned after := by
  obtain ⟨hsound, -, l, hagrees, hminds⟩ := h
  rw [howner] at hagrees hminds
  have hfree : (Owner.busy b).pending = none := hpending
  rw [hfree] at hagrees
  obtain ⟨earlier, hkeeps, -⟩ := hminds
  rw [hrest] at hkeeps
  have hcameTo : Supervisor.CameTo b.before earlier b.operation
    (returned, after) l := hkeeps
  have hall (hrunning : l.running = none) : ∀ p ∈ f.posts, p.Finished :=
    fun p hp => hagrees.finished hrunning hp
  cases hop : b.operation with
  | start job =>
    rw [hop] at hcameTo
    have hlast {earlier : List (Job × Bool)} {engaged : Bool}
        (hjobs : l.jobs = earlier ++ [(job, engaged)]) :
        ∃ before post, f.posts = before ++ [post] ∧
          before.length = earlier.length ∧ post.job = job ∧
          post.engaged = engaged := by
      rw [hagrees.jobs] at hjobs
      obtain ⟨before, rest, hposts, hbefore, hrest⟩ :=
        List.map_eq_append_iff.mp hjobs
      obtain ⟨post, rfl, hpost⟩ := List.map_eq_singleton_iff.mp hrest
      cases hpost
      exact ⟨before, post, hposts, by rw [← hbefore, List.length_map], rfl,
        rfl⟩
    rcases hcameTo with ⟨hreturned, hafter, -, hjobs⟩ |
      ⟨cause, hreturned, hafter, hrunning, hjobs⟩
    · obtain ⟨before, post, hposts, hlength, hjob, hengaged⟩ := hlast hjobs
      rw [← hlength] at hafter
      rw [hposts] at hagrees ⊢
      exact ⟨before, post, rfl, hjob, fun p hp => hagrees.finished_earlier hp,
        .inl ⟨hreturned, hengaged, hafter⟩⟩
    · obtain ⟨before, post, hposts, -, hjob, hengaged⟩ := hlast hjobs
      have hmem : post ∈ f.posts := by simp [hposts]
      have hgivenUp : post.affair.session = .done none := by
        obtain ⟨outcome, hdone⟩ := hall hrunning post hmem
        have hnone := (hsound post hmem).outcome hdone
        rw [hengaged, Option.isSome_eq_false_iff,
          Option.isNone_iff_eq_none] at hnone
        rw [hdone, hnone]
      obtain ⟨hcalls, hevents⟩ := (hsound post hmem).ended hgivenUp
      refine ⟨before, post, hposts, hjob, ?_, .inr ⟨cause, hreturned,
        hgivenUp, hcalls, hevents, _, hafter, Supervisor.vacant_empty⟩⟩
      intro p hp
      exact hall hrunning p (by simp [hposts, hp])
  | drop =>
    rw [hop] at hcameTo
    obtain ⟨-, hafter, hrunning, -⟩ := hcameTo
    exact ⟨hafter, hall hrunning⟩
  | cancel | wait =>
    rw [hop] at hcameTo
    obtain ⟨reason, hreturned, hheard, hafter, hrunning, -⟩ := hcameTo
    refine ⟨⟨_, hafter, Supervisor.vacant_empty⟩, hall hrunning, reason,
      hreturned, ?_⟩
    rcases hheard with hnone | ⟨worker, outcome, hactive, hheard, hreason⟩
    · exact .inl hnone
    · obtain ⟨post, hpost, hdone⟩ := hagrees.heard worker outcome hheard
      exact .inr ⟨worker, post, outcome, hactive, hpost, hdone, hreason⟩

/-! ## Every operation can come to its end -/

/-- A session that is answered again and again is over at last, or cut. -/
theorem exists_settled {α : Type} (world : (q : Ask) → Answer q)
    (s : Affair α) :
    ∃ n, (∃ a, (Affair.proceed world n s).session = .done a) ∨
      (Affair.proceed world n s).session = .cut := by
  obtain ⟨session, token, calls, history⟩ := s
  induction session generalizing token history with
  | done a => exact ⟨0, .inl ⟨a, rfl⟩⟩
  | cut => exact ⟨0, .inr rfl⟩
  | ask q next ih =>
    obtain ⟨n, hn⟩ := ih _ _ _
    exact ⟨n + 1, hn⟩

/-- A session goes on while nothing else happens. -/
theorem Run.exists_proceeded {f₀ : Firm} (hrun : Run f₀ f)
    (world : (q : Ask) → Answer q) (n : Nat)
    (hpost : f.posts[i]? = some post) :
    ∃ f', Run f₀ f' ∧ f'.owner = f.owner ∧ f'.jobs = f.jobs ∧
      f'.posts = f.posts.set i
        { post with affair := Affair.proceed world n post.affair } := by
  have hsame (f : Firm) (post : Post) (hpost : f.posts[i]? = some post) :
      f.posts.set i post = f.posts := by
    simpa using map_moved id hpost post rfl
  induction n generalizing f post with
  | zero => exact ⟨f, hrun, rfl, rfl, (hsame f post hpost).symm⟩
  | succ n ih =>
    rw [Affair.proceed]
    split
    · rename_i q next hsession
      have hstep := Affair.Step.answer hsession
        (Affair.tokenGives_tokenOr post.affair.token post.affair.books.made q
          (world q))
      obtain ⟨f', hrun', howner, hjobs, hposts⟩ :=
        ih (hrun.next (.moved hpost hstep rfl)) (getElem?_self_moved hpost _)
      refine ⟨f', hrun', howner, hjobs, ?_⟩
      rw [hposts]
      exact List.set_set ..
    · exact ⟨f, hrun, rfl, rfl, (hsame f post hpost).symm⟩

/-- A session can go on by itself until it is over, unless it is cut. -/
theorem Kept.exists_finished (h : Kept f) (hpost : f.posts[i]? = some post) :
    ∃ f', Run f f' ∧ f'.owner = f.owner ∧
      ((∃ post' outcome, f'.posts[i]? = some post' ∧
        post'.affair.session = .done outcome) ∨ f'.Cut) := by
  obtain ⟨n, hsettled⟩ := exists_settled (Affair.mildWorld (.ok []))
    post.affair
  obtain ⟨f', hrun, howner, -, hposts⟩ :=
    Run.start.exists_proceeded (Affair.mildWorld (.ok [])) n hpost
  have hpost' := getElem?_self_moved hpost { post with
    affair := Affair.proceed (Affair.mildWorld (.ok [])) n post.affair }
  rw [← hposts] at hpost'
  refine ⟨f', hrun, howner, ?_⟩
  rcases hsettled with ⟨outcome, hdone⟩ | hcut
  · exact .inl ⟨_, outcome, hpost', hdone⟩
  · have hmem := List.mem_of_getElem? hpost'
    obtain ⟨hengaged, hrounds⟩ := ((hrun.kept h).sound _ hmem).of_cut hcut
    exact .inr ⟨_, hmem, hengaged, hcut, hrounds⟩

/-- What the owner waits for can come to its end. -/
theorem Kept.exists_resumed (h : Kept f) (howner : f.owner = .busy b) :
    ∃ f', Run f f' ∧ (f'.owner = .busy { b with pending := none } ∨
      f'.owner = .busy b ∧ f'.Cut) := by
  cases hpending : b.pending with
  | none =>
    refine ⟨f, .start, .inl ?_⟩
    rw [howner, ← hpending]
  | some pending =>
    obtain ⟨-, -, l, hagrees, -⟩ := id h
    have hpending' : (Owner.busy b).pending = some pending := hpending
    rw [howner, hpending'] at hagrees
    cases pending with
    | givenUp i =>
      have hlast := (hagrees.givenUp i rfl).1
      obtain ⟨post, hpost⟩ : ∃ post, f.posts[i]? = some post :=
        ⟨f.posts[i], List.getElem?_eq_getElem (by omega)⟩
      obtain ⟨f', hrun, howner', hfinished | hcut⟩ := h.exists_finished hpost
      · obtain ⟨post', outcome, hpost', hdone⟩ := hfinished
        exact ⟨_, hrun.next (.resumed (howner'.trans howner) hpending
          ⟨post', hpost', outcome, hdone⟩), .inl rfl⟩
      · exact ⟨f', hrun, .inr ⟨howner'.trans howner, hcut⟩⟩
    | call worker n =>
      obtain ⟨post, hpost, hmade⟩ := hagrees.call worker n rfl
      match hcall : post.affair.calls n with
      | .pending => exact absurd hcall hmade
      | .over =>
        exact ⟨_, Run.start.next (.resumed howner hpending
          ⟨post, hpost, hcall⟩), .inl rfl⟩
      | .holding c =>
        have hstep := Affair.Step.shut hcall
        have hover : Pending.Over (f.posts.set worker
            { post with affair := post.affair.shut n c }) (.call worker n) :=
          ⟨_, getElem?_self_moved hpost _, Affair.setCall_self _ _ _⟩
        have hmoved := Run.start.next (Step.moved hpost hstep rfl)
        exact ⟨_, hmoved.next (.resumed howner hpending hover), .inl rfl⟩

/-- What the owner asks can be answered. -/
theorem Kept.exists_answered (h : Kept f) {q : Workshop.Ask Job} {next}
    (hasks : f.Asks b q next) :
    ∃ f', Run f f' ∧
      ((∃ a pending, f'.owner = .busy { b with rest := next a, pending }) ∨
        f'.owner = .busy b ∧ f'.Cut) := by
  obtain ⟨l, hagrees, hprudent, -⟩ := h.asks hasks
  cases q with
  | spawn job =>
    exact ⟨_, Run.start.next (.spawned hasks), .inl ⟨.ok _, none, rfl⟩⟩
  | discard job =>
    exact ⟨_, Run.start.next (.discarded hasks), .inl ⟨(), _, rfl⟩⟩
  | log record =>
    exact ⟨_, Run.start.next (.logged hasks), .inl ⟨(), none, rfl⟩⟩
  | isFinished worker => exact absurd hprudent id
  | state worker => exact absurd hprudent id
  | cancel worker =>
    obtain ⟨-, post, hpost, -⟩ := hagrees.running worker hprudent.1
    obtain ⟨bound, hfresh⟩ := (h.sound post (List.mem_of_getElem? hpost)).fresh
    have hcall := hfresh bound (Nat.le_refl _)
    exact ⟨_, Run.start.next (.cancelled hasks hpost hcall),
      .inl ⟨(), _, rfl⟩⟩
  | join worker =>
    obtain ⟨-, post, hpost, -⟩ := hagrees.running worker hprudent.1
    obtain ⟨f', hrun, howner, hfinished | hcut⟩ := h.exists_finished hpost
    · obtain ⟨post', outcome, hpost', hdone⟩ := hfinished
      have hkept := hrun.kept h
      have hasks' : f'.Asks b (.join worker) next :=
        ⟨howner.trans hasks.owner, hasks.free, hasks.rest⟩
      -- something came of it, as a worker was started on it
      obtain ⟨l', hagrees', hprudent', -⟩ := hkept.asks hasks'
      obtain ⟨-, engaged, hengaged, hworks⟩ :=
        hagrees'.running worker hprudent'.1
      cases hpost'.symm.trans hengaged
      have hsome := (hkept.sound _ (List.mem_of_getElem? hpost')).outcome hdone
      rw [hworks] at hsome
      obtain ⟨outcome, rfl⟩ := Option.isSome_iff_exists.mp hsome
      exact ⟨_, hrun.next (.joined hasks' hpost' hdone),
        .inl ⟨outcome, none, rfl⟩⟩
    · exact ⟨f', hrun, .inr ⟨howner.trans hasks.owner, hcut⟩⟩

/-- What the owner has begun can come to its end. -/
theorem Kept.exists_returned (h : Kept f) (howner : f.owner = .busy b) :
    ∃ f' b', Run f f' ∧ f'.owner = .busy b' ∧ b'.operation = b.operation ∧
      b'.before = b.before ∧
      (b'.pending = none ∧ (∃ upshot, b'.rest = .done upshot) ∨ f'.Cut) := by
  obtain ⟨operation, before, rest, pending⟩ := b
  induction rest generalizing f pending with
  | done upshot =>
    obtain ⟨f', hrun, howner' | ⟨howner', hcut⟩⟩ := h.exists_resumed howner
    · exact ⟨f', _, hrun, howner', rfl, rfl, .inl ⟨rfl, upshot, rfl⟩⟩
    · exact ⟨f', _, hrun, howner', rfl, rfl, .inr hcut⟩
  | cut =>
    obtain ⟨-, -, l, -, hminds⟩ := h
    rw [howner] at hminds
    obtain ⟨earlier, hkeeps, -⟩ := hminds
    exact absurd hkeeps id
  | ask q next ih =>
    obtain ⟨f₁, hrun₁, howner₁ | ⟨howner₁, hcut⟩⟩ := h.exists_resumed howner
    · have hkept := hrun₁.kept h
      have hasks : f₁.Asks _ q next := ⟨howner₁, rfl, rfl⟩
      obtain ⟨f₂, hrun₂, ⟨a, pending', howner₂⟩ | ⟨howner₂, hcut⟩⟩ :=
        hkept.exists_answered hasks
      · obtain ⟨f', b', hrun, hreturned⟩ :=
          ih a (hrun₂.kept hkept) _ howner₂
        exact ⟨f', b', (hrun₁.trans hrun₂).trans hrun, hreturned⟩
      · exact ⟨f₂, _, hrun₁.trans hrun₂, howner₂, rfl, rfl, .inr hcut⟩
    · exact ⟨f₁, _, hrun₁, howner₁, rfl, rfl, .inr hcut⟩

/-! ## All of it -/

theorem Kept.inOrder (h : Kept f) : InOrder f := by
  obtain ⟨-, -, l, hagrees, hminds⟩ := id h
  have hnames : l.jobs.map Prod.fst = f.posts.map Post.job := by
    rw [hagrees.jobs, List.map_map]
    rfl
  refine ⟨fun i post => hagrees.last, h.log, ?_, ?_, ?_, ?_, ?_, ?_, ?_, ?_⟩
  · intro post hpost outcome hdone
    exact (h.sound post hpost).ended hdone
  · intro hbusy
    cases howner : f.owner with
    | busy b => exact absurd howner (hbusy b)
    | idle s | gone =>
      rw [howner] at hminds
      rw [hminds.2, hnames]
  · intro b returned after howner hpending hrest
    exact h.upshot howner hpending hrest
  · intro s worker howner hactive
    rw [howner] at hminds
    exact hagrees.running worker (hminds.1.trans hactive)
  · intro hvacant post hpost
    rcases hvacant with howner | ⟨s, howner, hactive⟩
    · rw [howner] at hagrees hminds
      exact hagrees.finished hminds.1 hpost
    · rw [howner] at hagrees hminds
      exact hagrees.finished (hminds.1.trans hactive) hpost
  · intro b worker next hasks
    obtain ⟨l, hagrees, ⟨-, hactive, htold⟩, -⟩ := h.asks hasks
    refine ⟨hactive, ?_⟩
    intro hstops
    obtain ⟨post, call, hpost, hcalled, hover⟩ :=
      hagrees.told worker (htold hstops)
    exact ⟨post, call, hpost, hcalled, hover.resolve_right nofun⟩
  · intro b worker next hasks
    obtain ⟨l, -, ⟨-, hactive, hstops⟩, -⟩ := h.asks hasks
    exact ⟨hactive, hstops⟩
  · intro b howner
    exact h.exists_returned howner

/-- Whatever the owner of a supervisor does, whatever its sessions are
answered and whoever cancels them, the sessions take turns. -/
theorem sessions_take_turns : ∀ f, Run {} f → InOrder f := by
  intro f hrun
  exact (hrun.kept kept_opening).inOrder

/-- A session that dials a reader. -/
def dialing (cardName : String) : Job :=
  ⟨2, .client "reader" 1, cardName⟩

/-- Its reader is there, and it waits for a frame. -/
def waiting : Affair (Option Outcome) :=
  Affair.proceed (Affair.mildWorld (.ok [])) 13
    (Post.opening (dialing "first") true).affair

/-- It was cancelled while it waited. -/
def replaced : Affair (Option Outcome) :=
  Affair.proceed (Affair.mildWorld (.ok [])) 12
    ((waiting.cancel 0).shut 0 1)

theorem calls_waiting : waiting.calls 0 = .pending ∧
    (waiting.cancel 0).calls 0 = .holding 1 :=
  ⟨rfl, rfl⟩

theorem replaced_over :
    replaced.session = .done (some (.ended .cancelled)) ∧
      replaced.history.flatMap seen = [.told (.connected "peer"),
        .called .eject, .told (.disconnected .cancelled)] :=
  ⟨rfl, by decide +kernel⟩

/-- A session is replaced while it waits for a frame, and no worker is found
for the one that is to replace it. -/
theorem sessions_take_turns_of_two :
    ∃ f, Run {} f ∧ InOrder f ∧ f.owner = .gone ∧
      f.jobs = [dialing "first", dialing "second"] ∧
      f.log =
        [(0, .told (.connected "peer")), (0, .called .eject),
         (0, .told (.disconnected .cancelled)), (1, .called .eject)] := by
  obtain ⟨hpending, hholding⟩ := calls_waiting
  obtain ⟨hdone, hdeeds⟩ := replaced_over
  have hbegun : Run {} _ :=
    Run.start.next (.begun rfl (.start (dialing "first")))
  have hspawned : Run {} _ := hbegun.next (.spawned ⟨rfl, rfl, rfl⟩)
  have hstarted : Run {} _ := hspawned.next (.ended rfl rfl rfl)
  obtain ⟨⟨_, _, posts, log⟩, hwaits, rfl, rfl, hposts⟩ :=
    hstarted.exists_proceeded (Affair.mildWorld (.ok [])) 13 (i := 0) rfl
  obtain rfl : posts = [⟨dialing "first", true, waiting⟩] := hposts
  have hreplacing : Run {} _ :=
    hwaits.next (.begun rfl (.start (dialing "second")))
  have hcancelled : Run {} _ :=
    hreplacing.next (.cancelled ⟨rfl, rfl, rfl⟩ rfl hpending)
  have hshut : Run {} _ :=
    hcancelled.next (.moved (i := 0) rfl (.shut hholding) rfl)
  have hresumed : Run {} _ := hshut.next (.resumed rfl rfl ⟨_, rfl, rfl⟩)
  obtain ⟨⟨_, _, posts, log'⟩, hends, rfl, rfl, hposts'⟩ :=
    hresumed.exists_proceeded (Affair.mildWorld (.ok [])) 12 (i := 0) rfl
  obtain rfl : posts = [⟨dialing "first", true, replaced⟩] := hposts'
  have hjoined : Run {} _ :=
    hends.next (.joined ⟨rfl, rfl, rfl⟩ rfl hdone)
  have hrefused : Run {} _ := hjoined.next
    (.refused ⟨rfl, rfl, rfl⟩ (.ofKind .outOfMemory))
  have hdiscarded : Run {} _ := hrefused.next (.discarded ⟨rfl, rfl, rfl⟩)
  obtain ⟨⟨_, _, _, log''⟩, hgivenUp, rfl, rfl, rfl⟩ :=
    hdiscarded.exists_proceeded (Affair.mildWorld (.ok [])) 1 (i := 1) rfl
  have hfree : Run {} _ := hgivenUp.next (.resumed rfl rfl ⟨_, rfl, _, rfl⟩)
  have hreturned : Run {} _ := hfree.next (.ended rfl rfl rfl)
  have hdropping : Run {} _ := hreturned.next (.begun rfl .drop)
  have hdropped : Run {} _ := hdropping.next (.ended rfl rfl rfl)
  have hinOrder := sessions_take_turns _ hdropped
  refine ⟨_, hdropped, hinOrder, rfl, rfl, hinOrder.log.trans ?_⟩
  show inTurn [replaced.history.flatMap seen, [.called .eject]] = _
  rw [hdeeds]
  rfl

end CardBridge.Session.Firm
