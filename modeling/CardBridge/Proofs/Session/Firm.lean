import CardBridge.Proofs.Session.Owner
import CardBridge.Proofs.Session.Post

/-!
# A supervisor and its sessions

The owner of a supervisor and every session that was ever handed over to it,
in any order of steps. Each session goes on by itself, is answered anything,
and can be cancelled by anyone at any time; the owner starts, cancels and
waits as it likes, and no worker need be found for a session. What the owner
goes by agrees with the sessions in every order of steps, and only the one
that was handed over last may not be over (`Run.kept`).
-/

namespace CardBridge.Session

open Dialogue
open Supervisor (Operation Returned Ledger Prudent CameTo answered)

/-! ## The owner -/

/-- What the owner waits for before it goes on. -/
inductive Pending where
  /-- A call to cancel the session of a worker. -/
  | call (worker call : Nat)
  /-- A session that is given up. -/
  | givenUp (post : Nat)

/-- It need not be waited for any more. -/
def Pending.Over (posts : List Post) : Pending → Prop
  | .call worker n =>
    ∃ post, posts[worker]? = some post ∧ post.affair.calls n = .over
  | .givenUp i => ∃ post, posts[i]? = some post ∧ post.Finished

/-- An operation that the owner is about. -/
structure Business where
  operation : Operation Job
  /-- The supervisor when it was begun. -/
  before : Supervisor
  /-- What is left of it. -/
  rest : Dialogue (Workshop Job) (Returned × Option Supervisor)
  pending : Option Pending := none

/-- What the owner is about. -/
inductive Owner where
  | idle (s : Supervisor)
  | busy (b : Business)
  /-- It has let go of the supervisor. -/
  | gone

namespace Owner

/-- The owner of what there is after an operation. -/
def after : Option Supervisor → Owner
  | some s => idle s
  | none => gone

def pending : Owner → Option Pending
  | busy b => b.pending
  | _ => none

/-- What is promised of it. -/
def Minds (jobs : List Job) (l : Ledger Job) : Owner → Prop
  | idle s => l.running = s.active ∧ jobs = l.jobs.map Prod.fst
  | gone => l.running = none ∧ jobs = l.jobs.map Prod.fst
  | busy b => ∃ earlier : List (Job × Bool),
    b.rest.Keeps answered (Prudent b.before b.operation)
        (CameTo b.before earlier b.operation) l ∧
      jobs = earlier.map Prod.fst ++ b.operation.jobs

end Owner

/-- The owner of a supervisor, and the sessions. -/
structure Firm where
  owner : Owner := .idle {}
  /-- The sessions that were to be started, in order. -/
  jobs : List Job := []
  /-- The sessions that came to be, in order. -/
  posts : List Post := []
  /-- What was seen of all sessions, each time with the number of the
  session. -/
  log : List (Nat × Deed) := []

namespace Firm

/-- The owner is about to ask something. -/
structure Asks (f : Firm) (b : Business) (q : Workshop.Ask Job)
    (next : Workshop.Answer q →
      Dialogue (Workshop Job) (Returned × Option Supervisor)) : Prop where
  owner : f.owner = .busy b
  free : b.pending = none
  rest : b.rest = .ask q next

/-- The owner goes on. -/
def goOn (f : Firm) (b : Business)
    (rest : Dialogue (Workshop Job) (Returned × Option Supervisor))
    (pending : Option Pending := none) : Firm :=
  { f with owner := .busy { b with rest, pending } }

/-- A session comes to be. -/
def hand (f : Firm) (job : Job) (engaged : Bool) : Firm :=
  { f with posts := f.posts ++ [.opening job engaged] }

/-- A session goes on, or is cancelled. -/
def move (f : Firm) (i : Nat) (post : Post)
    (affair : Affair (Option Outcome)) (o : Occurrence) : Firm :=
  { f with
    posts := f.posts.set i { post with affair }
    log := f.log ++ (seen o).map (i, ·) }

/-- One step of the owner, or of a session, or of somebody who cancels
one. -/
inductive Step : Firm → Firm → Prop where
  | begun {f : Firm} {s : Supervisor} (howner : f.owner = .idle s)
    (op : Operation Job) :
    Step f { f with
      owner := .busy { operation := op, before := s, rest := s.perform op }
      jobs := f.jobs ++ op.jobs }
  | spawned {f : Firm} {b : Business} {job : Job} {next}
    (h : f.Asks b (.spawn job) next) :
    Step f ((f.hand job true).goOn b (next (.ok f.posts.length)))
  /-- No worker is found for the session. -/
  | refused {f : Firm} {b : Business} {job : Job} {next}
    (h : f.Asks b (.spawn job) next) (cause : IoError) :
    Step f (f.goOn b (next (.error cause)))
  /-- The owner begins to give the session up. -/
  | discarded {f : Firm} {b : Business} {job : Job} {next}
    (h : f.Asks b (.discard job) next) :
    Step f ((f.hand job false).goOn b (next ())
      (some (.givenUp f.posts.length)))
  /-- The owner makes a call to cancel the session. -/
  | cancelled {f : Firm} {b : Business} {worker call : Nat} {post : Post}
    {next} (h : f.Asks b (.cancel worker) next)
    (hpost : f.posts[worker]? = some post)
    (hcall : post.affair.calls call = .pending) :
    Step f ((f.move worker post (post.affair.cancel call)
      (.cancelled call)).goOn b (next ()) (some (.call worker call)))
  /-- The worker that the owner waits for is done. -/
  | joined {f : Firm} {b : Business} {worker : Nat} {post : Post}
    {outcome : Outcome} {next} (h : f.Asks b (.join worker) next)
    (hpost : f.posts[worker]? = some post)
    (hdone : post.affair.session = .done (some outcome)) :
    Step f (f.goOn b (next outcome))
  | logged {f : Firm} {b : Business} {record : Log.Record} {next}
    (h : f.Asks b (.log record) next) : Step f (f.goOn b (next ()))
  /-- What the owner waited for is over. -/
  | resumed {f : Firm} {b : Business} {pending : Pending}
    (howner : f.owner = .busy b) (hpending : b.pending = some pending)
    (hover : pending.Over f.posts) : Step f (f.goOn b b.rest)
  | ended {f : Firm} {b : Business} {returned : Returned}
    {after : Option Supervisor} (howner : f.owner = .busy b)
    (hpending : b.pending = none) (hrest : b.rest = .done (returned, after)) :
    Step f { f with owner := .after after }
  /-- A session goes on, or somebody cancels it. -/
  | moved {f : Firm} {i : Nat} {post : Post}
    {affair : Affair (Option Outcome)} {o : Occurrence}
    (hpost : f.posts[i]? = some post)
    (hstep : Affair.Step post.affair affair)
    (ho : affair.history = post.affair.history ++ [o]) :
    Step f (f.move i post affair o)

/-- Some steps in a row. -/
inductive Run (f : Firm) : Firm → Prop where
  /-- No step at all. -/
  | start : Run f f
  /-- One more step. -/
  | next {f' f'' : Firm} (hrun : Run f f') (hstep : Step f' f'') : Run f f''

theorem Run.trans {f f' f'' : Firm} (h : Run f f') (h' : Run f' f'') :
    Run f f'' := by
  induction h' with
  | start => exact h
  | next _ hstep ih => exact ih.next hstep

/-! ## What is kept -/

/-- What was seen of all sessions, if it was seen of one after the other. -/
def inTurn (deeds : List (List Deed)) : List (Nat × Deed) :=
  deeds.zipIdx.flatMap fun (own, i) => own.map (i, ·)

theorem inTurn_concat (deeds : List (List Deed)) (own : List Deed) :
    inTurn (deeds ++ [own]) = inTurn deeds ++ own.map (deeds.length, ·) := by
  simp [inTurn, List.zipIdx_append]

/-- A call to cancel the session of a worker was made, and is over unless it
is waited for. -/
def Told (posts : List Post) (pending : Option Pending) (worker : Nat) :
    Prop :=
  ∃ post call, posts[worker]? = some post ∧
    .cancelled call ∈ post.affair.history ∧
    (post.affair.calls call = .over ∨ pending = some (.call worker call))

/-- The sessions are as the owner may think. -/
structure Agrees (posts : List Post) (pending : Option Pending)
    (l : Ledger Job) : Prop where
  jobs : l.jobs = posts.map fun post => (post.job, post.engaged)
  unfinished : ∀ i post, posts[i]? = some post → ¬ post.Finished →
    l.running = some i ∨ pending = some (.givenUp i)
  running : ∀ worker, l.running = some worker → worker + 1 = posts.length ∧
    ∃ post, posts[worker]? = some post ∧ post.engaged = true
  givenUp : ∀ i, pending = some (.givenUp i) → i + 1 = posts.length ∧
    l.running = none
  call : ∀ worker call, pending = some (.call worker call) →
    ∃ post, posts[worker]? = some post ∧ post.affair.calls call ≠ .pending
  told : ∀ worker, l.told = some worker → Told posts pending worker
  heard : ∀ worker outcome, l.heard = some (worker, outcome) →
    ∃ post, posts[worker]? = some post ∧
      post.affair.session = .done (some outcome)

/-- What is true at any time. -/
structure Kept (f : Firm) : Prop where
  sound : ∀ post ∈ f.posts, post.Sound
  log : f.log = inTurn (f.posts.map Post.deeds)
  owner : ∃ l, Agrees f.posts f.owner.pending l ∧ f.owner.Minds f.jobs l

variable {f f' : Firm} {posts : List Post} {pending : Option Pending}
  {l : Ledger Job} {i j : Nat} {post : Post}
  {affair : Affair (Option Outcome)} {job : Job}

/-! ## The sessions -/

theorem getElem?_moved (hpost : posts[i]? = some post) (post' : Post) :
    (posts.set i post')[j]? = if i = j then some post' else posts[j]? := by
  obtain ⟨hi, -⟩ := List.getElem?_eq_some_iff.mp hpost
  rw [List.getElem?_set, if_pos hi]

theorem getElem?_self_moved (hpost : posts[i]? = some post) (post' : Post) :
    (posts.set i post')[i]? = some post' := by
  rw [getElem?_moved hpost, if_pos rfl]

theorem map_moved {α : Type} (g : Post → α) (hpost : posts[i]? = some post)
    (post' : Post) (hsame : g post' = g post) :
    (posts.set i post').map g = posts.map g := by
  apply List.ext_getElem?
  intro j
  rw [List.getElem?_map, List.getElem?_map, getElem?_moved hpost]
  by_cases hij : i = j
  · subst hij
    simp [hpost, hsame]
  · rw [if_neg hij]

/-- What the owner knows of a session is not changed by its steps. -/
theorem Agrees.move (h : Agrees posts pending l)
    (hpost : posts[i]? = some post)
    (hstep : Affair.Step post.affair affair) :
    Agrees (posts.set i { post with affair }) pending l := by
  obtain ⟨o, ho⟩ := hstep.history_eq
  have hmoved {j : Nat} {p : Post} (hp : posts[j]? = some p) :
      ∃ p', (posts.set i { post with affair })[j]? = some p' ∧
        (p' = p ∨ p = post ∧ p' = { post with affair }) := by
    rw [getElem?_moved hpost]
    by_cases hij : i = j
    · subst hij
      rw [hpost] at hp
      exact ⟨_, if_pos rfl, .inr ⟨(Option.some.inj hp).symm, rfl⟩⟩
    · exact ⟨p, (if_neg hij).trans hp, .inl rfl⟩
  refine ⟨?_, ?_, ?_, ?_, ?_, ?_, ?_⟩
  · exact h.jobs.trans (map_moved (fun post => (post.job, post.engaged)) hpost
      { post with affair } rfl).symm
  · intro j p hp hunfinished
    rw [getElem?_moved hpost] at hp
    by_cases hij : i = j
    · subst hij
      rw [if_pos rfl] at hp
      cases hp
      apply h.unfinished i post hpost
      intro hfinished
      obtain ⟨outcome, hdone⟩ := hfinished
      exact hunfinished ⟨outcome, (hstep.settled hdone ho).1⟩
    · rw [if_neg hij] at hp
      exact h.unfinished j p hp hunfinished
  · intro worker hworker
    obtain ⟨hlast, p, hp, hengaged⟩ := h.running worker hworker
    obtain ⟨p', hp', hsame⟩ := hmoved hp
    refine ⟨by rw [List.length_set, hlast], p', hp', ?_⟩
    rcases hsame with rfl | ⟨rfl, rfl⟩
    · exact hengaged
    · exact hengaged
  · intro j hj
    rw [List.length_set]
    exact h.givenUp j hj
  · intro worker call hcall
    obtain ⟨p, hp, hmade⟩ := h.call worker call hcall
    obtain ⟨p', hp', hsame⟩ := hmoved hp
    refine ⟨p', hp', ?_⟩
    rcases hsame with rfl | ⟨rfl, rfl⟩
    · exact hmade
    · exact hstep.made hmade
  · intro worker htold
    obtain ⟨p, call, hp, hcalled, hover⟩ := h.told worker htold
    obtain ⟨p', hp', hsame⟩ := hmoved hp
    refine ⟨p', call, hp', ?_⟩
    rcases hsame with rfl | ⟨rfl, rfl⟩
    · exact ⟨hcalled, hover⟩
    · refine ⟨?_, hover.imp_left hstep.over⟩
      show Occurrence.cancelled call ∈ affair.history
      rw [ho]
      exact List.mem_append_left _ hcalled
  · intro worker outcome hheard
    obtain ⟨p, hp, hdone⟩ := h.heard worker outcome hheard
    obtain ⟨p', hp', hsame⟩ := hmoved hp
    refine ⟨p', hp', ?_⟩
    rcases hsame with rfl | ⟨rfl, rfl⟩
    · exact hdone
    · exact (hstep.settled hdone ho).1

/-- All sessions are over when the owner knows of none that may not be. -/
theorem Agrees.finished (h : Agrees posts none l) (hrunning : l.running = none)
    (hpost : post ∈ posts) : post.Finished := by
  obtain ⟨i, hi⟩ := List.getElem?_of_mem hpost
  apply Classical.byContradiction
  intro hunfinished
  have hknown := h.unfinished i post hi hunfinished
  simp [hrunning] at hknown

/-- A session that comes to be when all others are over is the only one that
may not be. -/
theorem Agrees.newest (h : Agrees posts none l) (hrunning : l.running = none)
    {new : Post} (hpost : (posts ++ [new])[i]? = some post)
    (hunfinished : ¬ post.Finished) : i = posts.length := by
  rw [List.getElem?_append] at hpost
  by_cases hi : i < posts.length
  · rw [if_pos hi] at hpost
    have hmem := List.mem_of_getElem? hpost
    exact absurd (h.finished hrunning hmem) hunfinished
  · rw [if_neg hi] at hpost
    obtain ⟨hle, -⟩ := List.getElem?_eq_some_iff.mp hpost
    simp only [List.length_singleton] at hle
    omega

theorem Agrees.heard_append (h : Agrees posts pending l) (new : Post)
    (worker : Nat) (outcome : Outcome)
    (hheard : l.heard = some (worker, outcome)) :
    ∃ post, (posts ++ [new])[worker]? = some post ∧
      post.affair.session = .done (some outcome) := by
  obtain ⟨post, hpost, hdone⟩ := h.heard worker outcome hheard
  obtain ⟨hworker, -⟩ := List.getElem?_eq_some_iff.mp hpost
  exact ⟨post, (List.getElem?_append_left hworker).trans hpost, hdone⟩

/-- A call that was made before is over when nothing is waited for. -/
theorem Agrees.told_append (h : Agrees posts none l) (new : Post)
    (worker : Nat) (htold : l.told = some worker) :
    Told (posts ++ [new]) pending worker := by
  obtain ⟨post, call, hpost, hcalled, hover⟩ := h.told worker htold
  obtain ⟨hworker, -⟩ := List.getElem?_eq_some_iff.mp hpost
  refine ⟨post, call, (List.getElem?_append_left hworker).trans hpost, hcalled,
    .inl (hover.resolve_right nofun)⟩

/-- A worker is started when all sessions are over. -/
theorem Agrees.spawn (h : Agrees posts none l) (hrunning : l.running = none)
    (job : Job) :
    Agrees (posts ++ [.opening job true]) none { l with
      jobs := l.jobs ++ [(job, true)]
      running := some posts.length } := by
  refine ⟨?_, ?_, ?_, nofun, nofun, h.told_append _, h.heard_append _⟩
  · simp [h.jobs, Post.opening]
  · intro i post hpost hunfinished
    rw [h.newest hrunning hpost hunfinished]
    exact .inl rfl
  · intro worker hworker
    cases hworker
    exact ⟨by simp, .opening job true, by simp, rfl⟩

/-- A session is given up when all others are over. -/
theorem Agrees.discard (h : Agrees posts none l) (hrunning : l.running = none)
    (job : Job) :
    Agrees (posts ++ [.opening job false]) (some (.givenUp posts.length))
      { l with jobs := l.jobs ++ [(job, false)] } := by
  refine ⟨?_, ?_, ?_, ?_, nofun, h.told_append _, h.heard_append _⟩
  · simp [h.jobs, Post.opening]
  · intro i post hpost hunfinished
    rw [h.newest hrunning hpost hunfinished]
    exact .inr rfl
  · intro worker hworker
    rw [hrunning] at hworker
    cases hworker
  · intro i hi
    cases hi
    exact ⟨by simp, hrunning⟩

/-- A call to cancel a session was made, and is waited for. -/
theorem Agrees.await (h : Agrees posts none l) {worker call : Nat}
    (hpost : posts[worker]? = some post)
    (hmade : post.affair.calls call ≠ .pending)
    (hcalled : .cancelled call ∈ post.affair.history) :
    Agrees posts (some (.call worker call)) { l with told := some worker } := by
  refine ⟨h.jobs, ?_, h.running, nofun, ?_, ?_, h.heard⟩
  · intro i p hp hunfinished
    rcases h.unfinished i p hp hunfinished with hrunning | hpending
    · exact .inl hrunning
    · cases hpending
  · intro worker' call' hcall
    cases hcall
    exact ⟨post, hpost, hmade⟩
  · intro worker' htold
    cases htold
    exact ⟨post, call, hpost, hcalled, .inr rfl⟩

/-- The end of the session was heard of that might not have been over. -/
theorem Agrees.hear (h : Agrees posts none l) {worker : Nat}
    {outcome : Outcome} (hrunning : l.running = some worker)
    (hpost : posts[worker]? = some post)
    (hdone : post.affair.session = .done (some outcome)) :
    Agrees posts none
      { l with running := none, heard := some (worker, outcome) } := by
  refine ⟨h.jobs, ?_, nofun, nofun, nofun, h.told, ?_⟩
  · intro i p hp hunfinished
    rcases h.unfinished i p hp hunfinished with hi | hpending
    · rw [hrunning] at hi
      cases hi
      rw [hpost] at hp
      cases hp
      exact absurd ⟨_, hdone⟩ hunfinished
    · cases hpending
  · intro worker' outcome' hheard
    cases hheard
    exact ⟨post, hpost, hdone⟩

/-- What was waited for is over. -/
theorem Agrees.resume {p : Pending} (h : Agrees posts (some p) l)
    (hover : p.Over posts) : Agrees posts none l := by
  refine ⟨h.jobs, ?_, h.running, nofun, nofun, ?_, h.heard⟩
  · intro i post hpost hunfinished
    rcases h.unfinished i post hpost hunfinished with hrunning | hpending
    · exact .inl hrunning
    · cases hpending
      obtain ⟨post', hpost', hfinished⟩ := hover
      rw [hpost] at hpost'
      cases hpost'
      exact absurd hfinished hunfinished
  · intro worker htold
    obtain ⟨post, call, hpost, hcalled, hdone | hpending⟩ :=
      h.told worker htold
    · exact ⟨post, call, hpost, hcalled, .inl hdone⟩
    · cases hpending
      obtain ⟨post', hpost', hdone⟩ := hover
      rw [hpost] at hpost'
      cases hpost'
      exact ⟨post, call, hpost, hcalled, .inl hdone⟩

/-! ## One step -/

/-- Only the session that was handed over last may not be over. -/
theorem Agrees.last (h : Agrees posts pending l) (hpost : posts[i]? = some post)
    (hunfinished : ¬ post.Finished) : i + 1 = posts.length := by
  rcases h.unfinished i post hpost hunfinished with hrunning | hpending
  · exact (h.running i hrunning).1
  · exact (h.givenUp i hpending).1

theorem eq_concat_of_last (hpost : posts[i]? = some post)
    (hlast : i + 1 = posts.length) :
    ∃ earlier, posts = earlier ++ [post] ∧ earlier.length = i := by
  obtain ⟨hi, hget⟩ := List.getElem?_eq_some_iff.mp hpost
  have hdrop : posts.drop i = [post] := by
    rw [List.drop_eq_getElem_cons hi, hget, hlast, List.drop_length]
  refine ⟨posts.take i, ?_, List.length_take_of_le (Nat.le_of_lt hi)⟩
  rw [← hdrop, List.take_append_drop]

/-- What is seen of a session is seen after all that was seen of others. -/
theorem Agrees.inTurn_move (h : Agrees posts pending l)
    (hpost : posts[i]? = some post) (hstep : Affair.Step post.affair affair)
    {o : Occurrence} (ho : affair.history = post.affair.history ++ [o]) :
    inTurn ((posts.set i { post with affair }).map Post.deeds) =
      inTurn (posts.map Post.deeds) ++ (seen o).map (i, ·) := by
  by_cases hfinished : post.Finished
  · obtain ⟨outcome, hdone⟩ := hfinished
    have hnothing := (hstep.settled hdone ho).2
    have hdeeds : Post.deeds { post with affair } = post.deeds := by
      rw [Post.deeds_moved ho, hnothing, List.append_nil]
    rw [map_moved Post.deeds hpost _ hdeeds, hnothing, List.map_nil,
      List.append_nil]
  · obtain ⟨earlier, rfl, rfl⟩ :=
      eq_concat_of_last hpost (h.last hpost hfinished)
    rw [List.set_append_right _ _ (Nat.le_refl _), Nat.sub_self,
      List.set_cons_zero, List.map_append, List.map_append, List.map_singleton,
      List.map_singleton, inTurn_concat, inTurn_concat, Post.deeds_moved ho,
      List.map_append, List.length_map, List.append_assoc]

/-- The owner's answer, and what it goes on to. -/
theorem Kept.asks (h : Kept f) {b : Business} {q : Workshop.Ask Job} {next}
    (hasks : f.Asks b q next) :
    ∃ l, Agrees f.posts none l ∧ Prudent b.before b.operation (some q) l ∧
      ∀ a l', answered q l a l' →
        (Owner.busy { b with rest := next a }).Minds f.jobs l' := by
  obtain ⟨-, -, l, hagrees, howner⟩ := h
  rw [hasks.owner] at hagrees howner
  obtain ⟨earlier, hkeeps, hjobs⟩ := howner
  rw [hasks.rest] at hkeeps
  have hfree : (Owner.busy b).pending = none := hasks.free
  rw [hfree] at hagrees
  exact ⟨l, hagrees, hkeeps.1, fun a l' ha => ⟨earlier, hkeeps.step ha, hjobs⟩⟩

/-- What an operation came to is what the owner goes by afterwards. -/
theorem minds_after {before : Supervisor} {earlier : List (Job × Bool)}
    {op : Operation Job} {returned : Returned} {after : Option Supervisor}
    (h : CameTo before earlier op (returned, after) l) :
    (Owner.after after).Minds (earlier.map Prod.fst ++ op.jobs) l := by
  cases op with
  | start job =>
    rcases h with ⟨-, rfl, hrunning, hjobs⟩ | ⟨cause, -, rfl, hrunning, hjobs⟩
    · exact ⟨hrunning, by simp [hjobs, Operation.jobs]⟩
    · exact ⟨hrunning, by simp [hjobs, Operation.jobs]⟩
  | drop =>
    obtain ⟨-, rfl, hrunning, hjobs⟩ := h
    exact ⟨hrunning, by simp [hjobs, Operation.jobs]⟩
  | cancel | wait =>
    obtain ⟨reason, -, -, rfl, hrunning, hjobs⟩ := h
    exact ⟨hrunning, by simp [hjobs, Operation.jobs]⟩

theorem Kept.sound_move (h : Kept f) (hpost : f.posts[i]? = some post)
    (hstep : Affair.Step post.affair affair) :
    ∀ p ∈ f.posts.set i { post with affair }, p.Sound := by
  intro p hp
  rcases List.mem_or_eq_of_mem_set hp with hp | rfl
  · exact h.sound p hp
  · exact (h.sound post (List.mem_of_getElem? hpost)).step hstep

theorem Kept.sound_hand (h : Kept f) (job : Job) (engaged : Bool) :
    ∀ p ∈ f.posts ++ [Post.opening job engaged], p.Sound := by
  intro p hp
  rcases List.mem_append.mp hp with hp | hp
  · exact h.sound p hp
  · rw [List.mem_singleton.mp hp]
    exact Post.sound_opening job engaged

/-- Nothing is seen yet of a session that comes to be. -/
theorem Kept.log_hand (h : Kept f) (job : Job) (engaged : Bool) :
    f.log = inTurn ((f.posts ++ [Post.opening job engaged]).map Post.deeds) := by
  have hnothing : (Post.opening job engaged).deeds = [] := by
    cases engaged <;> rfl
  rw [List.map_append, List.map_singleton, inTurn_concat, hnothing,
    List.map_nil, List.append_nil]
  exact h.log

theorem Step.kept (hstep : Step f f') (h : Kept f) : Kept f' := by
  cases hstep with
  | begun hidle op =>
    obtain ⟨hsound, hlog, l, hagrees, howner⟩ := h
    rw [hidle] at hagrees howner
    obtain ⟨hactive, hjobs⟩ := howner
    have hkeeps := Supervisor.keeps_perform op hactive
    refine ⟨hsound, hlog, l, hagrees, l.jobs, hkeeps, ?_⟩
    rw [hjobs]
  | ended hbusy hpending hrest =>
    obtain ⟨hsound, hlog, l, hagrees, howner⟩ := h
    rw [hbusy] at hagrees howner
    obtain ⟨earlier, hkeeps, hjobs⟩ := howner
    rw [hrest] at hkeeps
    have hfree : (Owner.busy _).pending = none := hpending
    rw [hfree] at hagrees
    rename_i after
    have hnone : (Owner.after after).pending = none := by
      cases after <;> rfl
    exact ⟨hsound, hlog, l, hnone ▸ hagrees, hjobs ▸ minds_after hkeeps⟩
  | resumed hbusy hpending hover =>
    obtain ⟨hsound, hlog, l, hagrees, howner⟩ := h
    rw [hbusy] at hagrees howner
    have hpending' : (Owner.busy _).pending = some _ := hpending
    rw [hpending'] at hagrees
    exact ⟨hsound, hlog, l, hagrees.resume hover, howner⟩
  | moved hpost hstep ho =>
    have hsound := h.sound_move hpost hstep
    obtain ⟨-, hlog, l, hagrees, howner⟩ := h
    refine ⟨hsound, ?_, l, hagrees.move hpost hstep, howner⟩
    exact (congrArg (· ++ _) hlog).trans
      (hagrees.inTurn_move hpost hstep ho).symm
  | spawned hasks =>
    obtain ⟨l, hagrees, hrunning, hnext⟩ := h.asks hasks
    refine ⟨h.sound_hand _ _, h.log_hand _ _, _, hagrees.spawn hrunning _,
      hnext _ _ ⟨?_, rfl⟩⟩
    rw [hagrees.jobs, List.length_map]
  | refused hasks cause =>
    obtain ⟨l, hagrees, -, hnext⟩ := h.asks hasks
    exact ⟨h.sound, h.log, l, hagrees, hnext _ _ rfl⟩
  | discarded hasks =>
    obtain ⟨l, hagrees, hrunning, hnext⟩ := h.asks hasks
    exact ⟨h.sound_hand _ _, h.log_hand _ _, _, hagrees.discard hrunning _,
      hnext _ _ rfl⟩
  | cancelled hasks hpost hcall =>
    obtain ⟨l, hagrees, -, hnext⟩ := h.asks hasks
    have hstep := Affair.Step.cancel hcall
    refine ⟨h.sound_move hpost hstep, ?_, _, ?_, hnext _ _ rfl⟩
    · exact (congrArg (· ++ _) h.log).trans
        (hagrees.inTurn_move hpost hstep rfl).symm
    · apply (hagrees.move hpost hstep).await
      · exact getElem?_self_moved hpost _
      · exact Affair.made_cancel _ _
      · simp [Affair.cancel]
  | joined hasks hpost hdone =>
    obtain ⟨l, hagrees, ⟨hrunning, -⟩, hnext⟩ := h.asks hasks
    exact ⟨h.sound, h.log, _, hagrees.hear hrunning hpost hdone,
      hnext _ _ rfl⟩
  | logged hasks =>
    obtain ⟨l, hagrees, -, hnext⟩ := h.asks hasks
    exact ⟨h.sound, h.log, l, hagrees, hnext _ _ rfl⟩

theorem kept_opening : Kept {} := by
  refine ⟨nofun, rfl, {}, ⟨rfl, nofun, nofun, nofun, nofun, nofun, nofun⟩, rfl,
    rfl⟩

theorem Run.kept (hrun : Run f f') (h : Kept f) : Kept f' := by
  induction hrun with
  | start => exact h
  | next _ hstep ih => exact hstep.kept ih

end Firm

end CardBridge.Session
