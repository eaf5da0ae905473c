import CardBridge.Cli.Serve
import CardBridge.Proofs.Promises

/-!
# What the command `run` prints

The command prints the events that it is given, one after the other, and
asks for the reason for which the session ended when there are no more. It
goes by nothing but what it was answered: `keeps_run` says in terms of the
answers so far what it asks when, and how it comes to its end.
-/

namespace CardBridge.Cli.Serve

open Dialogue

variable {rounds : Nat} {args : Args} {said : List (Exchange Surroundings)}

/-! ## What a command has done -/

/-- The event that the command was given, if it was given one. -/
def event? : Exchange Surroundings → Option Event
  | ⟨.nextEvent, answer⟩ => answer
  | _ => none

def record? : Exchange Surroundings → Option Record
  | ⟨.print record, _⟩ => some record
  | _ => none

/-- What the command was told of the end of its session, if it asked. -/
def reason? : Exchange Surroundings → Option (Option ExitReason)
  | ⟨.wait, answer⟩ => some answer
  | _ => none

/-- The events that the command was given. -/
def taken (said : List (Exchange Surroundings)) : List Event :=
  said.filterMap event?

def printed (said : List (Exchange Surroundings)) : List Record :=
  said.filterMap record?

/-- What the command was told of the end of its session. -/
def reasons (said : List (Exchange Surroundings)) :
    List (Option ExitReason) :=
  said.filterMap reason?

/-- A session was started. -/
def starts : Exchange Surroundings → Bool
  | ⟨.start _, .ok ()⟩ => true
  | _ => false

/-- There are no more events. -/
def exhausts : Exchange Surroundings → Bool
  | ⟨.nextEvent, none⟩ => true
  | _ => false

/-- The session is let go of. -/
def parts : Exchange Surroundings → Bool
  | ⟨.wait, _⟩ => true
  | ⟨.cancel, _⟩ => true
  | _ => false

/-- Interrupts cannot be caught. -/
def deafens : Exchange Surroundings → Bool
  | ⟨.catchInterrupts, .error _⟩ => true
  | _ => false

section

variable (said : List (Exchange Surroundings)) (e : Exchange Surroundings)

@[simp] theorem taken_concat :
    taken (said ++ [e]) = taken said ++ (event? e).toList := by
  cases h : event? e <;> simp [taken, h]

@[simp] theorem printed_concat :
    printed (said ++ [e]) = printed said ++ (record? e).toList := by
  cases h : record? e <;> simp [printed, h]

@[simp] theorem reasons_concat :
    reasons (said ++ [e]) = reasons said ++ (reason? e).toList := by
  cases h : reason? e <;> simp [reasons, h]

end

/-! ## What a command keeps to -/

/-- What is asked when. Events are asked for, and the session is waited for,
while there is one and it was not let go of. -/
def Minds (rounds : Nat) (args : Args) (q : Option Ask)
    (said : List (Exchange Surroundings)) : Prop :=
  printed said <+: (taken said).map .status ∧
    match q with
    | none => rounds ≤ (printed said).length
    | some (.start config) =>
      settings args = .ok config ∧ said.any starts = false
    | some .nextEvent => said.any starts = true ∧ said.any parts = false
    | some .wait => said.any starts = true ∧ said.any parts = false
    | some .cancel => said.any starts = true ∧ said.any parts = false
    | some _ => True

/-- Nothing is left to be taken. -/
def Whole (said : List (Exchange Surroundings)) : Prop :=
  said.any exhausts = true ∨
    ∃ earlier reason, taken said = earlier ++ [.disconnected reason]

/-- A command that has followed a session to its end: it has printed what it
was given, and was given everything up to the last event. -/
structure Followed (code : ExitCode) (said : List (Exchange Surroundings)) :
    Prop where
  started : said.any starts = true
  printed_eq : printed said = (taken said).map .status
  whole : Whole said
  code_eq : ∃ answer ∈ reasons said,
    code = .ofReason (answer.getD (.failed noReason))

/-- How the command comes to its end. A command that fails has started no
session, or could not catch interrupts. -/
def CameTo (result : Except Failure ExitCode)
    (said : List (Exchange Surroundings)) : Prop :=
  match result with
  | .error _ => printed said = [] ∧
      (said.any starts = false ∨ said.any deafens = true)
  | .ok code => Followed code said

/-- No session was started. -/
structure Early (said : List (Exchange Surroundings)) : Prop where
  taken_eq : taken said = []
  printed_eq : printed said = []
  started : said.any starts = false
  parted : said.any parts = false

/-- A session was started, and everything that was taken was printed. -/
structure Attending (said : List (Exchange Surroundings)) : Prop where
  started : said.any starts = true
  parted : said.any parts = false
  printed_eq : printed said = (taken said).map .status

theorem Early.came (h : Early said) (failure : Failure) :
    CameTo (.error failure) said :=
  ⟨h.printed_eq, .inl h.started⟩

theorem Early.printed_ahead (h : Early said) :
    printed said <+: (taken said).map .status := by
  rw [h.printed_eq]
  exact List.nil_prefix

theorem Attending.printed_ahead (h : Attending said) :
    printed said <+: (taken said).map .status :=
  h.printed_eq ▸ List.prefix_rfl

theorem Followed.printed_ahead {code : ExitCode} (h : Followed code said) :
    printed said <+: (taken said).map .status :=
  h.printed_eq ▸ List.prefix_rfl

/-- What belongs to no session changes nothing before there is one. -/
theorem Early.aside (h : Early said) {e : Exchange Surroundings}
    (hevent : event? e = none) (hrecord : record? e = none)
    (hstarts : starts e = false) (hparts : parts e = false) :
    Early (said ++ [e]) := by
  constructor
  · simp [h.taken_eq, hevent]
  · simp [h.printed_eq, hrecord]
  · simp [h.started, hstarts]
  · simp [h.parted, hparts]

theorem Early.start (h : Early said) (config : SessionConfig) :
    Attending (said ++ [⟨.start config, .ok ()⟩]) := by
  constructor
  · simp [starts]
  · simp [h.parted, parts]
  · simp [h.taken_eq, h.printed_eq, event?, record?]

/-- What is of no concern to the session changes nothing. -/
theorem Attending.aside (h : Attending said) {e : Exchange Surroundings}
    (hevent : event? e = none) (hrecord : record? e = none)
    (hparts : parts e = false) : Attending (said ++ [e]) := by
  constructor
  · simp [h.started]
  · simp [h.parted, hparts]
  · simp [h.printed_eq, hevent, hrecord]

/-- An event is printed as soon as it was taken. -/
theorem Attending.print (h : Attending said) (event : Event) (a : Unit) :
    Attending (said ++ [⟨.nextEvent, some event⟩] ++
      [⟨.print (.status event), a⟩]) := by
  constructor
  · simp [h.started]
  · simp [h.parted, parts]
  · simp only [printed_concat, taken_concat, h.printed_eq]
    simp [event?, record?]

/-- What comes after that does not matter. -/
theorem Whole.concat (h : Whole said) {e : Exchange Surroundings}
    (hevent : event? e = none) : Whole (said ++ [e]) := by
  rcases h with hexhausted | ⟨earlier, reason, htaken⟩
  · exact .inl (by simp [hexhausted])
  · exact .inr ⟨earlier, reason, by simp [htaken, hevent]⟩

/-- What a command was told is what it goes by. -/
theorem Attending.finish (h : Attending said) (hwhole : Whole said)
    (answer : Option ExitReason) :
    Followed (.ofReason (answer.getD (.failed noReason)))
      (said ++ [⟨.wait, answer⟩]) where
  started := by simp [h.started]
  printed_eq := by simp [h.printed_eq, event?, record?]
  whole := hwhole.concat rfl
  code_eq := ⟨answer, by simp [reason?], rfl⟩

theorem Followed.log {code : ExitCode} (h : Followed code said)
    (record : Log.Record) (a : Unit) :
    Followed code (said ++ [⟨.log record, a⟩]) where
  started := by simp [h.started]
  printed_eq := by simp [h.printed_eq, event?, record?]
  whole := h.whole.concat rfl
  code_eq := by simpa [reason?] using h.code_eq

/-! ## The parts of the command -/

section

variable {α ε : Type} {P : Option Ask → List (Exchange Surroundings) → Prop}

theorem keeps_ask {q : Ask}
    {Q : Answer q → List (Exchange Surroundings) → Prop} :
    (ask q).Keeps noting P Q said ↔
      P (some q) said ∧ ∀ a, Q a (said ++ [⟨q, a⟩]) := by
  refine and_congr_right fun _ => ⟨fun h a => h a _ rfl, ?_⟩
  rintro h a _ rfl
  exact h a

theorem keeps_orFail {wrap : ε → Failure} {result : Except ε α}
    {Q : Except Failure α → List (Exchange Surroundings) → Prop} :
    (orFail wrap result).run.Keeps noting P Q said ↔
      Q (result.mapError wrap) said := by
  cases result <;> rfl

end

theorem keeps_openCard (bound : Option Duration) (h : Early said) :
    (openCard args bound).run.Keeps noting (Minds rounds args)
      (fun _ => Early) said := by
  unfold openCard
  split
  · refine keeps_run_liftM.mpr (keeps_ask.mpr ⟨⟨h.printed_ahead, trivial⟩, ?_⟩)
    intro a
    exact h.aside rfl rfl rfl rfl
  · exact h
  · refine keeps_run_bind.mpr (keeps_run_liftM.mpr (keeps_ask.mpr
      ⟨⟨h.printed_ahead, trivial⟩, ?_⟩))
    intro a
    exact keeps_orFail.mpr (h.aside rfl rfl rfl rfl)

/-- Everything that is taken is printed before more is asked for. The bound
is used up only by as many events. -/
theorem keeps_printEvents {left : Nat} (h : Attending said)
    (hleft : rounds ≤ (printed said).length + left) :
    (printEvents left).Keeps noting (Minds rounds args)
      (fun _ said => Attending said ∧ Whole said) said := by
  induction left generalizing said with
  | zero => exact ⟨h.printed_ahead, hleft⟩
  | succ left ih =>
    refine keeps_bind.mpr (keeps_ask.mpr
      ⟨⟨h.printed_ahead, h.started, h.parted⟩, ?_⟩)
    intro answer
    cases answer with
    | none => exact ⟨h.aside rfl rfl rfl, .inl (by simp [exhausts])⟩
    | some event =>
      have hahead : printed (said ++ [⟨.nextEvent, some event⟩]) <+:
          (taken (said ++ [⟨.nextEvent, some event⟩])).map .status := by
        simp [h.printed_eq, event?, record?]
      refine keeps_bind.mpr (keeps_ask.mpr ⟨⟨hahead, trivial⟩, ?_⟩)
      intro a
      have hnext := h.print event a
      by_cases hterminal : event.isTerminal = true
      · rw [if_pos hterminal]
        refine ⟨hnext, Whole.concat ?_ rfl⟩
        cases event with
        | disconnected reason =>
          exact .inr ⟨taken said, reason, by simp [event?]⟩
        | _ => cases hterminal
      · rw [if_neg hterminal]
        refine ih hnext ?_
        simp only [printed_concat, record?, Option.toList, List.append_nil,
          List.length_append, List.length_singleton]
        omega

theorem keeps_finish (h : Attending said) (hwhole : Whole said) :
    finish.Keeps noting (Minds rounds args)
      (fun reason => Followed (.ofReason reason)) said := by
  refine keeps_bind.mpr (keeps_ask.mpr
    ⟨⟨h.printed_ahead, h.started, h.parted⟩, ?_⟩)
  intro answer
  have hfollowed := h.finish hwhole answer
  cases answer with
  | some reason => exact hfollowed
  | none =>
    refine keeps_bind.mpr (keeps_ask.mpr
      ⟨⟨hfollowed.printed_ahead, trivial⟩, ?_⟩)
    intro a
    exact hfollowed.log _ a

theorem keeps_follow (h : Attending said) (htaken : taken said = []) :
    (follow rounds).run.Keeps noting (Minds rounds args) CameTo said := by
  refine keeps_run_bind.mpr (keeps_run_liftM.mpr (keeps_ask.mpr
    ⟨⟨h.printed_ahead, trivial⟩, ?_⟩))
  intro answer
  have hasked := h.aside (e := ⟨.catchInterrupts, answer⟩) rfl rfl rfl
  cases answer with
  | error text =>
    refine keeps_run_bind.mpr (keeps_run_liftM.mpr (keeps_ask.mpr
      ⟨⟨hasked.printed_ahead, hasked.started, hasked.parted⟩, ?_⟩))
    intro a
    refine ⟨?_, .inr (by simp [deafens])⟩
    simp only [printed_concat, h.printed_eq, htaken]
    rfl
  | ok _ =>
    refine keeps_run_bind.mpr (keeps_run_liftM.mpr
      ((keeps_printEvents hasked ?_).imp ?_))
    · exact Nat.le_add_left ..
    · rintro _ said ⟨hattending, hwhole⟩
      exact keeps_run_bind.mpr (keeps_run_liftM.mpr
        (keeps_finish hattending hwhole))

/-- Whatever the command is answered, it keeps to this. -/
theorem keeps_run (rounds : Nat) (args : Args) :
    (run rounds args).run.Keeps noting (Minds rounds args) CameTo [] := by
  have hearly : Early [] := ⟨rfl, rfl, rfl, rfl⟩
  refine keeps_run_bind.mpr (keeps_orFail.mpr ?_)
  cases hsettings : settings args with
  | error failure => exact hearly.came failure
  | ok config =>
    refine (keeps_openCard _ hearly).run_bind ?_
    intro result said hearly
    cases result with
    | error failure => exact hearly.came failure
    | ok _ =>
      refine keeps_run_bind.mpr (keeps_run_liftM.mpr (keeps_ask.mpr
        ⟨⟨hearly.printed_ahead, hsettings, hearly.started⟩, ?_⟩))
      intro answer
      refine keeps_run_bind.mpr (keeps_orFail.mpr ?_)
      cases answer with
      | error e => exact (hearly.aside rfl rfl rfl rfl).came _
      | ok _ =>
        exact keeps_follow (hearly.start config)
          (by simp [hearly.taken_eq, event?])

end CardBridge.Cli.Serve
