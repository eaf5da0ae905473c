import Mathlib.Logic.Relation
import CardBridge.Cli.Failure

/-!
# What an error means to the caller of a command

Errors stand for others that are nested in them. The one that is reached in
the end (`Reaches`) decides by itself with which code and which text a
command fails (`errors_are_rated`).
-/

namespace CardBridge.Cli

/-- An error of any of the kinds that can be nested in one another. -/
inductive Fault where
  | io (cause : IoError)
  | transport (e : TransportError)
  | frame (e : FrameError)
  | card (e : CardError)
  | session (e : SessionError)

namespace Fault

variable {f g core core' : Fault}

/-- The full text of an error. -/
def text : Fault → String
  | io cause => cause.text
  | transport e => e.message
  | frame e => e.message
  | card e => e.message
  | session e => e.message

/-- How a command fails with an error. -/
def failure (context : String) : Fault → Failure
  | io cause => .ofIo context cause
  | transport e => .ofTransport context e
  | frame e => .ofFrame context e
  | card e => .ofCard context e
  | session e => .ofSession context e

/-- The errors that stand for the one that is nested in them. -/
inductive Wraps : Fault → Fault → Prop
  | transportIo (cause : IoError) : Wraps (transport (.io cause)) (io cause)
  | accept (cause : IoError) : Wraps (transport (.accept cause)) (io cause)
  | frameIo (cause : IoError) : Wraps (frame (.io cause)) (io cause)
  | cardIo (cause : IoError) : Wraps (card (.io cause)) (io cause)
  | cardFrame (e : FrameError) : Wraps (card (.frame e)) (frame e)
  | cardTransport (e : TransportError) :
    Wraps (card (.transport e)) (transport e)
  | sessionFrame (e : FrameError) : Wraps (session (.frame e)) (frame e)
  | sessionTransport (e : TransportError) :
    Wraps (session (.transport e)) (transport e)
  | sessionCard (e : CardError) : Wraps (session (.card e)) (card e)

/-- An error that stands for itself. -/
def Innermost (f : Fault) : Prop :=
  ∀ g, ¬ Wraps f g

/-- What is reached in an error, from one to the next, in the end. -/
def Reaches (f core : Fault) : Prop :=
  Relation.ReflTransGen Wraps f core ∧ Innermost core

theorem Innermost.reaches (h : Innermost f) : Reaches f f :=
  ⟨.refl, h⟩

theorem Wraps.reaches (h : Wraps f g) (hcore : Reaches g core) :
    Reaches f core :=
  ⟨.head h hcore.1, hcore.2⟩

theorem Wraps.unique (h : Wraps f g) {g' : Fault} (h' : Wraps f g') :
    g = g' := by
  cases h <;> cases h' <;> rfl

theorem Reaches.unique (h : Reaches f core) (h' : Reaches f core') :
    core' = core := by
  obtain ⟨hsteps, hcore⟩ := h
  induction hsteps using Relation.ReflTransGen.head_induction_on with
  | refl =>
    obtain ⟨hsteps, -⟩ := h'
    rcases hsteps.cases_head with rfl | ⟨g, hg, -⟩
    · rfl
    · exact absurd hg (hcore g)
  | head hstep _ ih =>
    refine ih ⟨?_, h'.2⟩
    rcases h'.1.cases_head with rfl | ⟨g, hg, hrest⟩
    · exact absurd hstep (h'.2 _)
    · exact hstep.unique hg ▸ hrest

/-! ## Something is always reached

What an error stands for is at most three steps away from it. -/

theorem innermost_io (cause : IoError) : Innermost (io cause) := by
  rintro g ⟨⟩

theorem exists_reaches_transport (e : TransportError) :
    ∃ core, Reaches (transport e) core := by
  cases e with
  | io cause => exact ⟨_, (Wraps.transportIo cause).reaches
      (innermost_io cause).reaches⟩
  | accept cause => exact ⟨_, (Wraps.accept cause).reaches
      (innermost_io cause).reaches⟩
  | resolve | bind | connect | shutdown =>
    refine ⟨_, Innermost.reaches ?_⟩
    rintro g ⟨⟩

theorem exists_reaches_frame (e : FrameError) :
    ∃ core, Reaches (frame e) core := by
  cases e with
  | io cause => exact ⟨_, (Wraps.frameIo cause).reaches
      (innermost_io cause).reaches⟩
  | payloadTooLarge | unhandledCommand | ambiguousApdu | connectionClosed =>
    refine ⟨_, Innermost.reaches ?_⟩
    rintro g ⟨⟩

theorem exists_reaches_card (e : CardError) :
    ∃ core, Reaches (card e) core := by
  cases e with
  | io cause => exact ⟨_, (Wraps.cardIo cause).reaches
      (innermost_io cause).reaches⟩
  | frame e =>
    obtain ⟨core, hcore⟩ := exists_reaches_frame e
    exact ⟨core, (Wraps.cardFrame e).reaches hcore⟩
  | transport e =>
    obtain ⟨core, hcore⟩ := exists_reaches_transport e
    exact ⟨core, (Wraps.cardTransport e).reaches hcore⟩
  | remoteClosed | ejected | fault =>
    refine ⟨_, Innermost.reaches ?_⟩
    rintro g ⟨⟩

theorem exists_reaches (e : SessionError) :
    ∃ core, Reaches (session e) core := by
  cases e with
  | frame e =>
    obtain ⟨core, hcore⟩ := exists_reaches_frame e
    exact ⟨core, (Wraps.sessionFrame e).reaches hcore⟩
  | transport e =>
    obtain ⟨core, hcore⟩ := exists_reaches_transport e
    exact ⟨core, (Wraps.sessionTransport e).reaches hcore⟩
  | card e =>
    obtain ⟨core, hcore⟩ := exists_reaches_card e
    exact ⟨core, (Wraps.sessionCard e).reaches hcore⟩
  | protocol | spawn =>
    refine ⟨_, Innermost.reaches ?_⟩
    rintro g ⟨⟩

/-! ## Codes and texts -/

/-- An error fails like the one that it stands for. -/
theorem Wraps.failure_eq (h : Wraps f g) (context : String) :
    f.failure context = g.failure context := by
  cases h <;> rfl

theorem Reaches.failure_eq (h : Reaches f core) (context : String) :
    f.failure context = core.failure context := by
  obtain ⟨hsteps, -⟩ := h
  induction hsteps with
  | refl => rfl
  | tail _ hstep ih => rw [ih, hstep.failure_eq]

theorem Innermost.message_eq (h : Innermost core) (context : String) :
    (core.failure context).message = context ++ ": " ++ core.text := by
  cases core with
  | io cause => rfl
  | transport e =>
    cases e with
    | io cause => exact absurd (.transportIo cause) (h _)
    | accept cause => exact absurd (.accept cause) (h _)
    | resolve | bind | connect | shutdown => rfl
  | frame e =>
    cases e with
    | io cause => exact absurd (.frameIo cause) (h _)
    | payloadTooLarge | unhandledCommand | ambiguousApdu | connectionClosed =>
      rfl
  | card e =>
    cases e with
    | io cause => exact absurd (.cardIo cause) (h _)
    | frame e => exact absurd (.cardFrame e) (h _)
    | transport e => exact absurd (.cardTransport e) (h _)
    | remoteClosed | ejected | fault => rfl
  | session e =>
    cases e with
    | frame e => exact absurd (.sessionFrame e) (h _)
    | transport e => exact absurd (.sessionTransport e) (h _)
    | card e => exact absurd (.sessionCard e) (h _)
    | protocol | spawn => rfl

/-- A place could not be taken or reached because of `cause`. -/
def OfPlace (core : Fault) (cause : IoError) : Prop :=
  ∃ address, core = transport (.bind address cause) ∨
    core = transport (.connect address cause)

/-- For which errors that stand for themselves each code is. -/
structure Rated (core : Fault) (code : ExitCode) : Prop where
  ne_zero : code ≠ 0
  usage : code = 64 ↔ ∃ host port cause,
    core = transport (.resolve host port cause)
  internal : code = 125 ↔ ∃ cause, core = session (.spawn cause)
  dataInvalid : code = 60 ↔ (∃ text, core = session (.protocol text)) ∨
    (∃ size limit, core = frame (.payloadTooLarge size limit)) ∨
    core = frame .ambiguousApdu
  timeout : code = 124 ↔
    (∃ cause, core = io cause ∧
      (cause.kind = .timedOut ∨ cause.kind = .wouldBlock)) ∨
    ∃ cause, core.OfPlace cause ∧ cause.kind = .timedOut
  transport : code = 3 ↔ core = transport .shutdown ∨
    (∃ cause, core.OfPlace cause ∧ cause.kind ≠ .timedOut) ∨
    ∃ cause, core = io cause ∧
      cause.kind ∈ [.connectionRefused, .connectionReset, .brokenPipe,
        .addrInUse, .addrNotAvailable]
  failure : code ∉ [64, 125, 60, 124, 3] → code = 1

theorem rated_io (cause : IoError) :
    Rated (io cause) (Failure.codeOfKind cause.kind) := by
  obtain ⟨kind, text⟩ := cause
  cases kind <;> constructor <;>
    simp [Failure.codeOfKind, OfPlace, ExitCode.failure, ExitCode.timeout,
      ExitCode.transport]

theorem rated_place {cause : IoError} (h : core.OfPlace cause) :
    Rated core (Failure.codeOfPlace cause) := by
  rw [Failure.codeOfPlace]
  split
  · rename_i hkind
    obtain ⟨address, rfl | rfl⟩ := h <;> constructor <;>
      simp [OfPlace, ExitCode.timeout, hkind]
  · rename_i hkind
    obtain ⟨address, rfl | rfl⟩ := h <;> constructor <;>
      simp [OfPlace, ExitCode.transport, hkind]

/-- An error that stands for itself has the code that is for it. -/
theorem Innermost.rated (h : Innermost core) (context : String) :
    Rated core (core.failure context).code := by
  cases core with
  | io cause => exact rated_io cause
  | transport e =>
    cases e with
    | io cause => exact absurd (.transportIo cause) (h _)
    | accept cause => exact absurd (.accept cause) (h _)
    | bind address cause => exact rated_place ⟨address, .inl rfl⟩
    | connect address cause => exact rated_place ⟨address, .inr rfl⟩
    | resolve host port cause =>
      show Rated _ 64
      constructor <;> simp [OfPlace]
    | shutdown =>
      show Rated _ 3
      constructor <;> simp [OfPlace]
  | frame e =>
    cases e with
    | io cause => exact absurd (.frameIo cause) (h _)
    | payloadTooLarge | ambiguousApdu =>
      show Rated _ 60
      constructor <;> simp [OfPlace]
    | unhandledCommand | connectionClosed =>
      show Rated _ 1
      constructor <;> simp [OfPlace]
  | card e =>
    cases e with
    | io cause => exact absurd (.cardIo cause) (h _)
    | frame e => exact absurd (.cardFrame e) (h _)
    | transport e => exact absurd (.cardTransport e) (h _)
    | remoteClosed | ejected | fault =>
      show Rated _ 1
      constructor <;> simp [OfPlace]
  | session e =>
    cases e with
    | frame e => exact absurd (.sessionFrame e) (h _)
    | transport e => exact absurd (.sessionTransport e) (h _)
    | card e => exact absurd (.sessionCard e) (h _)
    | protocol text =>
      show Rated _ 60
      constructor <;> simp [OfPlace]
    | spawn cause =>
      show Rated _ 125
      constructor <;> simp [OfPlace]

end Fault

open Fault

/-- A frame error has the code for a timeout exactly if it is one. -/
theorem code_ofFrame_iff (context : String) (e : FrameError) :
    (Failure.ofFrame context e).code = 124 ↔ e.isTimeout = true := by
  cases e with
  | io cause =>
    refine (rated_io cause).timeout.trans ?_
    simp [OfPlace, FrameError.isTimeout, IoError.isTimeout, or_comm]
  | payloadTooLarge | unhandledCommand | ambiguousApdu | connectionClosed =>
    simp [Failure.ofFrame, Failure.during, FrameError.isTimeout,
      ExitCode.dataInvalid, ExitCode.failure]

/-- In every session error, exactly one error is reached. It decides the
code; its text is the message, behind what was being done; and whatever else
it is reached in fails in the same way. A frame error has the code for a
timeout exactly if it is one. -/
theorem errors_are_rated :
    (∀ context e, ∃ core,
      (∀ other, Reaches (.session e) other ↔ other = core) ∧
      (Failure.ofSession context e).message =
        context ++ ": " ++ core.text ∧
      Rated core (Failure.ofSession context e).code ∧
      ∀ f, Reaches f core →
        f.failure context = Failure.ofSession context e) ∧
    ∀ context e, (Failure.ofFrame context e).code = 124 ↔
      e.isTimeout = true := by
  refine ⟨fun context e => ?_, code_ofFrame_iff⟩
  obtain ⟨core, hcore⟩ := exists_reaches e
  have hfailure : Failure.ofSession context e = core.failure context :=
    hcore.failure_eq context
  rw [hfailure]
  refine ⟨core, fun other => ⟨hcore.unique, ?_⟩, hcore.2.message_eq context,
    hcore.2.rated context, fun f hf => hf.failure_eq context⟩
  rintro rfl
  exact hcore

/-- The stream to a remote card was not ready in time. -/
theorem errors_are_rated_of_late_card :
    Reaches (.frame (.io ⟨.wouldBlock, "not ready"⟩))
        (.io ⟨.wouldBlock, "not ready"⟩) ∧
      Failure.ofSession "session" (.card (.frame (.io
        ⟨.wouldBlock, "not ready"⟩))) = ⟨124, "session: not ready"⟩ := by
  have hframe : Reaches (.frame (.io ⟨.wouldBlock, "not ready"⟩))
      (.io ⟨.wouldBlock, "not ready"⟩) :=
    (Wraps.frameIo _).reaches (innermost_io _).reaches
  have hsession : Reaches (.session (.card (.frame (.io
      ⟨.wouldBlock, "not ready"⟩)))) (.io ⟨.wouldBlock, "not ready"⟩) :=
    (Wraps.sessionCard _).reaches ((Wraps.cardFrame _).reaches hframe)
  obtain ⟨core, hunique, -, -, hsame⟩ := errors_are_rated.1 "session"
    (.card (.frame (.io ⟨.wouldBlock, "not ready"⟩)))
  obtain rfl := (hunique _).mp hsession
  exact ⟨hframe, (hsame _ hframe).symm⟩

end CardBridge.Cli
