/-!
# Dialogues

A procedure that depends on its surroundings is kept as a value: the tree of
the questions it asks and of what it does with each possible answer. An
`Interface` lists the questions and the type of the answer to each. The same
dialogue can then be carried on with a scripted peer, with a concurrent
partner, or with real sockets.

A dialogue is a finite object, so a procedure that may go on for ever is
given as its initial parts: it takes a bound on its rounds and ends in `cut`
where the bound is reached. A larger bound only continues what was cut
(`Dialogue.ContinuedBy`).
-/

namespace CardBridge

/-- The questions that a procedure may ask, and the answers to each. -/
structure Interface where
  Ask : Type
  Answer : Ask → Type

/-- A procedure that asks questions of the interface `I` and ends with a
result in `α`. -/
inductive Dialogue (I : Interface) (α : Type) where
  | done (result : α)
  | ask (question : I.Ask) (next : I.Answer question → Dialogue I α)
  /-- The bound on the rounds of the procedure is used up. -/
  | cut

namespace Dialogue

variable {I J : Interface} {α β γ σ ω : Type}

/-- First one procedure, then another that may depend on its result. -/
def bind : Dialogue I α → (α → Dialogue I β) → Dialogue I β
  | done a, f => f a
  | ask q next, f => ask q fun answer => (next answer).bind f
  | cut, _ => cut

instance : Monad (Dialogue I) where
  pure := done
  bind := bind

@[simp] theorem pure_eq (a : α) : (pure a : Dialogue I α) = done a := rfl

@[simp] theorem done_bind (a : α) (f : α → Dialogue I β) :
    (done a >>= f) = f a := rfl

@[simp] theorem ask_bind (q : I.Ask) (next : I.Answer q → Dialogue I α)
    (f : α → Dialogue I β) :
    (ask q next >>= f) = ask q fun answer => next answer >>= f := rfl

@[simp] theorem cut_bind (f : α → Dialogue I β) :
    ((cut : Dialogue I α) >>= f) = cut := rfl

theorem bind_done (d : Dialogue I α) : d >>= done = d := by
  induction d with
  | done a => rfl
  | ask q next ih => simp [ih]
  | cut => rfl

theorem bind_bind (d : Dialogue I α) (f : α → Dialogue I β)
    (g : β → Dialogue I γ) :
    (d >>= f) >>= g = d >>= fun a => f a >>= g := by
  induction d with
  | done a => rfl
  | ask q next ih => simp [ih]
  | cut => rfl

instance : LawfulMonad (Dialogue I) :=
  LawfulMonad.mk' (Dialogue I) bind_done (fun _ _ => rfl) bind_bind

/-- A single question, with its answer as the result. -/
def question (q : I.Ask) : Dialogue I (I.Answer q) :=
  ask q done

/-- Carries a dialogue over to an interface that contains its questions. -/
def embed (ask' : I.Ask → J.Ask)
    (answer : (q : I.Ask) → J.Answer (ask' q) → I.Answer q) :
    Dialogue I α → Dialogue J α
  | done a => done a
  | ask q next => ask (ask' q) fun a => (next (answer q a)).embed ask' answer
  | cut => cut

/-- Surroundings with a state: what they answer, or `none` where no answer
ever comes, and their state afterwards. -/
abbrev Handler (I : Interface) (ω : Type) :=
  (q : I.Ask) → ω → Option (I.Answer q) × ω

/-- Carries the dialogue on with the given surroundings. There is no result
if it was cut or waits for an answer for ever. -/
def run (handle : Handler I ω) : Dialogue I α → ω → Option α × ω
  | done a, w => (some a, w)
  | cut, w => (none, w)
  | ask q next, w =>
    match handle q w with
    | (some answer, w') => (next answer).run handle w'
    | (none, w') => (none, w')

/-- Carries the dialogue on as far as the surroundings answer; gives what is
left of it. -/
def pursue (handle : Handler I ω) : Dialogue I α → ω → Dialogue I α × ω
  | done a, w => (done a, w)
  | cut, w => (cut, w)
  | ask q next, w =>
    match handle q w with
    | (some answer, w') => (next answer).pursue handle w'
    | (none, w') => (ask q next, w')

def result? : Dialogue I α → Option α
  | done a => some a
  | _ => none

/-- Carries the dialogue on in a monad whose actions give the answers. -/
def perform {m : Type → Type} [Monad m] (answer : (q : I.Ask) → m (I.Answer q)) :
    Dialogue I α → m (Option α)
  | done a => return some a
  | cut => return none
  | ask q next => do
    let a ← answer q
    (next a).perform answer

/-- Surroundings that answer every question. -/
abbrev Machine (I : Interface) (ω : Type) :=
  (q : I.Ask) → ω → I.Answer q × ω

def Machine.handler (machine : Machine I ω) : Handler I ω :=
  fun q w =>
    let (answer, w') := machine q w
    (some answer, w')

/-- The operations of `J`, each carried out by a dialogue over `I`, with a
state of type `σ` that is kept from one operation to the next. -/
abbrev Layer (I J : Interface) (σ : Type) :=
  (q : J.Ask) → σ → Dialogue I (J.Answer q × σ)

/-- A layer on top of the surroundings that it asks. -/
def Layer.over (layer : Layer I J σ) (handle : Handler I ω) :
    Handler J (σ × ω) :=
  fun q (s, w) =>
    match (layer q s).run handle w with
    | (some (answer, s'), w') => (some answer, s', w')
    | (none, w') => (none, s, w')

/-- A question together with the answer that was given to it. -/
structure Exchange (I : Interface) where
  question : I.Ask
  answer : I.Answer question

/-- The same surroundings, which also note down every exchange. -/
def Handler.noted (handle : Handler I ω) :
    Handler I (ω × List (Exchange I)) :=
  fun q (w, notes) =>
    match handle q w with
    | (some answer, w') => (some answer, w', notes ++ [⟨q, answer⟩])
    | (none, w') => (none, w', notes)

@[simp] theorem run_done (handle : Handler I ω) (a : α) (w : ω) :
    (done a : Dialogue I α).run handle w = (some a, w) := rfl

@[simp] theorem run_cut (handle : Handler I ω) (w : ω) :
    (cut : Dialogue I α).run handle w = (none, w) := rfl

theorem run_bind (handle : Handler I ω) (d : Dialogue I α)
    (f : α → Dialogue I β) (w : ω) :
    (d >>= f).run handle w =
      match d.run handle w with
      | (some a, w') => (f a).run handle w'
      | (none, w') => (none, w') := by
  induction d generalizing w with
  | done a => rfl
  | cut => rfl
  | ask q next ih =>
    simp only [ask_bind, run]
    split
    · next answer w' h => exact ih answer w'
    · rfl

theorem run_map (handle : Handler I ω) (f : α → β) (d : Dialogue I α)
    (w : ω) :
    (f <$> d).run handle w =
      ((d.run handle w).1.map f, (d.run handle w).2) := by
  rw [map_eq_pure_bind, run_bind]
  rcases d.run handle w with ⟨_ | a, w'⟩ <;> rfl

end Dialogue

end CardBridge
