import CardBridge.Proofs.Promises

/-!
# Larger bounds

A procedure that may go on for ever takes a bound on its rounds, and is cut
where that is reached. With a larger bound it does the same and only goes on
where it was cut: `ContinuedBy` says so of two dialogues, and that the first
is not cut before so many of its questions are answered. Like what a dialogue
keeps to, it is taken apart along a program, with one rule for each way to
put procedures together.
-/

namespace CardBridge.Dialogue

variable {I J : Interface} {α β ω ε : Type} {m n : Nat}

/-- The second dialogue asks what the first asks and comes to the same result,
except that it may go on where the first is cut. The first is not cut before
`n` questions are answered. -/
inductive ContinuedBy : Nat → Dialogue I α → Dialogue I α → Prop where
  | done (n : Nat) (a : α) : ContinuedBy n (done a) (done a)
  | cut (d : Dialogue I α) : ContinuedBy 0 cut d
  | ask {n : Nat} {q : I.Ask} {next next' : I.Answer q → Dialogue I α}
    (h : ∀ a, ContinuedBy (n - 1) (next a) (next' a)) :
    ContinuedBy n (ask q next) (ask q next')

namespace ContinuedBy

variable {d d' : Dialogue I α} {q : I.Ask} {next : I.Answer q → Dialogue I α}
  {a : α}

/-! ## One dialogue -/

theorem eq_done (h : (Dialogue.done a).ContinuedBy n d') : d' = .done a := by
  cases h
  rfl

theorem eq_zero (h : Dialogue.cut.ContinuedBy n d') : n = 0 := by
  cases h
  rfl

theorem exists_ask (h : (Dialogue.ask q next).ContinuedBy n d') :
    ∃ next', d' = .ask q next' ∧
      ∀ a, (next a).ContinuedBy (n - 1) (next' a) := by
  cases h with
  | ask h => exact ⟨_, rfl, h⟩

/-- What is not cut before so many answers is not cut before fewer. -/
theorem mono (h : d.ContinuedBy n d') (hm : m ≤ n) : d.ContinuedBy m d' := by
  induction h generalizing m with
  | done n a => exact .done m a
  | cut d =>
    obtain rfl := Nat.le_zero.mp hm
    exact .cut d
  | ask _ ih => exact .ask fun a => ih a (by omega)

/-! ## Procedures that are put together -/

theorem question (q : I.Ask) :
    (Dialogue.question q).ContinuedBy n (Dialogue.question q) :=
  .ask fun a => .done _ a

/-- Answers to the first of two procedures may count for the second, but need
not. -/
theorem bind {f f' : α → Dialogue I β} (h : d.ContinuedBy n d')
    (hf : ∀ a, (f a).ContinuedBy n (f' a)) :
    (d >>= f).ContinuedBy n (d' >>= f') := by
  induction h with
  | done n a => exact hf a
  | cut d => exact .cut _
  | ask _ ih =>
    refine .ask fun a => ih a fun b => ?_
    exact (hf b).mono (Nat.sub_le _ _)

theorem map (h : d.ContinuedBy n d') (f : α → β) :
    (f <$> d).ContinuedBy n (f <$> d') := by
  rw [map_eq_pure_bind, map_eq_pure_bind]
  exact h.bind fun a => .done n (f a)

theorem embed {ask' : I.Ask → J.Ask}
    {answer : (q : I.Ask) → J.Answer (ask' q) → I.Answer q}
    (h : d.ContinuedBy n d') :
    (d.embed ask' answer).ContinuedBy n (d'.embed ask' answer) := by
  induction h with
  | done n a => exact .done n a
  | cut d => exact .cut _
  | ask _ ih => exact .ask fun a => ih _

theorem run_lift (h : d.ContinuedBy n d') :
    (ExceptT.lift d : ExceptT ε (Dialogue I) α).run.ContinuedBy n
      (ExceptT.lift d' : ExceptT ε (Dialogue I) α).run := by
  rw [ExceptT.run_lift, ExceptT.run_lift]
  exact h.map _

section

variable {x x' : ExceptT ε (Dialogue I) α} {f f' : α → ExceptT ε (Dialogue I) β}

theorem run_bind (h : x.run.ContinuedBy n x'.run)
    (hf : ∀ a, (f a).run.ContinuedBy n (f' a).run) :
    (x >>= f).run.ContinuedBy n (x' >>= f').run := by
  rw [ExceptT.run_bind, ExceptT.run_bind]
  refine h.bind ?_
  intro r
  cases r with
  | ok a => exact hf a
  | error e => exact .done n _

/-- What does not succeed without a question leaves one less to the rest. This
is what makes the rounds of a loop count. -/
theorem run_bind_succ (h : x.run.ContinuedBy (n + 1) x'.run)
    (hx : ∀ a, x.run ≠ .done (.ok a))
    (hf : ∀ a, (f a).run.ContinuedBy n (f' a).run) :
    (x >>= f).run.ContinuedBy (n + 1) (x' >>= f').run := by
  rw [ExceptT.run_bind, ExceptT.run_bind]
  generalize x.run = d at h hx
  generalize x'.run = d' at h
  cases h with
  | done _ r =>
    cases r with
    | ok a => exact absurd rfl (hx a)
    | error e => exact .done _ _
  | ask h =>
    refine .ask fun a => (h a).bind ?_
    intro r
    cases r with
    | ok a => exact hf a
    | error e => exact .done n _

end

/-! ## What follows -/

/-- A result does not depend on the bound. -/
theorem run_eq {handle : Handler I ω} {w w' : ω} (h : d.ContinuedBy n d')
    (hrun : d.run handle w = (some a, w')) :
    d'.run handle w = (some a, w') := by
  induction h generalizing w with
  | done n b => exact hrun
  | cut d => cases hrun
  | ask _ ih =>
    rw [run] at hrun ⊢
    split at hrun
    · next answer _ _ => exact ih answer hrun
    · cases hrun

/-- Where every question is answered, nothing is cut before `n` of them. -/
theorem le_length_notes {machine : Machine I ω} {w w' : ω}
    {notes notes' : List (Exchange I)} (h : d.ContinuedBy n d')
    (hrun : d.run machine.handler.noted (w, notes) = (none, w', notes')) :
    notes.length + n ≤ notes'.length := by
  induction h generalizing w notes with
  | done n b => cases hrun
  | cut d =>
    cases hrun
    exact Nat.le_refl _
  | ask _ ih =>
    have hrest := ih _ hrun
    rw [List.length_append, List.length_singleton] at hrest
    omega

end ContinuedBy

end CardBridge.Dialogue
