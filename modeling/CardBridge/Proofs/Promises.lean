import CardBridge.Dialogue

/-!
# What a dialogue keeps to

Surroundings need not be determined: a peer may cut its stream anywhere, and
a token may be used at any time. `Surroundings` is the relation of what may
be answered; `Keeps` says of a dialogue what holds whatever is answered, at
every question on the way and of the result. It is defined by the
constructors of `Dialogue`, so it is taken apart along a program with
`keeps_bind`, and it holds of what is left of a dialogue after each answer
(`Keeps.step`), which is what an interleaving of several dialogues needs.
-/

namespace CardBridge.Dialogue

variable {I J : Interface} {α β ω ψ ε : Type}

/-- Surroundings that may answer in more than one way: what may be answered
to a question in a state, and the state afterwards. -/
abbrev Surroundings (I : Interface) (ω : Type) :=
  (q : I.Ask) → ω → I.Answer q → ω → Prop

/-- Whatever the surroundings answer from a state on, `P` holds at every
question, and with `none` in its place where the dialogue is cut; `Q` holds
of the result. -/
def Keeps (R : Surroundings I ω) (P : Option I.Ask → ω → Prop)
    (Q : α → ω → Prop) : Dialogue I α → ω → Prop
  | done a, w => Q a w
  | cut, w => P none w
  | ask q next, w =>
    P (some q) w ∧ ∀ a w', R q w a w' → (next a).Keeps R P Q w'

section

variable {R : Surroundings I ω} {P P' : Option I.Ask → ω → Prop}
  {Q Q' : α → ω → Prop} {w w' : ω}

@[simp] theorem keeps_done {a : α} :
    (done a : Dialogue I α).Keeps R P Q w ↔ Q a w := Iff.rfl

@[simp] theorem keeps_cut :
    (cut : Dialogue I α).Keeps R P Q w ↔ P none w := Iff.rfl

theorem keeps_ask {q : I.Ask} {next : I.Answer q → Dialogue I α} :
    (ask q next).Keeps R P Q w ↔
      P (some q) w ∧ ∀ a w', R q w a w' → (next a).Keeps R P Q w' := Iff.rfl

/-- Where an answer settles the next state, every answer is to be gone on
from. -/
theorem keeps_settled {enter : (q : I.Ask) → ω → I.Answer q → ω} {q : I.Ask}
    {next : I.Answer q → Dialogue I α} (hq : P (some q) w)
    (hnext : ∀ a, (next a).Keeps (fun q w a w' => w' = enter q w a) P Q
      (enter q w a)) :
    (ask q next).Keeps (fun q w a w' => w' = enter q w a) P Q w :=
  ⟨hq, fun a _ heq => heq ▸ hnext a⟩

/-- What is promised of two procedures in a row is promised of the first,
with what is promised of the second as its result. -/
theorem keeps_bind {d : Dialogue I α} {f : α → Dialogue I β}
    {Q : β → ω → Prop} :
    (d >>= f).Keeps R P Q w ↔
      d.Keeps R P (fun a w => (f a).Keeps R P Q w) w := by
  induction d generalizing w with
  | done a => rfl
  | cut => rfl
  | ask q next ih =>
    simp only [ask_bind, keeps_ask, ih]

theorem keeps_map {d : Dialogue I α} {f : α → β} {Q : β → ω → Prop} :
    (f <$> d).Keeps R P Q w ↔ d.Keeps R P (fun a w => Q (f a) w) w := by
  rw [map_eq_pure_bind, keeps_bind]
  rfl

theorem Keeps.mono {d : Dialogue I α} (h : d.Keeps R P Q w)
    (hP : ∀ q w, P q w → P' q w) (hQ : ∀ a w, Q a w → Q' a w) :
    d.Keeps R P' Q' w := by
  induction d generalizing w with
  | done a => exact hQ a w h
  | cut => exact hP none w h
  | ask q next ih =>
    obtain ⟨hp, hnext⟩ := h
    exact ⟨hP _ w hp, fun a w' hr => ih a (hnext a w' hr)⟩

theorem Keeps.imp {d : Dialogue I α} (h : d.Keeps R P Q w)
    (hQ : ∀ a w, Q a w → Q' a w) : d.Keeps R P Q' w :=
  h.mono (fun _ _ => id) hQ

/-- What is kept to at the end, whatever was on the way. -/
theorem Keeps.ends {d : Dialogue I α} (h : d.Keeps R P Q w) :
    d.Keeps R (fun _ _ => True) Q w :=
  h.mono (fun _ _ _ => trivial) fun _ _ => id

/-- What holds always is kept to. -/
theorem keeps_of_forall {d : Dialogue I α} (hP : ∀ q w, P q w)
    (hQ : ∀ a w, Q a w) : d.Keeps R P Q w := by
  induction d generalizing w with
  | done a => exact hQ a w
  | cut => exact hP none w
  | ask q next ih => exact ⟨hP _ w, fun a _ _ => ih a⟩

/-- What comes first leads to where the rest begins. -/
theorem Keeps.bind {d : Dialogue I α} {f : α → Dialogue I β}
    {Q' : β → ω → Prop} (h : d.Keeps R P Q w)
    (hnext : ∀ a w, Q a w → (f a).Keeps R P Q' w) :
    (d >>= f).Keeps R P Q' w :=
  keeps_bind.mpr (h.imp hnext)

theorem keeps_congr {d : Dialogue I α} (h : ∀ a w, Q a w ↔ Q' a w) :
    d.Keeps R P Q w ↔ d.Keeps R P Q' w :=
  ⟨fun hd => hd.imp fun a w => (h a w).mp,
    fun hd => hd.imp fun a w => (h a w).mpr⟩

/-- Two promises about one dialogue are one. -/
theorem Keeps.and {d : Dialogue I α} (h : d.Keeps R P Q w)
    (h' : d.Keeps R P' Q' w) :
    d.Keeps R (fun q w => P q w ∧ P' q w) (fun a w => Q a w ∧ Q' a w) w := by
  induction d generalizing w with
  | done a => exact ⟨h, h'⟩
  | cut => exact ⟨h, h'⟩
  | ask q next ih =>
    exact ⟨⟨h.1, h'.1⟩, fun a w' hr => ih a (h.2 a w' hr) (h'.2 a w' hr)⟩

/-- What is left of a dialogue after an answer keeps to the same. -/
theorem Keeps.step {q : I.Ask} {next : I.Answer q → Dialogue I α}
    {a : I.Answer q} (h : (ask q next).Keeps R P Q w) (hr : R q w a w') :
    (next a).Keeps R P Q w' :=
  h.2 a w' hr

/-- A dialogue carried over to another interface meets there what the
surroundings answer to its own questions. -/
theorem keeps_embed {ask' : I.Ask → J.Ask}
    {answer : (q : I.Ask) → J.Answer (ask' q) → I.Answer q}
    {R : Surroundings J ω} {P : Option J.Ask → ω → Prop}
    {d : Dialogue I α} :
    (d.embed ask' answer).Keeps R P Q w ↔
      d.Keeps (fun q w a w' => ∃ b, answer q b = a ∧ R (ask' q) w b w')
        (fun q w => P (q.map ask') w) Q w := by
  induction d generalizing w with
  | done a => rfl
  | cut => rfl
  | ask q next ih =>
    simp only [embed, keeps_ask, ih, Option.map_some]
    refine and_congr_right fun _ => ⟨?_, ?_⟩
    · intro h a w' ha
      obtain ⟨b, rfl, hr⟩ := ha
      exact h b w' hr
    · intro h b w' hr
      exact h _ w' ⟨b, rfl, hr⟩

end

/-- What a dialogue keeps to in some surroundings, it keeps to in all that
answer as those might. -/
theorem Keeps.simulate {R : Surroundings I ω} {S : Surroundings I ψ}
    {P : Option I.Ask → ω → Prop} {Q : α → ω → Prop} {V : ψ → ω → Prop}
    {d : Dialogue I α} {v : ψ} {w : ω} (h : d.Keeps R P Q w) (hV : V v w)
    (hstep : ∀ q v w a v', V v w → P (some q) w → S q v a v' →
      ∃ w', R q w a w' ∧ V v' w') :
    d.Keeps S (fun q v => ∃ w, V v w ∧ P q w) (fun a v => ∃ w, V v w ∧ Q a w)
      v := by
  induction d generalizing v w with
  | done a => exact ⟨w, hV, h⟩
  | cut => exact ⟨w, hV, h⟩
  | ask q next ih =>
    refine ⟨⟨w, hV, h.1⟩, ?_⟩
    intro a v' hs
    obtain ⟨w', hr, hV'⟩ := hstep q v w a v' hV h.1 hs
    exact ih a (h.step hr) hV'

/-- What is kept to whatever is answered is kept to where less may be. -/
theorem Keeps.narrow {R R' : Surroundings I ω}
    {P : Option I.Ask → ω → Prop} {Q : α → ω → Prop} {d : Dialogue I α}
    {w : ω} (h : d.Keeps R P Q w)
    (hR : ∀ q w a w', R' q w a w' → R q w a w') : d.Keeps R' P Q w :=
  (h.simulate (V := Eq) rfl
    fun q v _ a v' hV _ hr => ⟨v', hV ▸ hR q v a v' hr, rfl⟩).mono
    (fun _ _ ⟨_, heq, hP⟩ => heq ▸ hP) fun _ _ ⟨_, heq, hQ⟩ => heq ▸ hQ

/-- What every answer preserves, in view of what is kept to, is kept to as
well. -/
theorem Keeps.entering {R : Surroundings I ω} {P : Option I.Ask → ω → Prop}
    {Q : α → ω → Prop} {J : ω → Prop} {d : Dialogue I α} {w : ω}
    (h : d.Keeps R P Q w) (hJ : J w)
    (hstep : ∀ q w a w', P (some q) w → J w → R q w a w' → J w') :
    d.Keeps R (fun q w => P q w ∧ J w) (fun a w => Q a w ∧ J w) w := by
  induction d generalizing w with
  | done a => exact ⟨h, hJ⟩
  | cut => exact ⟨h, hJ⟩
  | ask q next ih =>
    refine ⟨⟨h.1, hJ⟩, ?_⟩
    intro a w' hr
    exact ih a (h.step hr) (hstep q w a w' h.1 hJ hr)

/-- A dialogue whose questions can all be answered in a way that keeps `J`
can be brought to where it is done or cut without giving `J` up. -/
theorem Keeps.foresee {R : Surroundings I ω} {P : Option I.Ask → ω → Prop}
    {Q : α → ω → Prop} {J E : ω → Prop} {d : Dialogue I α} {w : ω}
    (h : d.Keeps R P Q w) (hJ : J w)
    (hstep : ∀ q w, P (some q) w → J w → ∃ a w', R q w a w' ∧ J w')
    (hdone : ∀ a w, Q a w → E w) (hcut : ∀ w, P none w → E w) :
    ∃ w', J w' ∧ E w' := by
  induction d generalizing w with
  | done a => exact ⟨w, hJ, hdone a w h⟩
  | cut => exact ⟨w, hJ, hcut w h⟩
  | ask q next ih =>
    obtain ⟨a, w', hr, hJ'⟩ := hstep q w h.1 hJ
    exact ih a (h.step hr) hJ'

/-! ## Procedures that may stop early -/

section

variable {R : Surroundings I ω} {P : Option I.Ask → ω → Prop} {w : ω}

theorem keeps_run_bind {x : ExceptT ε (Dialogue I) α}
    {f : α → ExceptT ε (Dialogue I) β} {Q : Except ε β → ω → Prop} :
    (x >>= f).run.Keeps R P Q w ↔
      x.run.Keeps R P (fun r w =>
        match r with
        | .ok a => (f a).run.Keeps R P Q w
        | .error e => Q (.error e) w) w := by
  rw [ExceptT.run_bind, keeps_bind]
  -- only the way the two cases are written differs
  refine keeps_congr ?_
  intro r w
  cases r with
  | ok a => rfl
  | error e => rfl

theorem Keeps.run_bind {x : ExceptT ε (Dialogue I) α}
    {f : α → ExceptT ε (Dialogue I) β} {Q : Except ε α → ω → Prop}
    {Q' : Except ε β → ω → Prop} (h : x.run.Keeps R P Q w)
    (hnext : ∀ r w, Q r w →
      match r with
      | .ok a => (f a).run.Keeps R P Q' w
      | .error e => Q' (.error e) w) :
    (x >>= f).run.Keeps R P Q' w :=
  keeps_run_bind.mpr (h.imp hnext)

theorem keeps_run_lift {d : Dialogue I α} {Q : Except ε α → ω → Prop} :
    (ExceptT.lift d : ExceptT ε (Dialogue I) α).run.Keeps R P Q w ↔
      d.Keeps R P (fun a w => Q (.ok a) w) w := by
  rw [ExceptT.run_lift, keeps_map]

theorem keeps_run_liftM {d : Dialogue I α} {Q : Except ε α → ω → Prop} :
    (liftM d : ExceptT ε (Dialogue I) α).run.Keeps R P Q w ↔
      d.Keeps R P (fun a w => Q (.ok a) w) w :=
  keeps_run_lift

end

/-- What comes first either leads to where the rest begins, or is all. -/
theorem run_except_bind (handle : Handler I ω) (x : ExceptT ε (Dialogue I) α)
    (f : α → ExceptT ε (Dialogue I) β) (w : ω) :
    (x >>= f).run.run handle w =
      match x.run.run handle w with
      | (some (.ok a), w') => (f a).run.run handle w'
      | (some (.error e), w') => (some (.error e), w')
      | (none, w') => (none, w') := by
  rw [ExceptT.run_bind, Dialogue.run_bind]
  rcases x.run.run handle w with ⟨_ | _ | _, w'⟩ <;> rfl

/-! ## What is asked at all -/

/-- Every question of a dialogue is one of `S`, whatever is answered. -/
def Asks (S : I.Ask → Prop) : Dialogue I α → Prop
  | done _ => True
  | cut => True
  | ask q next => S q ∧ ∀ a, (next a).Asks S

section

variable {S : I.Ask → Prop}

@[simp] theorem asks_done {a : α} : (done a : Dialogue I α).Asks S := trivial

theorem asks_of_forall {d : Dialogue I α} (h : ∀ q, S q) : d.Asks S := by
  induction d with
  | done a => trivial
  | cut => trivial
  | ask q next ih => exact ⟨h q, ih⟩

theorem Asks.mono {S' : I.Ask → Prop} {d : Dialogue I α} (h : d.Asks S)
    (hS : ∀ q, S q → S' q) : d.Asks S' := by
  induction d with
  | done a => trivial
  | cut => trivial
  | ask q next ih => exact ⟨hS q h.1, fun a => ih a (h.2 a)⟩

theorem Asks.bind {d : Dialogue I α} {f : α → Dialogue I β} (h : d.Asks S)
    (hf : ∀ a, (f a).Asks S) : (d >>= f).Asks S := by
  induction d with
  | done a => exact hf a
  | cut => trivial
  | ask q next ih => exact ⟨h.1, fun a => ih a (h.2 a)⟩

theorem Asks.embed {ask' : I.Ask → J.Ask}
    {answer : (q : I.Ask) → J.Answer (ask' q) → I.Answer q}
    {S : J.Ask → Prop} {d : Dialogue I α} (h : d.Asks fun q => S (ask' q)) :
    (d.embed ask' answer).Asks S := by
  induction d with
  | done a => trivial
  | cut => trivial
  | ask q next ih => exact ⟨h.1, fun a => ih _ (h.2 _)⟩

theorem Asks.run_bind {x : ExceptT ε (Dialogue I) α}
    {f : α → ExceptT ε (Dialogue I) β} (h : x.run.Asks S)
    (hf : ∀ a, (f a).run.Asks S) : (x >>= f).run.Asks S := by
  rw [ExceptT.run_bind]
  refine h.bind ?_
  intro r
  rcases r with e | a
  · trivial
  · exact hf a

theorem Asks.run_lift {d : Dialogue I α} (h : d.Asks S) :
    (ExceptT.lift d : ExceptT ε (Dialogue I) α).run.Asks S := by
  rw [ExceptT.run_lift, map_eq_pure_bind]
  exact h.bind fun _ => trivial

/-- What no question of a dialogue puts an end to holds throughout. -/
theorem Asks.keeps {R : Surroundings I ω} {P : Option I.Ask → ω → Prop}
    {J : ω → Prop} {d : Dialogue I α} {w : ω} (h : d.Asks S)
    (hP : ∀ q w, S q → J w → P (some q) w) (hcut : ∀ w, J w → P none w)
    (hstep : ∀ q w a w', S q → J w → R q w a w' → J w') (hJ : J w) :
    d.Keeps R P (fun _ => J) w := by
  induction d generalizing w with
  | done a => exact hJ
  | cut => exact hcut w hJ
  | ask q next ih =>
    refine ⟨hP q w h.1 hJ, ?_⟩
    intro a w' hr
    exact ih a (h.2 a) (hstep q w a w' h.1 hJ hr)

end

/-! ## What comes out at all -/

/-- Every result of a dialogue is one of `Q`, whatever is answered. -/
def Yields (Q : α → Prop) : Dialogue I α → Prop
  | done a => Q a
  | cut => True
  | ask _ next => ∀ a, (next a).Yields Q

section

variable {Q Q' : α → Prop}

theorem yields_of_forall {d : Dialogue I α} (h : ∀ a, Q a) : d.Yields Q := by
  induction d with
  | done a => exact h a
  | cut => trivial
  | ask q next ih => exact ih

theorem Yields.imp {d : Dialogue I α} (h : d.Yields Q)
    (hQ : ∀ a, Q a → Q' a) : d.Yields Q' := by
  induction d with
  | done a => exact hQ a h
  | cut => trivial
  | ask q next ih => exact fun a => ih a (h a)

theorem Yields.bind {d : Dialogue I α} {f : α → Dialogue I β} {Q : β → Prop}
    {Q' : α → Prop} (h : d.Yields Q') (hf : ∀ a, Q' a → (f a).Yields Q) :
    (d >>= f).Yields Q := by
  induction d with
  | done a => exact hf a h
  | cut => trivial
  | ask q next ih => exact fun a => ih a (h a)

theorem Yields.embed {ask' : I.Ask → J.Ask}
    {answer : (q : I.Ask) → J.Answer (ask' q) → I.Answer q}
    {d : Dialogue I α} (h : d.Yields Q) :
    (d.embed ask' answer).Yields Q := by
  induction d with
  | done a => exact h
  | cut => trivial
  | ask q next ih => exact fun a => ih _ (h _)

theorem Yields.run_bind {x : ExceptT ε (Dialogue I) α}
    {f : α → ExceptT ε (Dialogue I) β} {Q : Except ε β → Prop}
    {Q' : Except ε α → Prop} (h : x.run.Yields Q')
    (hf : ∀ r, Q' r → match r with
      | .ok a => (f a).run.Yields Q
      | .error e => Q (.error e)) :
    (x >>= f).run.Yields Q := by
  rw [ExceptT.run_bind]
  refine h.bind ?_
  intro r hr
  cases r with
  | ok a => exact hf _ hr
  | error e => exact hf _ hr

theorem Yields.run_lift {d : Dialogue I α} {Q : Except ε α → Prop}
    (h : d.Yields fun a => Q (.ok a)) :
    (ExceptT.lift d : ExceptT ε (Dialogue I) α).run.Yields Q := by
  rw [ExceptT.run_lift, map_eq_pure_bind]
  exact h.bind fun _ ha => ha

/-- What comes out at all comes out in view of what is kept to. -/
theorem Keeps.yielding {R : Surroundings I ω} {P : Option I.Ask → ω → Prop}
    {d : Dialogue I α} {Q' : α → ω → Prop} {w : ω} (h : d.Keeps R P Q' w)
    (hyields : d.Yields Q) : d.Keeps R P (fun a w => Q' a w ∧ Q a) w := by
  induction d generalizing w with
  | done a => exact ⟨h, hyields⟩
  | cut => exact h
  | ask q next ih => exact ⟨h.1, fun a w' hr => ih a (h.2 a w' hr) (hyields a)⟩

end

/-! ## Surroundings that are determined -/

/-- What surroundings that answer every question answer. -/
def Machine.surroundings (machine : Machine I ω) : Surroundings I ω :=
  fun q w a w' => machine q w = (a, w')

/-- A dialogue that comes to its end keeps to its result. -/
theorem keeps_of_run {machine : Machine I ω} {d : Dialogue I α} {a : α}
    {w w' : ω} (h : d.run machine.handler w = (some a, w')) :
    d.Keeps machine.surroundings (fun q _ => q ≠ none)
      (fun b v => b = a ∧ v = w') w := by
  induction d generalizing w with
  | done b =>
    simp only [run_done, Prod.mk.injEq, Option.some.injEq] at h
    exact h
  | cut => simp at h
  | ask q next ih =>
    refine ⟨nofun, ?_⟩
    -- the machine leaves one answer, and the run went on with that one
    intro b v hb
    apply ih b
    rw [Machine.surroundings] at hb
    simpa only [run, Machine.handler, hb] using h

/-- What surroundings answer that may leave a question open. -/
def Handler.surroundings (handle : Handler I ω) : Surroundings I ω :=
  fun q w a w' => handle q w = (some a, w')

/-- A dialogue that comes to its end comes to what it keeps to. -/
theorem Keeps.result {handle : Handler I ω}
    {P : Option I.Ask → ω → Prop} {Q : α → ω → Prop} {d : Dialogue I α}
    {a : α} {w w' : ω} (h : d.Keeps handle.surroundings P Q w)
    (hrun : d.run handle w = (some a, w')) : Q a w' := by
  induction d generalizing w with
  | done b =>
    cases hrun
    exact h
  | cut => cases hrun
  | ask q next ih =>
    rw [run] at hrun
    split at hrun
    · rename_i answer v hanswer
      exact ih answer (h.2 answer v hanswer) hrun
    · cases hrun

/-- Every exchange is put behind those that were noted before. -/
def noting : Surroundings I (List (Exchange I)) :=
  fun q notes a notes' => notes' = notes ++ [⟨q, a⟩]

/-- What was noted before stays in front. -/
theorem keeps_extending (d : Dialogue I α) (notes : List (Exchange I)) :
    d.Keeps noting (fun _ notes' => notes <+: notes')
      (fun _ notes' => notes <+: notes') notes := by
  have hasks : d.Asks fun _ => True := asks_of_forall fun _ => trivial
  refine hasks.keeps (fun _ _ _ h => h) (fun _ h => h) ?_ List.prefix_rfl
  rintro q notes' a _ - h rfl
  exact h.trans (List.prefix_append ..)

/-- The same of surroundings whose every answer is as `C` says. -/
def heeding (C : Exchange I → Prop) : Surroundings I (List (Exchange I)) :=
  fun q notes a notes' => C ⟨q, a⟩ ∧ notes' = notes ++ [⟨q, a⟩]

/-- What a dialogue keeps to whatever is answered, it keeps to if it is
answered as `C` says. -/
theorem Keeps.heed {C : Exchange I → Prop}
    {P : Option I.Ask → List (Exchange I) → Prop}
    {Q : α → List (Exchange I) → Prop} {d : Dialogue I α}
    {notes : List (Exchange I)} (h : d.Keeps noting P Q notes) :
    d.Keeps (heeding C) P Q notes :=
  h.narrow fun _ _ _ _ hr => hr.2

/-- What a dialogue keeps to in view of its notes holds of the notes that a
machine takes whose answers are as `C` says: of the part in front of each
exchange, and of all of them. -/
theorem Keeps.run_heeding {C : Exchange I → Prop}
    {P : Option I.Ask → List (Exchange I) → Prop}
    {Q : α → List (Exchange I) → Prop} {d : Dialogue I α}
    {notes : List (Exchange I)} (h : d.Keeps (heeding C) P Q notes)
    {machine : Machine I ω} (hmachine : ∀ q w, C ⟨q, (machine q w).1⟩)
    (w : ω) :
    ∃ result w' said, d.run machine.handler.noted (w, notes) =
        (result, w', notes ++ said) ∧
      (∀ earlier exchange later, said = earlier ++ exchange :: later →
        P (some exchange.question) (notes ++ earlier)) ∧
      match result with
      | some a => Q a (notes ++ said)
      | none => P none (notes ++ said) := by
  induction d generalizing notes w with
  | done a => exact ⟨some a, w, [], by simp, by simp, by simpa using h⟩
  | cut => exact ⟨none, w, [], by simp, by simp, by simpa using h⟩
  | ask q next ih =>
    obtain ⟨result, w', said, hrun, hparts, hend⟩ :=
      ih (machine q w).1 (h.2 _ _ ⟨hmachine q w, rfl⟩) (machine q w).2
    rw [List.append_assoc, List.singleton_append] at hrun hend
    refine ⟨result, w', _, hrun, ?_, hend⟩
    intro earlier exchange later hsaid
    cases earlier with
    | nil =>
      obtain ⟨rfl, -⟩ := List.cons.inj hsaid
      rw [List.append_nil]
      exact h.1
    | cons first earlier =>
      obtain ⟨rfl, hrest⟩ := List.cons.inj hsaid
      simpa using hparts earlier exchange later hrest

/-- The same where nothing is said of the answers. -/
theorem Keeps.run_noted {P : Option I.Ask → List (Exchange I) → Prop}
    {Q : α → List (Exchange I) → Prop} {d : Dialogue I α}
    {notes : List (Exchange I)} (h : d.Keeps noting P Q notes)
    (machine : Machine I ω) (w : ω) :
    ∃ result w' said, d.run machine.handler.noted (w, notes) =
        (result, w', notes ++ said) ∧
      (∀ earlier exchange later, said = earlier ++ exchange :: later →
        P (some exchange.question) (notes ++ earlier)) ∧
      match result with
      | some a => Q a (notes ++ said)
      | none => P none (notes ++ said) := by
  have hheeding : d.Keeps (heeding fun _ => True) P Q notes := h.heed
  exact hheeding.run_heeding (fun _ _ => trivial) w

/-- A dialogue that is never cut comes to its end in surroundings that
always answer, and that answer in one of the ways that may be. -/
theorem Keeps.run_handler {R : Surroundings I ω}
    {P : Option I.Ask → ω → Prop} {Q : α → ω → Prop}
    {handle : Handler I ψ} {V : ψ → ω → Prop} {d : Dialogue I α}
    {v : ψ} {w : ω} (h : d.Keeps R P Q w) (hV : V v w)
    (hcut : ∀ w, ¬ P none w)
    (hstep : ∀ q v w, V v w → P (some q) w →
      ∃ a v' w', handle q v = (some a, v') ∧ R q w a w' ∧ V v' w') :
    ∃ a v' w', d.run handle v = (some a, v') ∧ Q a w' ∧ V v' w' := by
  induction d generalizing v w with
  | done a => exact ⟨a, v, w, rfl, h, hV⟩
  | cut => exact absurd h (hcut w)
  | ask q next ih =>
    obtain ⟨a, v', w', ha, hr, hV'⟩ := hstep q v w hV h.1
    obtain ⟨b, v'', w'', hb, hQ, hV''⟩ := ih a (h.step hr) hV'
    exact ⟨b, v'', w'', by simp only [run, ha, hb], hQ, hV''⟩

/-! ## What is left of a dialogue -/

/-- Whatever the surroundings answer from a state on, `P` holds of what is
left of the dialogue: at first, and after every answer. -/
def Throughout (R : Surroundings I ω) (P : Dialogue I α → ω → Prop) :
    Dialogue I α → ω → Prop
  | done a, w => P (done a) w
  | cut, w => P cut w
  | ask q next, w =>
    P (ask q next) w ∧ ∀ a w', R q w a w' → (next a).Throughout R P w'

section

variable {R : Surroundings I ω} {P : Dialogue I α → ω → Prop}
  {d : Dialogue I α} {w : ω}

/-- What holds at first and is preserved by every answer. -/
theorem throughout_of_step (h : P d w)
    (hstep : ∀ q next w a w', P (ask q next) w → R q w a w' → P (next a) w') :
    d.Throughout R P w := by
  induction d generalizing w with
  | done a => exact h
  | cut => exact h
  | ask q next ih =>
    refine ⟨h, ?_⟩
    intro a w' hr
    exact ih a (hstep q next w a w' h hr)

/-- A dialogue that is never cut comes to its end in surroundings that always
answer. -/
theorem Throughout.run_ends {handle : Handler I ω}
    (h : d.Throughout handle.surroundings P w) (hcut : ∀ w, ¬ P cut w)
    (hanswer : ∀ q w, ∃ a w', handle q w = (some a, w')) :
    ∃ a w', d.run handle w = (some a, w') ∧ P (done a) w' := by
  induction d generalizing w with
  | done a => exact ⟨a, w, rfl, h⟩
  | cut => exact absurd h (hcut w)
  | ask q next ih =>
    obtain ⟨answer, v, hanswers⟩ := hanswer q w
    obtain ⟨a, w', hrun, hdone⟩ := ih answer (h.2 answer v hanswers)
    exact ⟨a, w', by simp only [run, hanswers, hrun], hdone⟩

end

end CardBridge.Dialogue
