import CardBridge.Card.Basic
import CardBridge.Proofs.Promises

/-!
# Letting go of a card

Operations on a card, one after the other, seen from what lies underneath
it: a simulator, a tag or a connection. Every question to it is noted, also
one that is never answered. A card that minds its state (`Minds`) lets go of
what lies underneath once, when it is ejected first, and leaves it alone
afterwards (`Minds.letsGoOnce`).
-/

namespace CardBridge

namespace Dialogue

variable {I : Interface} {α ω : Type}

/-! ## Questions with and without an answer -/

/-- A question that was asked, with its answer unless none ever came. -/
structure Posed (I : Interface) where
  question : I.Ask
  answer : Option (I.Answer question)

/-- The same surroundings, which also note down every question. -/
def Handler.posed (handle : Handler I ω) : Handler I (ω × List (Posed I)) :=
  fun q (w, notes) =>
    let (answer, w') := handle q w
    (answer, w', notes ++ [⟨q, answer⟩])

/-- The questions that were answered. -/
def answered (posed : List (Posed I)) : List (Exchange I) :=
  posed.filterMap fun p => p.answer.map fun a => ⟨p.question, a⟩

/-- What a dialogue keeps to in view of what was answered holds of the
questions that are noted. Without a result it was cut, or the last question
was left open. -/
theorem Keeps.run_posed {P : Option I.Ask → List (Exchange I) → Prop}
    {Q : α → List (Exchange I) → Prop} {d : Dialogue I α}
    {said : List (Exchange I)} (h : d.Keeps noting P Q said)
    (handle : Handler I ω) (w : ω) (before : List (Posed I)) :
    ∃ result w' posed,
      d.run handle.posed (w, before) = (result, w', before ++ posed) ∧
      (∀ earlier p later, posed = earlier ++ p :: later →
        P (some p.question) (said ++ answered earlier)) ∧
      match result with
      | some r => Q r (said ++ answered posed)
      | none => P none (said ++ answered posed) ∨
          ∃ p ∈ posed, p.answer = none := by
  induction d generalizing said w before with
  | done a =>
    exact ⟨some a, w, [], by simp, by simp, by simpa [answered] using h⟩
  | cut =>
    exact ⟨none, w, [], by simp, by simp, .inl (by simpa [answered] using h)⟩
  | ask q next ih =>
    rcases hanswer : handle q w with ⟨_ | a, w₁⟩
    · refine ⟨none, w₁, [⟨q, none⟩], ?_, ?_,
        .inr ⟨_, List.mem_singleton_self _, rfl⟩⟩
      · simp [run, Handler.posed, hanswer]
      · intro earlier p later hposed
        cases earlier with
        | nil =>
          obtain ⟨rfl, -⟩ := List.cons.inj hposed
          simpa [answered] using h.1
        | cons first earlier => simp at hposed
    · obtain ⟨result, w', posed, hrun, hparts, hend⟩ :=
        ih a (h.2 a _ rfl) w₁ (before ++ [⟨q, some a⟩])
      have hanswered (later : List (Posed I)) : said ++ answered
          (⟨q, some a⟩ :: later) = (said ++ [⟨q, a⟩]) ++ answered later := by
        simp [answered]
      rw [List.append_assoc] at hrun
      refine ⟨result, w', ⟨q, some a⟩ :: posed, ?_, ?_, ?_⟩
      · simpa [run, Handler.posed, hanswer] using hrun
      · intro earlier p later hposed
        cases earlier with
        | nil =>
          obtain ⟨rfl, -⟩ := List.cons.inj hposed
          simpa [answered] using h.1
        | cons first earlier =>
          obtain ⟨rfl, hrest⟩ := List.cons.inj hposed
          rw [hanswered]
          exact hparts earlier p later hrest
      · rw [hanswered]
        cases result with
        | some r => exact hend
        | none =>
          obtain hcut | ⟨p, hp, hopen⟩ := hend
          · exact .inl hcut
          · exact .inr ⟨p, List.mem_cons_of_mem _ hp, hopen⟩

/-- The first question is noted first. -/
theorem run_posed_ask (handle : Handler I ω) (q : I.Ask)
    (next : I.Answer q → Dialogue I α) (w : ω) :
    ∃ result w' answer later, (ask q next).run handle.posed (w, []) =
      (result, w', ⟨q, answer⟩ :: later) := by
  rcases hanswer : handle q w with ⟨_ | a, w₁⟩
  · exact ⟨none, w₁, none, [], by simp [run, Handler.posed, hanswer]⟩
  · have hnext : (next a).Keeps noting (fun _ _ => True)
        (fun _ _ => True) [] :=
      keeps_of_forall (fun _ _ => trivial) fun _ _ => trivial
    obtain ⟨result, w', later, hrun, -⟩ :=
      hnext.run_posed handle w₁ [⟨q, some a⟩]
    exact ⟨result, w', some a, later,
      by simpa [run, Handler.posed, hanswer] using hrun⟩

/-- One question, and what is made of its answer. -/
theorem run_posed_once (handle : Handler I ω) (q : I.Ask)
    (f : I.Answer q → α) (w : ω) :
    ∃ answer w', (ask q fun a => done (f a)).run handle.posed (w, []) =
      (answer.map f, w', [⟨q, answer⟩]) := by
  rcases hanswer : handle q w with ⟨_ | a, w'⟩
  · exact ⟨none, w', by simp [run, Handler.posed, hanswer]⟩
  · exact ⟨some a, w', by simp [run, Handler.posed, hanswer]⟩

end Dialogue

open Dialogue

namespace Card

variable {I : Interface} {σ ω : Type}

/-! ## Operations in a row -/

/-- Whether an operation succeeded, or why not. -/
def forget (op : Operation) (answer : Answer op) : Except CardError Unit :=
  answer.map fun _ => ()

/-- An operation, what was asked of what lies underneath, and how it came
out, unless it never did. -/
structure Act (I : Interface) where
  op : Operation
  posed : List (Posed I)
  came : Option (Except CardError Unit)

/-- Operations one after the other, up to one that never comes to its
end. -/
def acts (layer : Layer I Card σ) (handle : Handler I ω) :
    List Operation → σ → ω → List (Act I)
  | [], _, _ => []
  | op :: ops, s, w =>
    match (layer op s).run handle.posed (w, []) with
    | (some (answer, s'), w', posed) =>
      ⟨op, posed, some (forget op answer)⟩ :: acts layer handle ops s' w'
    | (none, _, posed) => [⟨op, posed, none⟩]

/-- The card was ejected. -/
def Ejected (acts : List (Act I)) : Prop :=
  ∃ act ∈ acts, act.op = .eject

/-- How an operation comes out after that. -/
def afterwards : Operation → Except CardError Unit
  | .powerOff => .ok ()
  | .eject => .ok ()
  | _ => .error .ejected

/-- One question was asked, and its answer decided how the operation came
out. -/
def Once (q : I.Ask) (meaning : I.Answer q → Except CardError Unit)
    (posed : List (Posed I)) (came : Option (Except CardError Unit)) : Prop :=
  ∃ answer, posed = [⟨q, answer⟩] ∧ came = answer.map meaning

@[simp] theorem forget_eq_error {op : Operation} {answer : Answer op}
    {e : CardError} : forget op answer = .error e ↔ answer = .error e := by
  cases answer <;> simp [forget, Except.map]

theorem forget_eject (answer : Answer .eject) :
    forget .eject answer = answer := by
  cases answer <;> rfl

theorem once_of_run {handle : Handler I ω} {q : I.Ask} {op : Operation}
    {meaning : I.Answer q → Except CardError Unit}
    {f : I.Answer q → Answer op × σ} {w w' : ω}
    {result : Option (Answer op × σ)} {posed : List (Posed I)}
    (hrun : (ask q fun a => done (f a)).run handle.posed (w, []) =
      (result, w', posed))
    (hf : ∀ a, forget op (f a).1 = meaning a) :
    Once q meaning posed (result.map fun r => forget op r.1) ∧
      ∀ r, result = some r → ∃ a, f a = r := by
  obtain ⟨answer, w₁, honce⟩ := run_posed_once handle q f w
  rw [honce] at hrun
  cases hrun
  cases answer with
  | none => exact ⟨⟨none, rfl, rfl⟩, nofun⟩
  | some a =>
    refine ⟨⟨some a, rfl, congrArg some (hf a)⟩, ?_⟩
    rintro r ⟨⟩
    exact ⟨a, rfl⟩

/-- How a kind of card uses what lies underneath. -/
structure Manner (I : Interface) where
  /-- To let go of it. -/
  release : I.Ask
  isRelease : I.Ask → Bool
  isRelease_release : isRelease release = true
  /-- What it means how that went. -/
  meaning : I.Answer release → Except CardError Unit
  /-- An exchange in which it says by itself that the card was ejected. -/
  disowns : Exchange I → Prop
  /-- What is asked to give power, to take it away and to reset. -/
  powers : Operation → List (Posed I) → Option (Except CardError Unit) → Prop

variable {m : Manner I} {earlier : List (Act I)} {act : Act I}

/-- What an operation does on a card that was not ejected. -/
structure Timely (m : Manner I) (act : Act I) : Prop where
  release : act.op = .eject → Once m.release m.meaning act.posed act.came
  spared : act.op ≠ .eject → ∀ p ∈ act.posed, m.isRelease p.question = false
  owned : act.op ≠ .eject → act.came = some (.error .ejected) →
    ∃ e ∈ answered act.posed, m.disowns e
  power : m.powers act.op act.posed act.came

/-- What an operation does after some others. -/
structure Careful (m : Manner I) (earlier : List (Act I)) (act : Act I) :
    Prop where
  late : Ejected earlier →
    act.posed = [] ∧ act.came = some (afterwards act.op)
  timely : ¬ Ejected earlier → Timely m act

theorem Careful.of_timely (hearlier : ¬ Ejected earlier)
    (h : Timely m act) : Careful m earlier act :=
  ⟨fun hejected => absurd hejected hearlier, fun _ => h⟩

/-- How often something was asked to let go. -/
def releases (m : Manner I) (acts : List (Act I)) : Nat :=
  (acts.flatMap (·.posed)).countP (m.isRelease ·.question)

/-- The operations are made in order, each of them does what it may, and
what lies underneath is let go of at most once. -/
structure LetsGoOnce (m : Manner I) (ops : List Operation)
    (acts : List (Act I)) : Prop where
  made : acts.map (·.op) <+: ops
  all : (∀ act ∈ acts, act.came ≠ none) → acts.map (·.op) = ops
  careful : ∀ earlier act later, acts = earlier ++ act :: later →
    Careful m earlier act
  once : releases m acts ≤ 1

theorem ejected_concat :
    Ejected (earlier ++ [act]) ↔ Ejected earlier ∨ act.op = .eject := by
  simp [Ejected, or_and_right, exists_or]

theorem Careful.releases_late (h : Careful m earlier act)
    (hejected : Ejected earlier) : releases m [act] = 0 := by
  simp [releases, (h.late hejected).1]

theorem Careful.releases_spared (h : Careful m earlier act)
    (hejected : ¬ Ejected earlier) (hop : act.op ≠ .eject) :
    releases m [act] = 0 := by
  simpa [releases] using (h.timely hejected).spared hop

theorem Careful.releases_le (h : Careful m earlier act) :
    releases m [act] ≤ 1 := by
  by_cases hejected : Ejected earlier
  · simp [h.releases_late hejected]
  · by_cases hop : act.op = .eject
    · obtain ⟨answer, hposed, -⟩ := (h.timely hejected).release hop
      simp [releases, hposed, m.isRelease_release]
    · simp [h.releases_spared hejected hop]

theorem releases_cons (act : Act I) (later : List (Act I)) :
    releases m (act :: later) = releases m [act] + releases m later := by
  simp [releases]

/-- Careful operations let go once, and not at all if that was done
before. -/
theorem releases_of_careful {later : List (Act I)}
    (h : ∀ between act rest, later = between ++ act :: rest →
      Careful m (earlier ++ between) act) :
    releases m later ≤ 1 ∧ (Ejected earlier → releases m later = 0) := by
  induction later generalizing earlier with
  | nil => exact ⟨Nat.zero_le 1, fun _ => rfl⟩
  | cons act later ih =>
    have hact : Careful m earlier act := by
      simpa using h [] act later rfl
    have hlater := @ih (earlier ++ [act]) (fun between act' rest heq => by
      simpa using h (act :: between) act' rest (by rw [heq]; rfl))
    obtain ⟨hone, hnone⟩ := hlater
    rw [releases_cons]
    by_cases hejected : Ejected earlier
    · have hzero := hact.releases_late hejected
      have hrest := hnone (ejected_concat.mpr (.inl hejected))
      exact ⟨by omega, fun _ => by omega⟩
    · refine ⟨?_, fun hearlier => absurd hearlier hejected⟩
      by_cases hop : act.op = .eject
      · have hrest := hnone (ejected_concat.mpr (.inr hop))
        have hle := hact.releases_le
        omega
      · have hzero := hact.releases_spared hejected hop
        omega

/-! ## Cards that mind their state -/

/-- Nothing is asked to let go. -/
def Manner.Spares (m : Manner I) (q : Option I.Ask)
    (_ : List (Exchange I)) : Prop :=
  ∀ asked, q = some asked → m.isRelease asked = false

/-- The card is not ejected, and says so only if that was said to it. -/
def Manner.Stays (m : Manner I) (ejected : σ → Bool) (op : Operation)
    (r : Answer op × σ) (said : List (Exchange I)) : Prop :=
  ejected r.2 = false ∧
    (r.1 = .error .ejected → ∃ e ∈ said, m.disowns e)

/-- An operation that asks one question. -/
theorem Manner.keeps_once {ejected : σ → Bool} {op : Operation} {q : I.Ask}
    {f : I.Answer q → Answer op × σ} (hq : m.isRelease q = false)
    (hstate : ∀ a, ejected (f a).2 = false)
    (howned : ∀ a, (f a).1 = .error .ejected → m.disowns ⟨q, a⟩) :
    (ask q fun a => done (f a)).Keeps noting m.Spares (m.Stays ejected op)
      [] := by
  constructor
  · rintro asked ⟨⟩
    exact hq
  · rintro a notes rfl
    exact ⟨hstate a, fun heq => ⟨⟨q, a⟩, by simp, howned a heq⟩⟩

/-- A kind of card that minds whether it was ejected. -/
structure Minds (layer : Layer I Card σ) (ejected : σ → Bool)
    (m : Manner I) : Prop where
  late : ∀ op s, ejected s = true → ∃ answer : Answer op,
    layer op s = .done (answer, s) ∧ forget op answer = afterwards op
  release : ∀ s, ejected s = false → ∃ s', ejected s' = true ∧
    layer .eject s = .ask m.release fun a => .done (m.meaning a, s')
  timely : ∀ op s, op ≠ .eject → ejected s = false →
    (layer op s).Keeps noting m.Spares (m.Stays ejected op) []
  power : ∀ op s, ejected s = false → ∀ (ω : Type) (handle : Handler I ω)
    (w : ω) result w' posed,
      (layer op s).run handle.posed (w, []) = (result, w', posed) →
        m.powers op posed (result.map fun r => forget op r.1)

section

variable {layer : Layer I Card σ} {ejected : σ → Bool}
  {handle : Handler I ω} {op : Operation} {ops : List Operation} {s s' : σ}
  {w w' : ω} {posed : List (Posed I)}

/-- Nothing is asked once the card was ejected. -/
theorem Minds.act_late (h : Minds layer ejected m) (hs : ejected s = true)
    {result : Option (Answer op × σ)}
    (hrun : (layer op s).run handle.posed (w, []) = (result, w', posed)) :
    ∃ answer, result = some (answer, s) ∧ posed = [] ∧
      forget op answer = afterwards op := by
  obtain ⟨answer, hlayer, hanswer⟩ := h.late op s hs
  rw [hlayer] at hrun
  cases hrun
  exact ⟨answer, rfl, rfl, hanswer⟩

/-- Ejecting the card lets go, and counts however that goes. -/
theorem Minds.act_eject (h : Minds layer ejected m) (hs : ejected s = false)
    {result : Option (Answer .eject × σ)}
    (hrun : (layer .eject s).run handle.posed (w, []) = (result, w', posed)) :
    Timely m ⟨.eject, posed, result.map fun r => forget .eject r.1⟩ ∧
      ∀ r, result = some r → ejected r.2 = true := by
  have hpower := h.power .eject s hs ω handle w result w' posed hrun
  obtain ⟨s₁, hs₁, hlayer⟩ := h.release s hs
  rw [hlayer] at hrun
  obtain ⟨honce, hnext⟩ :=
    once_of_run hrun fun a => forget_eject (m.meaning a)
  refine ⟨⟨fun _ => honce, absurd rfl, absurd rfl, hpower⟩, ?_⟩
  intro r hr
  obtain ⟨a, rfl⟩ := hnext r hr
  exact hs₁

/-- Any other operation does not let go. -/
theorem Minds.act_timely (h : Minds layer ejected m) (hs : ejected s = false)
    (hop : op ≠ .eject) {result : Option (Answer op × σ)}
    (hrun : (layer op s).run handle.posed (w, []) = (result, w', posed)) :
    Timely m ⟨op, posed, result.map fun r => forget op r.1⟩ ∧
      ∀ r, result = some r → ejected r.2 = false := by
  have hpower := h.power op s hs ω handle w result w' posed hrun
  obtain ⟨result₁, w₁, posed₁, hrun₁, hparts, hend⟩ :=
    (h.timely op s hop hs).run_posed handle w []
  rw [hrun, List.nil_append] at hrun₁
  cases hrun₁
  refine ⟨⟨fun heq => absurd heq hop, fun _ p hp => ?_, fun _ hcame => ?_,
    hpower⟩, ?_⟩
  · obtain ⟨before, after, rfl⟩ := List.append_of_mem hp
    exact hparts before p after rfl _ rfl
  · obtain ⟨r, rfl, hr⟩ := Option.map_eq_some_iff.mp hcame
    exact hend.2 (forget_eq_error.mp hr)
  · rintro r rfl
    exact hend.1

/-- One operation is careful, and leaves the card in the state that it
should be in. -/
theorem Minds.careful (h : Minds layer ejected m)
    (hstate : ejected s = true ↔ Ejected earlier)
    {result : Option (Answer op × σ)}
    (hrun : (layer op s).run handle.posed (w, []) = (result, w', posed)) :
    Careful m earlier ⟨op, posed, result.map fun r => forget op r.1⟩ ∧
      ∀ r, result = some r →
        (ejected r.2 = true ↔ Ejected earlier ∨ op = .eject) := by
  cases hs : ejected s with
  | true =>
    have hearlier := hstate.mp hs
    obtain ⟨answer, rfl, rfl, hanswer⟩ := h.act_late hs hrun
    refine ⟨⟨fun _ => ⟨rfl, congrArg some hanswer⟩,
      fun hnot => absurd hearlier hnot⟩, ?_⟩
    rintro r ⟨⟩
    exact ⟨fun _ => .inl hearlier, fun _ => hs⟩
  | false =>
    have hearlier : ¬ Ejected earlier := by
      rw [← hstate, hs]
      nofun
    by_cases hop : op = .eject
    · subst hop
      obtain ⟨htimely, hnext⟩ := h.act_eject hs hrun
      refine ⟨.of_timely hearlier htimely, ?_⟩
      exact fun r hr => ⟨fun _ => .inr rfl, fun _ => hnext r hr⟩
    · obtain ⟨htimely, hnext⟩ := h.act_timely hs hop hrun
      refine ⟨.of_timely hearlier htimely, ?_⟩
      intro r hr
      simp [hnext r hr, hearlier, hop]

theorem Minds.careful_acts (h : Minds layer ejected m)
    (hstate : ejected s = true ↔ Ejected earlier)
    {between rest : List (Act I)}
    (hacts : acts layer handle ops s w = between ++ act :: rest) :
    Careful m (earlier ++ between) act := by
  induction ops generalizing earlier s w between with
  | nil => simp [acts] at hacts
  | cons op ops ih =>
    rcases hrun : (layer op s).run handle.posed (w, []) with
      ⟨_ | ⟨answer, s'⟩, w', posed⟩
    · obtain ⟨hcareful, -⟩ := h.careful hstate hrun
      rw [acts, hrun] at hacts
      cases between with
      | nil =>
        obtain ⟨rfl, -⟩ := List.cons.inj hacts
        rw [List.append_nil]
        exact hcareful
      | cons first between => simp at hacts
    · obtain ⟨hcareful, hnext⟩ := h.careful hstate hrun
      rw [acts, hrun] at hacts
      cases between with
      | nil =>
        obtain ⟨rfl, -⟩ := List.cons.inj hacts
        rw [List.append_nil]
        exact hcareful
      | cons first between =>
        obtain ⟨rfl, hrest⟩ := List.cons.inj hacts
        have hstate' : ejected s' = true ↔ Ejected (earlier ++
            [⟨op, posed, some (forget op answer)⟩]) := by
          rw [ejected_concat]
          exact hnext _ rfl
        simpa using ih hstate' hrest

theorem map_op_acts (layer : Layer I Card σ) (handle : Handler I ω)
    (ops : List Operation) (s : σ) (w : ω) :
    (acts layer handle ops s w).map (·.op) <+: ops ∧
      ((∀ act ∈ acts layer handle ops s w, act.came ≠ none) →
        (acts layer handle ops s w).map (·.op) = ops) := by
  induction ops generalizing s w with
  | nil => exact ⟨List.prefix_rfl, fun _ => rfl⟩
  | cons op ops ih =>
    rcases hrun : (layer op s).run handle.posed (w, []) with
      ⟨_ | ⟨answer, s'⟩, w', posed⟩
    · simp only [acts, hrun]
      refine ⟨List.prefix_append [op] ops, fun hcame => ?_⟩
      exact absurd rfl (hcame _ (List.mem_singleton_self _))
    · obtain ⟨hmade, hall⟩ := ih s' w'
      simp only [acts, hrun, List.map_cons, List.forall_mem_cons]
      exact ⟨(List.prefix_cons_inj op).mpr hmade,
        fun hcame => congrArg (op :: ·) (hall hcame.2)⟩

/-- Whatever is done with a card, and whatever happens underneath, a card
that minds its state lets go once. -/
theorem Minds.letsGoOnce (h : Minds layer ejected m)
    (hs : ejected s = false) (handle : Handler I ω) (ops : List Operation)
    (w : ω) : LetsGoOnce m ops (acts layer handle ops s w) := by
  obtain ⟨hmade, hall⟩ := map_op_acts layer handle ops s w
  have hstate : ejected s = true ↔ Ejected ([] : List (Act I)) := by
    simp [hs, Ejected]
  have hcareful : ∀ between act rest,
      acts layer handle ops s w = between ++ act :: rest →
        Careful m ([] ++ between) act :=
    fun _ _ _ => h.careful_acts hstate
  exact ⟨hmade, hall, hcareful, (releases_of_careful hcareful).1⟩

end

end Card

end CardBridge
