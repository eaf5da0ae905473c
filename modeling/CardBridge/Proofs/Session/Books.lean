import CardBridge.Proofs.Session.Rules

/-!
# The books of a session

Whatever a session is answered, some things can be kept count of: which
connection is the current one, which of them the token was given and gave
back, what the flag was when it was last read, which calls and which events
there were. `Books.enter` keeps the count; nothing in it depends on the
session's program.
-/

namespace CardBridge.Session

open Dialogue

/-- What is known of a session from its questions and their answers. -/
structure Books where
  /-- How many connections were made. The current one has this number. -/
  made : Nat := 0
  /-- The connections that the token took. -/
  registered : List Nat := []
  /-- The connection that the token took and that was not taken back. -/
  serving : Option Nat := none
  /-- The connections that the session has shut down. -/
  hungUp : List Nat := []
  /-- The token has refused a connection. -/
  refused : Bool := false
  /-- The flag, when it was read last. -/
  reading : Option Bool := none
  /-- The flag was not read since the last connection was taken back. -/
  due : Bool := false
  /-- The calls to the card. -/
  calls : List Card.Operation := []
  /-- What those who watch were told. -/
  events : List Event := []

/-- The value of the flag, if a question reads it. A connection is refused
if it is set. -/
def flag? : (q : Ask) → Answer q → Option Bool
  | .token .isCancelled, flag => some flag
  | .token .register, taken => some !taken
  | _, _ => none

namespace Books

/-- One more connection. -/
def connect (b : Books) : Books :=
  { b with made := b.made + 1 }

/-- The flag is read. -/
def read (flag : Bool) (b : Books) : Books :=
  { b with reading := some flag, due := b.due && b.serving.isSome }

/-- The token takes the current connection. -/
def register (b : Books) : Books :=
  { b with
    registered := b.made :: b.registered
    serving := some b.made
    reading := some false
    due := true }

/-- Enters an answer in the books. -/
def enter (b : Books) : (q : Ask) → Answer q → Books
  | .network (.connect _ _), answer =>
    match answer with
    | .ok _ => b.connect
    | .error _ => b
  | .network (.poll _), answer =>
    match answer with
    | .ok (some _) => b.connect
    | _ => b
  | .socket .shutdown, _ => { b with hungUp := b.made :: b.hungUp }
  | .token .isCancelled, flag => b.read flag
  | .token .register, taken =>
    if taken then b.register else { b.read true with refused := true }
  | .token .clear, _ => { b with serving := none }
  | .card op, _ => { b with calls := b.calls ++ [op] }
  | .emit event, _ => { b with events := b.events ++ [event] }
  | _, _ => b

/-- The same is known of the token. -/
structure Alike (b b' : Books) : Prop where
  registered : b'.registered = b.registered
  serving : b'.serving = b.serving
  refused : b'.refused = b.refused
  reading : b'.reading = b.reading
  due : b'.due = b.due

/-- What a question and its answer can do to what is known of the token,
and what they read of the flag. -/
inductive Turn (b : Books) (q : Ask) (b' : Books) (flag? : Option Bool) :
    Prop where
  /-- The token was not concerned. -/
  | aside (hflag : flag? = none) (h : Alike b b')
  /-- The connection was taken back. -/
  | cleared (hflag : flag? = none) (h : b' = { b with serving := none })
  /-- The flag was read. -/
  | read (flag : Bool) (hflag : flag? = some flag) (h : b' = b.read flag)
  /-- The token took the connection. -/
  | taken (hq : q = .token .register) (hflag : flag? = some false)
    (h : b' = b.register)
  /-- The token refused the connection. -/
  | refused (hq : q = .token .register) (hflag : flag? = some true)
    (h : b' = { b.read true with refused := true })

theorem turn (b : Books) (q : Ask) (a : Answer q) :
    Turn b q (b.enter q a) (flag? q a) := by
  match q, a with
  | .network (.connect _ _), .ok _ | .network (.connect _ _), .error _
  | .network (.poll _), .ok (some _) | .network (.poll _), .ok none
  | .network (.poll _), .error _ | .network (.resolve _ _), _
  | .network (.listen _), _ | .network .unpoll, _ =>
    exact .aside rfl ⟨rfl, rfl, rfl, rfl, rfl⟩
  | .socket (.stream _), _ | .socket (.noDelay _), _
  | .socket (.readTimeout _), _ | .socket (.writeTimeout _), _
  | .socket .duplicate, _ | .socket .shutdown, _ =>
    exact .aside rfl ⟨rfl, rfl, rfl, rfl, rfl⟩
  | .card _, _ | .localAddresses, _ | .emit _, _ | .advance _, _
  | .log _, _ => exact .aside rfl ⟨rfl, rfl, rfl, rfl, rfl⟩
  | .token .isCancelled, flag => exact .read flag rfl rfl
  | .token .clear, _ => exact .cleared rfl rfl
  | .token .register, true => exact .taken rfl rfl rfl
  | .token .register, false => exact .refused rfl rfl rfl

variable {b : Books} {q : Ask} {a : Answer q}

theorem reading_enter (b : Books) (q : Ask) (a : Answer q) :
    (b.enter q a).reading = (flag? q a).or b.reading := by
  cases turn b q a with
  | aside hflag h => rw [hflag, h.reading]; rfl
  | cleared hflag h => rw [hflag, h]; rfl
  | read _ hflag h => rw [hflag, h]; rfl
  | taken _ hflag h => rw [hflag, h]; rfl
  | refused _ hflag h => rw [hflag, h]; rfl

theorem refused_enter (h : b.refused = true) :
    (b.enter q a).refused = true := by
  cases turn b q a with
  | aside _ h' => rw [h'.refused, h]
  | cleared _ h' => rw [h', h]
  | read _ _ h' => rw [h']; exact h
  | taken _ _ h' => rw [h']; exact h
  | refused _ _ h' => rw [h']

/-- What is served was served before, unless the token has just taken it. -/
theorem serving_enter {c : Nat} (h : (b.enter q a).serving = some c) :
    b.serving = some c ∨ q = .token .register ∧ b.made = c := by
  cases turn b q a with
  | aside _ h' => exact .inl (h'.serving ▸ h)
  | cleared _ h' => simp [h'] at h
  | read _ _ h' => rw [h'] at h; exact .inl h
  | taken hq _ h' => rw [h'] at h; exact .inr ⟨hq, Option.some.inj h⟩
  | refused _ _ h' => rw [h'] at h; exact .inl h

theorem registered_enter {c : Nat} (h : c ∈ b.registered) :
    c ∈ (b.enter q a).registered := by
  cases turn b q a with
  | aside _ h' => rw [h'.registered]; exact h
  | cleared _ h' => rw [h']; exact h
  | read _ _ h' => rw [h']; exact h
  | taken _ _ h' => rw [h']; exact List.mem_cons_of_mem _ h
  | refused _ _ h' => rw [h']; exact h

/-- What is served was taken by the token, and the flag is to be read once it
is taken back. -/
def Consistent (b : Books) : Prop :=
  ∀ c, b.serving = some c → c ∈ b.registered ∧ b.due = true

theorem Consistent.enter (h : Consistent b) : Consistent (b.enter q a) := by
  intro c hc
  cases turn b q a with
  | aside _ h' =>
    rw [h'.registered, h'.due]
    exact h c (h'.serving ▸ hc)
  | cleared _ h' => simp [h'] at hc
  | read _ _ h' =>
    rw [h'] at hc ⊢
    obtain ⟨hregistered, hdue⟩ := h c hc
    exact ⟨hregistered, by simp [Books.read, hdue, show b.serving = _ from hc]⟩
  | taken _ _ h' =>
    rw [h'] at hc ⊢
    obtain rfl := Option.some.inj hc
    exact ⟨List.mem_cons_self .., rfl⟩
  | refused _ _ h' =>
    rw [h'] at hc ⊢
    obtain ⟨hregistered, hdue⟩ := h c hc
    exact ⟨hregistered, by simp [Books.read, hdue, show b.serving = _ from hc]⟩

end Books

end CardBridge.Session
