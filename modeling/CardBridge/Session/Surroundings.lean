import CardBridge.Card.Basic
import CardBridge.Session.Error
import CardBridge.Session.Event
import CardBridge.Session.State
import CardBridge.Transport.Network
import CardBridge.Transport.Socket

/-!
# What a session depends on

Everything that a session asks of the world: the network, the connection it
serves, the card, the token by which it is cancelled, and those who watch
it. A session serves one connection at a time, so the connection needs no
name: it is the one that was made last. The card and those who watch are not
part of the session, and a call to either may give up.
-/

namespace CardBridge

/-- What the token says when a session turns to it. The token may be used by
anyone at any time. -/
inductive TokenAsk where
  | isCancelled
  /-- Hand over the connection, to be shut down when the session is told to
  stop. It is not taken if that has happened. -/
  | register
  | clear

/-- A call that either returns or unwinds the caller. -/
inductive Attempt (α : Type) where
  | returned (value : α)
  /-- The call gave up together with whoever made it. -/
  | unwound

namespace Session

/-- What a session asks. -/
inductive Ask where
  | network (q : Network.Ask)
  /-- Something of the connection made last. -/
  | socket (q : Socket.Ask)
  | card (op : Card.Operation)
  | token (q : TokenAsk)
  /-- The addresses that a reader could dial. -/
  | localAddresses
  | emit (event : Event)
  | advance (next : SessionState)
  | log (record : Log.Record)

abbrev Answer : Ask → Type
  | .network q => Network.Answer q
  | .socket q => Socket.Answer q
  | .card op => Attempt (Card.Answer op)
  | .token .isCancelled => Bool
  | .token .register => Bool
  | .token .clear => Unit
  | .localAddresses => Except IoError (List Address)
  | .emit _ => Attempt Unit
  | .advance _ => Unit
  | .log _ => Unit

end Session

abbrev Session : Interface :=
  ⟨Session.Ask, Session.Answer⟩

end CardBridge
