import CardBridge.Bytes
import CardBridge.Dialogue
import CardBridge.IoError

/-!
# Streams of octets

What a frame reader and a frame writer ask of a connection.
-/

namespace CardBridge.Stream

/-- The operations on an open connection. -/
inductive Ask where
  /-- Take at most `size` octets; none at all means that the stream ended. -/
  | receive (size : Nat)
  /-- Offer octets, of which the connection accepts the first few or all. -/
  | send (offered : Bytes)
  | flush

abbrev Answer : Ask → Type
  | .receive _ => Except IoError Bytes
  | .send _ => Except IoError Nat
  | .flush => Except IoError Unit

end Stream

abbrev Stream : Interface :=
  ⟨Stream.Ask, Stream.Answer⟩

end CardBridge
