import CardBridge.Bytes
import CardBridge.Card.Error
import CardBridge.Dialogue

/-!
# Cards

A card is anything that can be powered, reset, asked for its answer to
reset, sent an APDU, and finally ejected. What kind of card it is shows in
nothing but its answers.
-/

namespace CardBridge.Card

/-- What can be done with a card. -/
inductive Operation where
  | powerOn
  | powerOff
  /-- Reset without taking the power away. -/
  | reset
  | atr
  | transmit (apdu : Bytes)
  /-- Release the card for good. -/
  | eject
  deriving Repr, DecidableEq

/-- What a successful operation gives back. -/
abbrev Reply : Operation → Type
  | .atr => Bytes
  | .transmit _ => Bytes
  | _ => Unit

abbrev Answer (op : Operation) : Type :=
  Except CardError (Reply op)

end Card

abbrev Card : Interface :=
  ⟨Card.Operation, Card.Answer⟩

end CardBridge
