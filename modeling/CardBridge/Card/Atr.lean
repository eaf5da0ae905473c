import CardBridge.Bytes
import CardBridge.Log

/-!
# Answers to reset for contactless cards

A contactless card has no electrical answer to reset. A reader presents its
historical bytes in this form instead:

    3B  80+N  80  01  <N historical bytes>  <check byte>

where the exclusive or of everything after the first byte is zero.
-/

namespace CardBridge.Atr

/-- The most historical bytes that half of the second byte can count. -/
def maxHistorical : Nat := 15

/-- Everything between the first byte and the check byte. -/
def body (historical : Bytes) : Bytes :=
  (0x80 + historical.length.toUInt8) :: 0x80 :: 0x01 :: historical

/-- The answer to reset around some historical bytes. -/
def synthesize (historical : Bytes) : Bytes :=
  0x3B :: body historical ++ [(body historical).xor]

/-- What is to be said about historical bytes that are too many. -/
def warning? (historical : Bytes) : Option Log.Record :=
  if historical.length ≤ maxHistorical then none
  else some {
    level := .warn
    message := "historical bytes exceed the T0 nibble; ATR will not be " ++
      "ISO 7816-3 conformant"
    fields := [("len", .number historical.length)] }

end CardBridge.Atr
