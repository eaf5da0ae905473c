/-!
# Byte strings

Everything that travels between a reader and a card is a finite string of
octets. The library keeps it as a list, so that cutting, joining and
recursion are those of lists.
-/

namespace CardBridge

/-- A finite string of octets. -/
abbrev Bytes := List UInt8

namespace Bytes

/-- The exclusive or of all octets; `0` for the empty string. -/
def xor (bytes : Bytes) : UInt8 :=
  bytes.foldl (· ^^^ ·) 0

end Bytes

end CardBridge
