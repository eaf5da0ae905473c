import CardBridge.Bytes

/-!
# Hexadecimal text

Two digits per octet, the high half first. Writing is done in lower or in
upper case; reading takes either case and nothing but digits.
-/

namespace CardBridge.Hex

/-- The two lower case digits of one octet. -/
def octet (b : UInt8) : List Char :=
  [Nat.digitChar (b.toNat / 16), Nat.digitChar (b.toNat % 16)]

/-- The lower case digits of a byte string. -/
def lowerChars (bytes : Bytes) : List Char :=
  bytes.flatMap octet

/-- The upper case digits of a byte string. -/
def upperChars (bytes : Bytes) : List Char :=
  (lowerChars bytes).map Char.toUpper

def lower (bytes : Bytes) : String :=
  String.ofList (lowerChars bytes)

def upper (bytes : Bytes) : String :=
  String.ofList (upperChars bytes)

def digitValue? (c : Char) : Option Nat :=
  if '0' ≤ c ∧ c ≤ '9' then some (c.toNat - '0'.toNat)
  else if 'a' ≤ c ∧ c ≤ 'f' then some (c.toNat - 'a'.toNat + 10)
  else if 'A' ≤ c ∧ c ≤ 'F' then some (c.toNat - 'A'.toNat + 10)
  else none

/-- Why a text is not the hexadecimal form of a byte string. -/
inductive Error where
  | oddLength
  /-- The octet `octet` of the text, at `position`, is no digit. -/
  | notADigit (octet : UInt8) (position : Nat)
  deriving Repr, DecidableEq

/-- The first octet of the UTF-8 form of a character. -/
def leadOctet (c : Char) : UInt8 :=
  let n := c.toNat
  if n < 0x80 then n.toUInt8
  else if n < 0x800 then (0xC0 + n / 0x40).toUInt8
  else if n < 0x10000 then (0xE0 + n / 0x1000).toUInt8
  else (0xF0 + n / 0x40000).toUInt8

/-- Joins digit values two by two. -/
def pairs : List Nat → Bytes
  | high :: low :: rest => (16 * high + low).toUInt8 :: pairs rest
  | _ => []

def isDigit (c : Char) : Bool :=
  (digitValue? c).isSome

/-- Reads a text of digits. Length is measured on the UTF-8 form, and an odd
length is reported before any character that is no digit. Up to the first
such character all are single octets, so counting them gives its position. -/
def decode (text : List Char) : Except Error Bytes :=
  if (String.ofList text).utf8ByteSize % 2 = 1 then .error .oddLength
  else match text.find? (!isDigit ·) with
    | some c => .error (.notADigit (leadOctet c) (text.takeWhile isDigit).length)
    | none => .ok (pairs (text.filterMap digitValue?))

end CardBridge.Hex
