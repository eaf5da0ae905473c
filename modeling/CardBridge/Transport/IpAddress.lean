import CardBridge.Text.Hex
import CardBridge.Text.Pieces

/-!
# Internet addresses

Addresses of version 4, which are four octets, and of version 6, which are
eight groups of two octets, as they are read and as they are written. Both
have one written form; more than that form is read.
-/

namespace CardBridge

/-- An Internet address. -/
inductive IpAddress where
  | four (a b c d : UInt8)
  /-- An address of version 6, and the number of the network it belongs to,
  where it only has a meaning there. -/
  | six (groups : Vector UInt16 8) (zone : UInt32)
  deriving Repr, DecidableEq

namespace IpAddress

/-! ## Reading -/

/-- Reads a number in digits of a base. -/
def number? (base : Nat) (digits : List Char) : Option Nat :=
  if digits = [] then none
  else digits.foldlM (fun n c => do
    let value ← Hex.digitValue? c
    if value < base then some (base * n + value) else none) 0

/-- Reads an octet: at most three decimal digits, without zeros in front. -/
def octet? (digits : List Char) : Option UInt8 := do
  if digits.length > 3 ∨ (digits.length > 1 ∧ digits.head? = some '0') then
    none
  let value ← number? 10 digits
  if value < 256 then some value.toUInt8 else none

/-- Reads four octets with points between them. -/
def octets? (text : List Char) : Option (UInt8 × UInt8 × UInt8 × UInt8) :=
  match Text.pieces '.' text with
  | [a, b, c, d] => do
    return (← octet? a, ← octet? b, ← octet? c, ← octet? d)
  | _ => none

/-- Reads a part of an address of version 4, in decimal digits, in octal
ones after a zero, or in hexadecimal ones after `0x`. -/
def part? : List Char → Option Nat
  | '0' :: 'x' :: digits => number? 16 digits
  | '0' :: 'X' :: digits => number? 16 digits
  | '0' :: digits => number? 8 ('0' :: digits)
  | digits => number? 10 digits

/-- Joins parts to one number of `size` octets: all are single octets but
the last one, which stands for all the octets that are left. -/
def joinParts? : (size : Nat) → List Nat → Option Nat
  | 0, _ => none
  | _, [] => none
  | size + 1, [last] => if last < 1 <<< (8 * size + 8) then some last else none
  | size + 1, part :: rest => do
    if part < 256 then return part <<< (8 * size) + (← joinParts? size rest)
    else none

/-- Reads an address of version 4 that may have fewer than four parts. -/
def loose? (text : List Char) : Option IpAddress := do
  let parts ← (Text.pieces '.' text).mapM part?
  let n ← joinParts? 4 parts
  return four (n / 0x1000000).toUInt8 (n / 0x10000).toUInt8
    (n / 0x100).toUInt8 n.toUInt8

/-- Reads a group: at most four hexadecimal digits. -/
def group? (digits : List Char) : Option UInt16 := do
  if digits.length > 4 then none
  return (← number? 16 digits).toUInt16

/-- Reads groups with colons between them. The last two may be written as
four octets. -/
def groups? : List (List Char) → Option (List UInt16)
  | [] => some []
  | [last] =>
    match octets? last with
    | some (a, b, c, d) =>
      some [a.toUInt16 * 256 + b.toUInt16, c.toUInt16 * 256 + d.toUInt16]
    | none => (group? last).map fun group => [group]
  | piece :: rest => do return (← group? piece) :: (← groups? rest)

/-- Reads the groups on one side of a gap; there may be none. -/
def side? : List Char → Option (List UInt16)
  | [] => some []
  | text => groups? (Text.pieces ':' text)

/-- The texts before and after the first two colons that follow each other,
if there are any. -/
def gap? : List Char → Option (List Char × List Char)
  | ':' :: ':' :: rest => some ([], rest)
  | c :: rest => (gap? rest).map fun (before, after) => (c :: before, after)
  | [] => none

/-- All groups of an address, where two colons stand for one or more groups
of zeros. Octets do not stand before those. -/
def allGroups? (text : List Char) : Option (List UInt16) :=
  match gap? text with
  | none => side? text
  | some (before, after) => do
    let front ← if before.contains '.' then none else side? before
    let back ← side? after
    if front.length + back.length < 8 then
      let zeros := List.replicate (8 - front.length - back.length) 0
      return front ++ zeros ++ back
    else none

/-- Reads the number of a network: decimal digits. -/
def zone? (digits : List Char) : Option UInt32 := do
  let value ← number? 10 digits
  if value < UInt32.size then some value.toUInt32 else none

/-- Reads an address of version 6; the number of a network may follow it
behind a percent sign. -/
def six? (text : List Char) : Option IpAddress := do
  let groups ← allGroups? (text.takeWhile (· ≠ '%'))
  let zone ← match text.dropWhile (· ≠ '%') with
    | [] => some 0
    | _ :: digits => zone? digits
  if h : groups.length = 8 then
    return six ⟨groups.toArray, by simpa using h⟩ zone
  else none

/-- Reads an address. -/
def ofText? (text : List Char) : Option IpAddress :=
  (six? text).or (loose? text)

/-! ## Writing -/

/-- The longest of the runs of zeros in some groups, and of several the
first: how many groups stand before it, and how many belong to it. -/
def longestZeros : List UInt16 → Nat × Nat
  | [] => (0, 0)
  | group :: rest =>
    let here := ((group :: rest).takeWhile (· = 0)).length
    let (start, length) := longestZeros rest
    if length ≤ here then (0, here) else (start + 1, length)

/-- Groups with colons between them. -/
def writeGroups (groups : List UInt16) : List Char :=
  [':'].intercalate (groups.map fun g => Nat.toDigits 16 g.toNat)

/-- Four octets with points between them. -/
def writeOctets (a b c d : UInt8) : List Char :=
  ['.'].intercalate ([a, b, c, d].map fun x => Nat.toDigits 10 x.toNat)

/-- The groups of an address of version 6. The longest run of two or more
zeros is left out; an address that stands for one of version 4 ends in
octets. -/
def writeSix : List UInt16 → List Char
  | [0, 0, 0, 0, 0, 0xFFFF, high, low] =>
    "::ffff:".toList ++ writeOctets (high / 256).toUInt8 high.toUInt8
      (low / 256).toUInt8 low.toUInt8
  | groups =>
    let (start, length) := longestZeros groups
    if length > 1 then
      writeGroups (groups.take start) ++ [':', ':'] ++
        writeGroups (groups.drop (start + length))
    else writeGroups groups

def withPort (port : UInt16) : IpAddress → String
  | four a b c d => s!"{String.ofList (writeOctets a b c d)}:{port}"
  | six groups zone =>
    let zone := if zone = 0 then "" else s!"%{zone}"
    s!"[{String.ofList (writeSix groups.toList)}{zone}]:{port}"

end IpAddress

end CardBridge
