import CardBridge.Text.Invisible
import CardBridge.Text.Pictograph
import CardBridge.Text.Wide

/-!
# Display width

How many columns of a terminal a text takes. A character takes one, two or
none by itself. Some sequences are drawn as one: pictures that are joined,
coloured or selected, flags, and the ligatures of several scripts. So a text
is measured from its end, and each character by what stands behind it.
-/

namespace CardBridge.Text

/-- A letter that is drawn together with what stands before it. -/
inductive Ligature where
  /-- Hebrew lamed, after alef and a joiner. -/
  | lamed
  /-- Buginese ya, after a joiner and the vowel sign i. -/
  | ya
  /-- Buginese ya with the vowel sign i, after the letter a. -/
  | vowelAndYa
  /-- A Tifinagh consonant, after another one and a joiner. -/
  | consonant
  /-- A Tifinagh consonant with the joiner of its script before it. -/
  | joinedConsonant
  /-- One of the last two tone letters of Lisu, after another one. -/
  | tone
  /-- The Old Turkic letter i, after the letter ot and a joiner. -/
  | orkhonI
  /-- A Khmer letter, which goes below the one before it. -/
  | subscript
  deriving Repr, DecidableEq

/-- What the characters of a flag's name that were met so far are. -/
inductive FlagName where
  /-- So many letters. -/
  | letters (count : Nat)
  /-- Digits, so many, before any letters. -/
  | digits (count : Nat)
  deriving Repr, DecidableEq

/-- What stands behind a character, if it may be drawn together with it. -/
inductive Joining where
  | nothing
  | lineFeed
  | modifier
  /-- A regional indicator; there may be several. -/
  | indicator (several : Bool)
  | picture
  /-- A joiner and a picture. -/
  | joinedPicture
  /-- A joiner and a picture, with a key's frame before them. -/
  | joinedKey
  /-- A joiner and a picture, with one regional indicator before them. -/
  | joinedIndicator
  /-- A joiner and a picture, with an even number of regional indicators, or
  a greater odd one, before them. -/
  | joinedIndicators (even : Bool)
  /-- A joiner and a picture, with the end of a flag's name before them. -/
  | joinedFlag (name : FlagName)
  | alef
  /-- The first or the second vowel sign of Kirat Rai that may be doubled. -/
  | vowelSign (second : Bool)
  /-- A letter, and whether there is a joiner before it. -/
  | letter (ligature : Ligature) (joined : Bool)
  deriving Repr, DecidableEq

/-- A selector, which says in what form a character is meant. -/
inductive Selector where
  | picture
  | text
  /-- As wide as an ideograph. -/
  | wide
  deriving Repr, DecidableEq

/-- What stands behind a character. -/
structure Behind where
  /-- What it may be drawn together with. -/
  joining : Joining := .nothing
  /-- A selector right behind it. -/
  selector : Option Selector := none
  deriving Repr, DecidableEq

/-! ## Characters by themselves -/

def isAlef (c : Char) : Bool :=
  inRanges [(0x622, 0x623), (0x625, 0x625), (0x627, 0x627), (0x671, 0x673),
    (0x675, 0x675), (0x773, 0x774), (0x870, 0x882)] c

def isLam (c : Char) : Bool :=
  inRanges [(0x644, 0x644), (0x6B5, 0x6B8), (0x76A, 0x76A), (0x8A6, 0x8A6),
    (0x8C7, 0x8C7)] c

def isTifinagh (c : Char) : Bool :=
  inRanges [(0x2D31, 0x2D65), (0x2D6F, 0x2D6F)] c

/-- A Khmer letter that can go below another one. -/
def isSubscript (c : Char) : Bool :=
  inRanges [(0x1780, 0x1782), (0x1784, 0x1787), (0x1789, 0x178C),
    (0x178E, 0x1793), (0x1795, 0x1798), (0x179B, 0x179D), (0x17A0, 0x17A0),
    (0x17A2, 0x17A2), (0x17A7, 0x17A7), (0x17AB, 0x17AC),
    (0x17AF, 0x17AF)] c

/-- What a character may be drawn together with. -/
def joiningOf (c : Char) : Joining :=
  match c.toNat with
  | 0xA => .lineFeed
  | 0x5DC => .letter .lamed false
  | 0x1A10 => .letter .ya false
  | 0xA4FC | 0xA4FD => .letter .tone true
  | 0x10C03 => .letter .orkhonI false
  | 0x16D67 => .vowelSign false
  | 0x16D68 => .vowelSign true
  | _ =>
    if isAlef c then .alef
    else if isSubscript c then .letter .subscript true
    else if isTifinagh c then .letter .consonant false
    else if isIndicator c then .indicator false
    else if isModifier c then .modifier
    else if isPicture c then .picture
    else .nothing

/-- The columns of a character by itself. Controls take one. -/
def charWidth (c : Char) : Nat :=
  if c.toNat ≤ 0xA0 then 1
  else if c.toNat = 0x17D8 then 3
  else if isInvisible c then 0
  else if isWide c then 2
  else 1

/-! ## Sequences -/

def isJoiner (c : Char) : Bool :=
  c.toNat = 0x200D

/-- A mark that does not keep letters from being drawn together. -/
def isPassedOver (c : Char) : Bool :=
  inRanges [(0x34F, 0x34F), (0x17B4, 0x17B5), (0x180B, 0x180D),
    (0x180F, 0x180F), (0xFE00, 0xFE0F), (0xE0100, 0xE01EF)] c

/-- A quotation mark that a selector can make wide. -/
def isQuotationMark (c : Char) : Bool :=
  inRanges [(0x2018, 0x2019), (0x201C, 0x201D)] c

/-- The selector that a character is. -/
def selectorOf? (c : Char) : Option Selector :=
  match c.toNat with
  | 0xFE0F => some .picture
  | 0xFE0E => some .text
  | 0xFE01 => some .wide
  | _ => none

/-- Whether a selector in between does not matter to what is drawn. -/
def Joining.isLetter : Joining → Bool
  | .alef => true
  | .letter .. => true
  | _ => false

/-- Whether a picture before it is joined to it, and takes no column. -/
def Joining.joinsPicture : Joining → Bool
  | .joinedPicture => true
  | .joinedKey => true
  | _ => false

/-- What stands behind a character that has a selector behind it. -/
def Joining.select (selector : Selector) (joining : Joining) : Behind :=
  let kept := joining.isLetter ||
    (selector = .picture && joining.joinsPicture)
  ⟨if kept then joining else .nothing, some selector⟩

/-- One more character in the name of a flag. -/
def FlagName.extend (c : Char) : FlagName → Option FlagName
  | letters count =>
    if inRanges [(0xE0061, 0xE007A)] c && count < 6 then
      some (letters (count + 1))
    else if inRanges [(0xE0030, 0xE0039)] c && count < 5 then
      some (digits 1)
    else none
  | digits count =>
    if inRanges [(0xE0030, 0xE0039)] c && count < 3 then
      some (digits (count + 1))
    else none

/-- Whether a flag can have the name. -/
def FlagName.isComplete : FlagName → Bool
  | letters count => 3 ≤ count
  | digits count => count = 3

/-- The columns that a character adds to the letter it is drawn together
with, and what it is then. -/
def Ligature.before (c : Char) (joined : Bool) :
    Ligature → Option (Int × Joining)
  | lamed => if joined && c.toNat = 0x5D0 then some (0, .nothing) else none
  | ya =>
    if joined && c.toNat = 0x1A17 then some (0, .letter .vowelAndYa true)
    else none
  | vowelAndYa => if c.toNat = 0x1A15 then some (0, .nothing) else none
  | consonant =>
    if c.toNat = 0x2D7F then some (1, .letter .joinedConsonant true)
    else if joined && isTifinagh c then some (0, .nothing)
    else none
  | joinedConsonant => if isTifinagh c then some (-1, .nothing) else none
  | tone =>
    if inRanges [(0xA4F8, 0xA4FB)] c then some (0, .nothing) else none
  | orkhonI =>
    if joined && c.toNat = 0x10C32 then some (0, .nothing) else none
  | subscript => if c.toNat = 0x17D2 then some (-1, .nothing) else none

/-- What a joiner and a picture are together with a character before them,
and the columns that it adds. -/
def joinedBefore (c : Char) : Option (Int × Joining) :=
  if c.toNat = 0x20E3 then some (0, .joinedKey)
  else if isIndicator c then some (1, .joinedIndicator)
  else if isModifier c then some (0, .modifier)
  else if c.toNat = 0xE007F then some (0, .joinedFlag (.letters 0))
  else if joiningOf c = .picture then some (0, .picture)
  else none

/-- The columns that a character adds to what it is drawn together with, and
what it is then; none if it stands by itself. -/
def Joining.before (c : Char) : Joining → Option (Int × Joining)
  | .alef =>
    if isLam c then some (0, .nothing)
    else if isJoinedAcross c then some (0, .alef)
    else none
  | .letter ligature joined =>
    if isJoiner c then some (0, .letter ligature true)
    else if isPassedOver c then some (0, .letter ligature joined)
    else ligature.before c joined
  | .modifier =>
    if isBody c then some (0, .picture)
    else if isJoiner c then some (0, .joinedPicture)
    else none
  | .indicator several =>
    if isIndicator c then some (1, .indicator true)
    else if several && isJoiner c then some (0, .joinedPicture)
    else none
  | .picture => if isJoiner c then some (0, .joinedPicture) else none
  | .joinedPicture => joinedBefore c
  | .joinedIndicator =>
    if isIndicator c then some (-1, .joinedIndicators true) else none
  | .joinedIndicators even =>
    if isIndicator c then
      some (if even then 3 else -1, .joinedIndicators !even)
    else if isJoiner c then some (0, .joinedPicture)
    else none
  | .joinedFlag name =>
    if c.toNat = 0x1F3F4 && name.isComplete then some (0, .picture)
    else (name.extend c).map fun name => (0, .joinedFlag name)
  | .vowelSign false =>
    match c.toNat with
    | 0x16D63 => some (0, .nothing)
    | 0x16D67 => some (0, .vowelSign true)
    | 0x16D68 => some (1, .vowelSign false)
    | 0x16D69 => some (0, .nothing)
    | _ => none
  | .vowelSign true =>
    if c.toNat = 0x16D63 then some (0, .nothing) else none
  | .lineFeed => if c = '\r' then some (0, .nothing) else none
  | .joinedKey => none
  | .nothing => none

/-- The columns that a character adds to those of what stands behind it, and
what stands behind the character before it. -/
def measure (c : Char) (behind : Behind) : Int × Behind :=
  let joining :=
    if behind.selector = some .picture && !behind.joining.isLetter then
      .nothing
    else behind.joining
  match behind.selector, selectorOf? c with
  | _, some selector => (0, joining.select selector)
  | some .picture, _ =>
    if hasPictureForm c then
      (if behind.joining.joinsPicture then 0 else 2, ⟨.picture, none⟩)
    else alone joining
  | some .text, _ =>
    if hasNarrowForm c then (1, {}) else alone joining
  | some .wide, _ =>
    if isQuotationMark c then (2, {}) else alone joining
  | none, _ => alone joining
where
  /-- The same without a selector. -/
  alone (joining : Joining) : Int × Behind :=
    match joining.before c with
    | some (columns, joining) => (columns, ⟨joining, none⟩)
    | none => (charWidth c, ⟨joiningOf c, none⟩)

/-- The columns of a text. -/
def width (text : List Char) : Nat :=
  (text.foldr (fun c (columns, behind) =>
    let (more, behind) := measure c behind
    (columns + more, behind)) ((0 : Int), ({} : Behind))).1.toNat

end CardBridge.Text
