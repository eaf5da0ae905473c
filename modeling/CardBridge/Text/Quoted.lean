import CardBridge.Text.Invisible
import CardBridge.Text.Unprintable

/-!
# Quoted text

A text between marks, with everything escaped that could not be told apart
on a screen: the mark itself, the backslash, and what is unprintable, may be
left out, or is drawn on the character before it.
-/

namespace CardBridge.Text

/-- A character by its code in lower case hexadecimal digits. -/
def escapeCode (c : Char) : List Char :=
  ['\\', 'u', '\x7b'] ++ Nat.toDigits 16 c.toNat ++ ['\x7d']

/-- A character that is escaped by its code. -/
def isEscaped (c : Char) : Bool :=
  isUnprintable c || isFiller c || (isExtending c && !isSoundMark c)

/-- A character between marks `mark`. -/
def quoteChar (mark c : Char) : List Char :=
  if c = mark ∨ c = '\\' then ['\\', c]
  else if c = '\x00' then ['\\', '0']
  else if c = '\t' then ['\\', 't']
  else if c = '\n' then ['\\', 'n']
  else if c = '\r' then ['\\', 'r']
  else if isEscaped c then escapeCode c
  else [c]

/-- A text between marks. -/
def quote (mark : Char) (text : List Char) : List Char :=
  mark :: text.flatMap (quoteChar mark) ++ [mark]

def quoted (text : String) : String :=
  String.ofList (quote '"' text.toList)

end CardBridge.Text
