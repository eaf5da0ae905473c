/-!
# JSON text

Values are written on one line without blanks. In texts the quotation mark,
the backslash and the characters below U+0020 are escaped, and nothing else.
-/

namespace CardBridge

/-- A JSON value, with the numbers that are counts. -/
inductive JsonValue where
  | text (value : String)
  | number (value : Nat)
  | list (items : List JsonValue)
  /-- Named values, in the order in which they are written. -/
  | object (members : List (String × JsonValue))

namespace JsonValue

/-- The four lower case digits of a character below U+0020. -/
def escapeDigits (c : Char) : List Char :=
  ['0', '0', Nat.digitChar (c.toNat / 16), Nat.digitChar (c.toNat % 16)]

/-- One character of a text. -/
def encodeChar (c : Char) : List Char :=
  match c with
  | '"' => ['\\', '"']
  | '\\' => ['\\', '\\']
  | '\x08' => ['\\', 'b']
  | '\x09' => ['\\', 't']
  | '\x0a' => ['\\', 'n']
  | '\x0c' => ['\\', 'f']
  | '\x0d' => ['\\', 'r']
  | c => if c.toNat < 0x20 then '\\' :: 'u' :: escapeDigits c else [c]

def encodeText (text : String) : List Char :=
  '"' :: text.toList.flatMap encodeChar ++ ['"']

mutual

def encode : JsonValue → List Char
  | text value => encodeText value
  | number value => Nat.toDigits 10 value
  | list items => '[' :: encodeItems items ++ [']']
  | object members => '{' :: encodeMembers members ++ ['}']

/-- Values with commas between them. -/
def encodeItems : List JsonValue → List Char
  | [] => []
  | [item] => encode item
  | item :: items => encode item ++ ',' :: encodeItems items

/-- Named values with commas between them. -/
def encodeMembers : List (String × JsonValue) → List Char
  | [] => []
  | [(name, value)] => encodeText name ++ ':' :: encode value
  | (name, value) :: members =>
    encodeText name ++ ':' :: encode value ++ ',' :: encodeMembers members

end

def print (value : JsonValue) : String :=
  String.ofList value.encode

end JsonValue

end CardBridge
