import CardBridge.Cli.Failure
import CardBridge.Text.Blank
import CardBridge.Text.Hex
import CardBridge.Text.Quoted

/-!
# APDUs on the command line

Hexadecimal digits in pairs, with white space wherever one likes.
-/

namespace CardBridge.Cli

/-- Why a text is not hexadecimal, in words. -/
def hexFault : Hex.Error → String
  | .oddLength => "Odd number of digits"
  | .notADigit octet position =>
    let shown := String.ofList (Text.quote '\x27' [Char.ofNat octet.toNat])
    s!"Invalid character {shown} at position {position}"

/-- A text that stands for no APDU. -/
def notAnApdu (text why : String) : Failure :=
  ⟨.dataInvalid, s!"invalid APDU {Text.quoted text}: {why}"⟩

/-- Reads an APDU. A single byte would be taken for a control command, and
is refused. -/
def apdu (text : String) : Except Failure Bytes :=
  match Hex.decode (Text.squeeze text.toList) with
  | .error fault => .error (notAnApdu text (hexFault fault))
  | .ok [_] => .error (notAnApdu text "one-byte APDUs cannot be sent")
  | .ok bytes => .ok bytes

/-- Reads several APDUs, and reports the first that is none. -/
def apdus : List String → Except Failure (List Bytes)
  | [] => .ok []
  | text :: texts => do
    let first ← apdu text
    let rest ← apdus texts
    return first :: rest

end CardBridge.Cli
