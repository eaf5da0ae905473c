import CardBridge.Cli.Failure
import CardBridge.Duration
import CardBridge.Text.Blank

/-!
# Spans of time on the command line

A whole number of seconds (`10` or `10s`) or of milliseconds (`500ms`), with
white space around the number and around the whole. There is no span of
zero.
-/

namespace CardBridge.Cli

/-- A number in decimal digits, with at most one plus sign before them, that
is a machine word of 64 bits. -/
def word? (text : List Char) : Option Nat :=
  let digits := match text with
    | '+' :: digits => digits
    | digits => digits
  if digits ≠ [] ∧ digits.all (fun c => '0' ≤ c ∧ c ≤ '9') then
    let value := digits.foldl (fun n c => 10 * n + (c.toNat - '0'.toNat)) 0
    if value < UInt64.size then some value else none
  else none

/-- The number part of a span, and whether it counts milliseconds. -/
def splitUnit (text : List Char) : List Char × Bool :=
  if ['m', 's'].isSuffixOf text then (text.dropLast.dropLast, true)
  else if ['s'].isSuffixOf text then (text.dropLast, false)
  else (text, false)

/-- Reads a span of time. -/
def timeout (text : String) : Except Failure Duration :=
  let trimmed := Text.trim text.toList
  if trimmed = [] then .error ⟨.usage, "duration must not be empty"⟩
  else
    let (number, inMillis) := splitUnit trimmed
    match word? (Text.trim number) with
    | none =>
      .error ⟨.usage, s!"invalid duration: {String.ofList trimmed}"⟩
    | some value =>
      if value = 0 then
        .error ⟨.usage, "duration must be greater than zero"⟩
      else .ok (if inMillis then .ofMillis value else .ofSeconds value)

/-- Reads a span of time that may be left out. -/
def timeout? : Option String → Except Failure (Option Duration)
  | none => .ok none
  | some text => (timeout text).map some

end CardBridge.Cli
