import CardBridge.Bytes
import CardBridge.Frame.Error

/-!
# Requests of a reader

A payload of exactly one byte is a control command. Every other payload, the
empty one included, is a command APDU for the card.
-/

namespace CardBridge

/-- What a reader can tell a card besides sending it an APDU. -/
inductive ControlCommand where
  | powerOff
  | powerOn
  | reset
  | getAtr
  deriving Repr, DecidableEq

namespace ControlCommand

def all : List ControlCommand :=
  [powerOff, powerOn, reset, getAtr]

def code : ControlCommand → UInt8
  | powerOff => 0
  | powerOn => 1
  | reset => 2
  | getAtr => 4

def ofCode (code : UInt8) : Except FrameError ControlCommand :=
  match all.find? (·.code = code) with
  | some command => .ok command
  | none => .error (.unhandledCommand code)

@[simp] theorem ofCode_code (command : ControlCommand) :
    ofCode command.code = .ok command := by
  cases command <;> rfl

theorem code_of_ofCode {code : UInt8} {command : ControlCommand}
    (h : ofCode code = .ok command) : command.code = code := by
  rw [ofCode] at h
  split at h
  · rename_i found hfound
    cases h
    simpa using List.find?_some hfound
  · cases h

/-- A code is unknown if no command has it. -/
theorem ofCode_eq_error {code : UInt8} {e : FrameError}
    (h : ofCode code = .error e) :
    e = .unhandledCommand code ∧
      ∀ command : ControlCommand, code ≠ command.code := by
  rw [ofCode] at h
  split at h
  · cases h
  · rename_i hnone
    cases h
    refine ⟨rfl, ?_⟩
    intro command hr
    subst hr
    have hall := List.find?_eq_none.mp hnone command
    cases command <;> simp [all] at hall

def name : ControlCommand → String
  | powerOff => "POWER_OFF"
  | powerOn => "POWER_ON"
  | reset => "RESET"
  | getAtr => "GET_ATR"

/-- Only the question for the answer to reset is answered by a frame. -/
def expectsResponse : ControlCommand → Bool
  | getAtr => true
  | _ => false

end ControlCommand

/-- What a payload means. -/
inductive Request where
  | control (command : ControlCommand)
  | apdu (command : Bytes)
  deriving Repr, DecidableEq

/-- Classifies a payload by its length. -/
def Request.ofPayload : Bytes → Except FrameError Request
  | [code] => (ControlCommand.ofCode code).map .control
  | payload => .ok (.apdu payload)

/-- The payload that carries a request. -/
def Request.payload : Request → Bytes
  | .control command => [command.code]
  | .apdu command => command

end CardBridge
