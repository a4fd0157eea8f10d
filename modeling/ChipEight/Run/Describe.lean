import ChipEight.Run.Config
import ChipEight.Text.Numeral

/-!
# Describing a run configuration

A configuration is shown with one value to a line.  The parts of a record, a
list or a wrapped value are indented by four columns, and each of them ends
with a comma.
-/

namespace ChipEight
namespace Describe

/-- Lines between an opening and a closing line, indented. -/
def block (opening : String) (body : List String) (closing : String) : List String :=
  [opening] ++ body.map ("    " ++ ·) ++ [closing]

/-- Put a text behind the last line. -/
def behind (text : String) : List String → List String
  | [] => [text]
  | [line] => [line ++ text]
  | line :: rest => line :: behind text rest

/-- Put a text in front of the first line. -/
def inFront (text : String) : List String → List String
  | [] => [text]
  | line :: rest => (text ++ line) :: rest

/-- A part of a record. -/
def field (name : String) (value : List String) : List String :=
  behind "," (inFront (name ++ ": ") value)

/-- A record. -/
def record (name : String) (fields : List (List String)) : List String :=
  block (name ++ " \x7b") fields.flatten "\x7d"

/-- A value inside a name and parentheses. -/
def wrapped (name : String) (value : List String) : List String :=
  block (name ++ "(") (behind "," value) ")"

/-- A list. -/
def list (items : List (List String)) : List String :=
  if items.isEmpty then ["[]"] else block "[" (items.map (behind ",")).flatten "]"

/-- A number. -/
def number (value : Nat) : List String :=
  [Numeral.decimal value]

/-- A truth value. -/
def truth (value : Bool) : List String :=
  [if value then "true" else "false"]

/-- A number that may be missing. -/
def optional : Option Nat → List String
  | some value => wrapped "Some" (number value)
  | none => ["None"]

end Describe

open Describe

/-- The lines that describe a key event. -/
def KeyEvent.describe (event : KeyEvent) : List String :=
  record "InputEvent" [
    field "at_step" (number event.atStep),
    field "key" [event.key.longName],
    field "pressed" (truth event.pressed)]

/-- The lines that describe the setup of the machine. -/
def MachineConfig.describe (config : MachineConfig) : List String :=
  record "Chip8Conf" [
    field "seed" (optional config.seed),
    field "stack_limit" (optional config.stackLimit)]

/-- The lines that describe a configuration. -/
def RunConfig.describe (config : RunConfig) : List String :=
  record "RunConfig" [
    field "cpu_frequency" (wrapped "Hz" (number config.cpuFrequency)),
    field "timer_frequency" (wrapped "Hz" (number config.timerFrequency)),
    field "duration_ms" (number config.durationMs),
    field "max_steps" (optional config.maxSteps),
    field "throttle" (truth config.throttle),
    field "vm" config.machine.describe,
    field "input" (list (config.input.map KeyEvent.describe))]

end ChipEight
