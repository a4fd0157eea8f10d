import ChipEight.Clock
import ChipEight.Keypad

/-!
# Run configurations

How long and how fast a program runs, which keys are pressed when, and how the
machine is set up.  Numbers that a configuration is accepted with are bounded,
so that nothing that is computed during a run reaches `2 ^ 64`: the number of
ticks, the instructions owed in any tick, and all counters.
-/

namespace ChipEight

/-- The number of values of an unsigned word of 64 bits. -/
def wordBound : Nat := 1 <<< 64

/-- A key that is pressed or released at a given moment. -/
structure KeyEvent where
  /-- How many instructions have been executed before. -/
  atStep : Nat
  key : Key
  pressed : Bool
deriving DecidableEq

/-- How the machine is set up. -/
structure MachineConfig where
  /-- Seed of the random source; without one the host is asked. -/
  seed : Option Nat
  /-- Greatest depth of the stack, if there is one. -/
  stackLimit : Option Nat
deriving DecidableEq

/-- What a run is told. -/
structure RunConfig where
  /-- Instructions per second of emulated time. -/
  cpuFrequency : Nat
  /-- Timer ticks per second of emulated time. -/
  timerFrequency : Nat
  /-- Length of the run in milliseconds of emulated time. -/
  durationMs : Nat
  /-- Greatest number of instructions, if there is one. -/
  maxSteps : Option Nat
  throttle : Bool
  machine : MachineConfig
  /-- The keys, in the order in which they are applied. -/
  input : List KeyEvent
deriving DecidableEq

namespace MachineConfig

/-- Neither a seed nor a limit. -/
def default : MachineConfig :=
  ⟨none, none⟩

end MachineConfig

/-- Why a configuration that could be read is not accepted. -/
inductive ConfigRefusal where
  | timerStopped
  /-- The number of ticks has no bound. -/
  | durationTooLarge
  /-- The instructions owed in a tick have no bound. -/
  | cpuTooFast
deriving DecidableEq

namespace ConfigRefusal

/-- The refusal in words. -/
def message : ConfigRefusal → String
  | timerStopped => "timer_frequency must be greater than zero"
  | durationTooLarge => "duration_ms is too large for timer_frequency"
  | cpuTooFast => "cpu_frequency is too large"

end ConfigRefusal

namespace RunConfig

/-- One second at a thousand instructions and sixty ticks per second. -/
def default : RunConfig where
  cpuFrequency := 1000
  timerFrequency := 60
  durationMs := 1000
  maxSteps := none
  throttle := false
  machine := MachineConfig.default
  input := []

/-- Number of whole ticks in the duration of the run. -/
def tickCount (config : RunConfig) : Nat :=
  config.durationMs * config.timerFrequency / 1000

/-- Greatest number of instructions of the run. -/
def stepLimit (config : RunConfig) : Nat :=
  config.maxSteps.getD (wordBound - 1)

/-- The key events in the order of their moments; events of one moment keep
their order. -/
def sortInput (config : RunConfig) : RunConfig :=
  { config with input := config.input.mergeSort fun a b => a.atStep ≤ b.atStep }

/-- The first bound that the numbers of a configuration break, if any. -/
def refusal? (config : RunConfig) : Option ConfigRefusal :=
  if config.timerFrequency = 0 then some .timerStopped
  else if wordBound ≤ config.durationMs * config.timerFrequency then some .durationTooLarge
  else if wordBound ≤ config.cpuFrequency + config.timerFrequency then some .cpuTooFast
  else none

/-- Accept a configuration whose numbers are within bounds, with its key events
in order. -/
def accept (config : RunConfig) : Except ConfigRefusal RunConfig :=
  match config.refusal? with
  | some refusal => .error refusal
  | none => .ok config.sortInput

theorem refusal?_eq_none_iff (config : RunConfig) :
    config.refusal? = none ↔
      0 < config.timerFrequency ∧
        config.durationMs * config.timerFrequency < wordBound ∧
        config.cpuFrequency + config.timerFrequency < wordBound := by
  unfold refusal?
  split
  · simp_all
  · split
    · simp only [reduceCtorEq, false_iff]
      omega
    · split
      · simp only [reduceCtorEq, false_iff]
        omega
      · simp only [true_iff]
        omega

end RunConfig
end ChipEight
