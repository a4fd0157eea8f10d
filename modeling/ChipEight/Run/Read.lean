import ChipEight.Run.Config
import ChipEight.Yaml.Decode

/-!
# Reading a run configuration

A configuration is a mapping.  All its keys are optional, and a key that is
missing has its default.  The document and the setup of the machine may have no
other keys and no key twice; a key event may have other keys, which are not
looked at, and has the keys `at_step` and `key`.

An error at a key, be it unknown, repeated or missing, is reported at the
mapping; an error at a value, at the value.
-/

namespace ChipEight

open Yaml

/-! ## Keys of the pad -/

/-- The fault of a number that names no key.  The number is reported as it is. -/
def Key.outOfRange (number : Int) : DataFault :=
  .wrongValue (.integer number) Key.rangeMessage

/-- The key that a word with a sign is the number of.  The word is cut down to its
lowest byte, and only if that keeps the number. -/
def Key.ofSigned (word : Int64) : Except DataFault Key :=
  if word < 0 || 255 < word then .error (outOfRange word.toInt)
  else
    match Key.ofNat? word.toUInt64.toUInt8.toNat with
    | some key => .ok key
    | none => .error (outOfRange word.toInt)

/-- The key that a word without a sign is the number of.  The word is taken as one
with a sign, and only if that keeps the number. -/
def Key.ofUnsigned (word : UInt64) : Except DataFault Key :=
  if 255 < word then .error (outOfRange word.toNat) else ofSigned word.toInt64

/-- The key of the pad with a number that has been handed over. -/
def Key.ofNumber : WholeNumber → Except DataFault Key
  | .signed word => ofSigned word
  | .unsigned word => ofUnsigned word

/-- A key of the pad is written as its number. -/
def Key.read (place : Place) : Reading Key := do
  match Key.ofNumber (← place.integer "an integer between 0 and 15") with
  | .error fault => place.fail fault
  | .ok key => return key

/-- Keys of the pad are written as a list. -/
def Key.readList (document : Document) : Except DecodeError (List Key) :=
  document.decode (·.list Key.read)

/-! ## Records in the making -/

/-- Read a value that a record may have once, unless the record has it. -/
def readOnce {α : Type} (owner : Path) (name : String) (present : Option α)
    (value : Reading α) : Reading α :=
  match present with
  | some _ => throw (.data owner (.repeatedKey name))
  | none => value

namespace KeyEvent

/-- A key event of which not all keys have been read. -/
structure Draft where
  atStep : Option Nat
  key : Option Key
  pressed : Option Bool

/-- Take one entry into a key event.  Other keys than the three are not looked
at. -/
def take (owner : Path) (draft : Draft) (name : String) (place : Place) :
    Reading Draft :=
  match name with
  | "at_step" => do
    let value ← readOnce owner name draft.atStep (place.natural "u64")
    return { draft with atStep := some value }
  | "key" => do
    let value ← readOnce owner name draft.key (Key.read place)
    return { draft with key := some value }
  | "pressed" => do
    let value ← readOnce owner name draft.pressed place.truth
    return { draft with pressed := some value }
  | _ => return draft

/-- A key event with all that it needs; unless it says otherwise, the key is
pressed. -/
def finish (owner : Path) (draft : Draft) : Reading KeyEvent :=
  match draft.atStep, draft.key with
  | some atStep, some key => return ⟨atStep, key, draft.pressed.getD true⟩
  | none, _ => throw (.data owner (.missingKey "at_step"))
  | _, none => throw (.data owner (.missingKey "key"))

/-- Read a key event. -/
def read (place : Place) : Reading KeyEvent := do
  let entries ← place.entries "struct InputEvent"
  finish place.path (← place.foldEntries (take place.path) ⟨none, none, none⟩ entries)

end KeyEvent

namespace MachineConfig

/-- The keys of the setup of the machine. -/
def keyNames : List String :=
  ["seed", "stack_limit"]

/-- A setup of which not all keys have been read. -/
structure Draft where
  seed : Option (Option Nat)
  stackLimit : Option (Option Nat)

/-- Take one entry into a setup. -/
def take (owner : Path) (draft : Draft) (name : String) (place : Place) :
    Reading Draft :=
  match name with
  | "seed" => do
    let value ← readOnce owner name draft.seed (place.optional (·.natural "u64"))
    return { draft with seed := some value }
  | "stack_limit" => do
    let value ← readOnce owner name draft.stackLimit (place.optional (·.natural "usize"))
    return { draft with stackLimit := some value }
  | _ => throw (.data owner (.unknownKey name keyNames))

/-- The setup, with defaults for what is missing. -/
def finish (draft : Draft) : MachineConfig :=
  ⟨draft.seed.getD default.seed, draft.stackLimit.getD default.stackLimit⟩

/-- Read the setup of the machine. -/
def read (place : Place) : Reading MachineConfig := do
  let entries ← place.entries "struct Chip8Conf"
  return finish (← place.foldEntries (take place.path) ⟨none, none⟩ entries)

end MachineConfig

namespace RunConfig

/-- The keys of a configuration. -/
def keyNames : List String :=
  ["cpu_frequency", "timer_frequency", "duration_ms", "max_steps", "throttle", "vm", "input"]

/-- A configuration of which not all keys have been read. -/
structure Draft where
  cpuFrequency : Option Nat
  timerFrequency : Option Nat
  durationMs : Option Nat
  maxSteps : Option (Option Nat)
  throttle : Option Bool
  machine : Option MachineConfig
  input : Option (List KeyEvent)

namespace Draft

/-- Nothing has been read. -/
def empty : Draft :=
  ⟨none, none, none, none, none, none, none⟩

end Draft

/-- Take one entry into a configuration. -/
def take (owner : Path) (draft : Draft) (name : String) (place : Place) :
    Reading Draft :=
  match name with
  | "cpu_frequency" => do
    let value ← readOnce owner name draft.cpuFrequency (place.natural "u64")
    return { draft with cpuFrequency := some value }
  | "timer_frequency" => do
    let value ← readOnce owner name draft.timerFrequency (place.natural "u64")
    return { draft with timerFrequency := some value }
  | "duration_ms" => do
    let value ← readOnce owner name draft.durationMs (place.natural "u64")
    return { draft with durationMs := some value }
  | "max_steps" => do
    let value ← readOnce owner name draft.maxSteps (place.optional (·.natural "u64"))
    return { draft with maxSteps := some value }
  | "throttle" => do
    let value ← readOnce owner name draft.throttle place.truth
    return { draft with throttle := some value }
  | "vm" => do
    let value ← readOnce owner name draft.machine (MachineConfig.read place)
    return { draft with machine := some value }
  | "input" => do
    let value ← readOnce owner name draft.input (place.list KeyEvent.read)
    return { draft with input := some value }
  | _ => throw (.data owner (.unknownKey name keyNames))

/-- The configuration, with defaults for what is missing. -/
def finish (draft : Draft) : RunConfig where
  cpuFrequency := draft.cpuFrequency.getD default.cpuFrequency
  timerFrequency := draft.timerFrequency.getD default.timerFrequency
  durationMs := draft.durationMs.getD default.durationMs
  maxSteps := draft.maxSteps.getD default.maxSteps
  throttle := draft.throttle.getD default.throttle
  machine := draft.machine.getD default.machine
  input := draft.input.getD default.input

/-- Read a configuration as it is written. -/
def readPlace (place : Place) : Reading RunConfig := do
  let entries ← place.entries "struct RunConfig"
  return finish (← place.foldEntries (take place.path) Draft.empty entries)

end RunConfig

/-- Why a configuration is not used. -/
inductive ConfigError where
  | unreadable (error : DecodeError)
  | refused (refusal : ConfigRefusal)
deriving DecidableEq

namespace RunConfig

/-- Read a configuration and check its bounds. -/
def ofDocument (document : Document) : Except ConfigError RunConfig :=
  match document.decode readPlace with
  | .error error => .error (.unreadable error)
  | .ok config =>
    match config.accept with
    | .error refusal => .error (.refused refusal)
    | .ok config => .ok config

end RunConfig
end ChipEight
