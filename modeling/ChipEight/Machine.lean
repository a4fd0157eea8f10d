import ChipEight.Memory
import ChipEight.Screen
import ChipEight.Keypad
import ChipEight.Instruction

/-!
# The machine

The state of the machine is its memory, screen, keypad, sixteen registers of
one byte, an index register and a program counter of sixteen bits, two timers,
and the stack of return addresses.  The program counter and the index register
hold sixteen bits but reach memory only through reduced addresses.

A program is loaded as a whole or not at all, and nothing but its bytes
changes.  Timers count down to zero and stay there.
-/

namespace ChipEight

/-- Why a program is not loaded. -/
inductive LoadError where
  | emptyProgram
  /-- The program has more bytes than fit. -/
  | largeProgram (size : Nat)
deriving DecidableEq

/-- The state of the machine. -/
structure Machine where
  memory : Memory
  /-- The picture. -/
  screen : Screen
  /-- The keys that are down. -/
  keypad : Keypad
  /-- The general registers `V0` to `VF`. -/
  registers : Vector UInt8 16
  index : UInt16
  /-- The address of the next word. -/
  counter : UInt16
  delay : UInt8
  /-- The sound timer; the buzzer is on while it is not zero. -/
  sound : UInt8
  /-- Return addresses, the oldest first. -/
  stack : Array UInt16
deriving DecidableEq

namespace Machine

/-- The machine after power-on: the font in memory, and the program counter at
the start of the program. -/
def initial : Machine where
  memory := Memory.initial
  screen := Screen.blank
  keypad := Keypad.released
  registers := Vector.replicate 16 0
  index := 0
  counter := UInt16.ofNat programStart
  delay := 0
  sound := 0
  stack := #[]

/-- Copy a program to the start of program memory. -/
def load (machine : Machine) (program : List UInt8) : Except LoadError Machine :=
  if program.isEmpty then .error .emptyProgram
  else if programLimit < program.length then .error (.largeProgram program.length)
  else .ok { machine with memory := machine.memory.writeAll programStart program }

/-! ## Registers and control -/

/-- The value of a general register. -/
def register (machine : Machine) (register : Register) : UInt8 :=
  machine.registers[register]

/-- Put a value into a general register. -/
def setRegister (machine : Machine) (register : Register) (value : UInt8) : Machine :=
  { machine with registers := machine.registers.set register value }

/-- Putting a value into a register leaves the others alone. -/
theorem register_setRegister (machine : Machine) (changed other : Register) (value : UInt8) :
    (machine.setRegister changed value).register other =
      if changed = other then value else machine.register other := by
  simp [register, setRegister, Vector.getElem_set, Fin.ext_iff]

/-- Put zero or one into the flag register. -/
def setFlag (machine : Machine) (flag : Bool) : Machine :=
  machine.setRegister flagRegister (if flag then 1 else 0)

/-- The word at the program counter; both of its bytes wrap around memory. -/
def currentWord (machine : Machine) : Word :=
  Word.ofBytes (machine.memory.read machine.counter.toNat)
    (machine.memory.read (machine.counter.toNat + 1))

/-- Move the program counter past one word. -/
def advance (machine : Machine) : Machine :=
  { machine with counter := machine.counter + 2 }

/-- Move the program counter past one more word if the condition holds. -/
def skipIf (machine : Machine) (condition : Bool) : Machine :=
  if condition then machine.advance else machine

/-! ## Timers and keys -/

/-- Count both timers down by one, not below zero. -/
def tick (machine : Machine) : Machine :=
  { machine with
    delay := if machine.delay = 0 then 0 else machine.delay - 1
    sound := if machine.sound = 0 then 0 else machine.sound - 1 }

/-- Whether the buzzer is on. -/
def buzzer (machine : Machine) : Bool :=
  machine.sound != 0

/-- Press or release the key with the given number. -/
def setKey (machine : Machine) (number : Nat) (pressed : Bool) : Machine :=
  { machine with keypad := machine.keypad.set number pressed }

/-- Release all keys. -/
def releaseKeys (machine : Machine) : Machine :=
  { machine with keypad := Keypad.released }

/-! ## Reset -/

/-- Erase memory, the stack and the picture. -/
def erase (machine : Machine) : Machine :=
  { machine with
    memory := Memory.zero
    stack := #[]
    screen := Screen.blank }

/-- Copy the font to the start of memory. -/
def loadFont (machine : Machine) : Machine :=
  { machine with memory := machine.memory.writeAll 0 Memory.font }

/-- Bring the machine back to its state after power-on, one component after the
other. -/
def reset (machine : Machine) : Machine :=
  { machine.erase.loadFont with
    counter := UInt16.ofNat programStart
    registers := Vector.replicate 16 0
    index := 0
    delay := 0
    sound := 0 }.releaseKeys

/-- Nothing of the old state survives. -/
theorem reset_eq_initial (machine : Machine) : machine.reset = initial :=
  rfl

/-- The program changes when it has the right size, and nothing else does. -/
theorem load_eq_ok_iff (machine after : Machine) (program : List UInt8) :
    machine.load program = .ok after ↔
      1 ≤ program.length ∧ program.length ≤ programLimit ∧
        after = { machine with memory := machine.memory.writeAll programStart program } := by
  unfold load
  cases program with
  | nil => simp
  | cons byte rest =>
    simp only [List.isEmpty_cons, Bool.false_eq_true, if_false]
    split
    · simp only [reduceCtorEq, false_iff]
      omega
    · simp only [Except.ok.injEq, List.length_cons]
      constructor
      · rintro rfl
        exact ⟨by omega, by simp only [List.length_cons] at *; omega, rfl⟩
      · rintro ⟨_, _, rfl⟩
        rfl

end Machine
end ChipEight
