import ChipEight.Instruction.Form
import ChipEight.Log
import ChipEight.Machine.Execute
import ChipEight.Random

/-!
# The interpreter

An interpreter is a machine together with a random source and a limit for the
stack.  A step fetches the word at the program counter, moves the counter past
it, and executes the instruction that the word means.  A word without a
meaning is skipped.  The random source is drawn from once for each instruction
that asks for a random byte, and never otherwise; a reset does not touch it.

The notices say what an operation writes to the log.
-/

namespace ChipEight

/-- A machine with what it needs to run. -/
structure Interpreter (σ : Type) where
  machine : Machine
  /-- The random source. -/
  source : σ
  /-- The greatest depth of the stack, if there is one. -/
  limit : Option Nat

namespace Instruction

/-- Whether the instruction asks for a random byte. -/
def drawsRandom : Instruction → Bool
  | .random _ _ => true
  | _ => false

end Instruction

/-! ## Messages -/

namespace LoadError

/-- The error in words. -/
def message : LoadError → String
  | emptyProgram => "program is empty"
  | largeProgram size =>
    "program too large for VM memory: " ++ Numeral.decimal size ++ " bytes, maximum is "
      ++ Numeral.decimal programLimit

end LoadError

namespace Fault

/-- The fault in words. -/
def message : Fault → String
  | stackUnderflow counter =>
    "runtime error: call stack underflow at 0x" ++ Numeral.hex 4 counter.toNat
  | stackOverflow counter =>
    "runtime error: call stack overflow at 0x" ++ Numeral.hex 4 counter.toNat

end Fault

/-- What an operation of the interpreter writes to the log. -/
inductive Notice where
  /-- A program has been loaded. -/
  | loaded (size : Nat)
  /-- The machine has been reset. -/
  | reset
  /-- A word without a meaning is skipped. -/
  | skipped (address : UInt16) (word : Word)
  /-- An instruction is about to be executed. -/
  | executing (address : UInt16) (word : Word) (mnemonic : String)
  /-- An instruction has failed. -/
  | failed (fault : Fault)
deriving DecidableEq

namespace Notice

/-- Instructions are traced; everything else is for debugging. -/
def level : Notice → LogLevel
  | executing _ _ _ => .trace
  | _ => .debug

/-- The notice in words. -/
def text : Notice → String
  | loaded size => "loaded program of " ++ Numeral.decimal size ++ " bytes"
  | reset => "reset"
  | skipped address word =>
    "skipping unknown instruction " ++ word.text ++ " at 0x" ++ Numeral.hex 4 address.toNat
  | executing address word mnemonic =>
    Numeral.hex 4 address.toNat ++ ": " ++ word.text ++ " " ++ Numeral.padRight 4 mnemonic
  | failed fault => fault.message

/-- The notice as a line of the log. -/
def line (notice : Notice) : LogLine :=
  ⟨notice.level, notice.text⟩

end Notice

namespace Interpreter

variable {σ : Type}

/-- An interpreter whose machine has just been switched on. -/
def new (source : σ) (limit : Option Nat) : Interpreter σ :=
  ⟨Machine.initial, source, limit⟩

/-- Apply a change to the machine alone. -/
def onMachine (interpreter : Interpreter σ) (change : Machine → Machine) : Interpreter σ :=
  { interpreter with machine := change interpreter.machine }

theorem source_onMachine (interpreter : Interpreter σ) (change : Machine → Machine) :
    (interpreter.onMachine change).source = interpreter.source :=
  rfl

theorem limit_onMachine (interpreter : Interpreter σ) (change : Machine → Machine) :
    (interpreter.onMachine change).limit = interpreter.limit :=
  rfl

/-- Bring the machine back to its state after power-on. -/
def reset (interpreter : Interpreter σ) : Interpreter σ :=
  interpreter.onMachine Machine.reset

/-- Load a program into the machine. -/
def load (interpreter : Interpreter σ) (program : List UInt8) :
    Except LoadError (Interpreter σ) :=
  match interpreter.machine.load program with
  | .ok machine => .ok { interpreter with machine }
  | .error error => .error error

/-! ## Steps -/

variable [RandomSource σ]

/-- The random byte for an instruction and the source after it.  Nothing is
drawn for an instruction that does not ask. -/
def noiseFor (source : σ) (instruction : Instruction) : UInt8 × σ :=
  if instruction.drawsRandom then RandomSource.nextByte source else (0, source)

/-- Execute one instruction. -/
def step (interpreter : Interpreter σ) : Except Fault Flow × Interpreter σ :=
  let machine := interpreter.machine.advance
  match interpreter.machine.currentWord.decode with
  | none => (.ok .plain, { interpreter with machine })
  | some instruction =>
    let (noise, source) := noiseFor interpreter.source instruction
    let (result, machine) := machine.execute interpreter.limit noise instruction
    (result, { interpreter with machine, source })

/-- Go on executing after a step with the flow `last`. -/
def runOn (last : Flow) : Nat → Interpreter σ → Except Fault Flow × Interpreter σ
  | 0, interpreter => (.ok last, interpreter)
  | count + 1, interpreter =>
    match interpreter.step with
    | (.ok flow, after) => runOn flow count after
    | (.error fault, after) => (.error fault, after)

/-- Execute `count` instructions, or fewer if one fails.  Answers the flow of
the last one. -/
def run (count : Nat) (interpreter : Interpreter σ) : Except Fault Flow × Interpreter σ :=
  runOn .plain count interpreter

/-! ## The log -/

/-- What the log says before the next step. -/
def announcement (interpreter : Interpreter σ) : Notice :=
  let word := interpreter.machine.currentWord
  match word.form? with
  | some form => .executing interpreter.machine.counter word form.mnemonic
  | none => .skipped interpreter.machine.counter word

/-- What `run` writes to the log. -/
def runNotices (interpreter : Interpreter σ) : Nat → List Notice
  | 0 => []
  | count + 1 =>
    interpreter.announcement ::
      match interpreter.step with
      | (.ok _, after) => after.runNotices count
      | (.error fault, _) => [.failed fault]

end Interpreter
end ChipEight
