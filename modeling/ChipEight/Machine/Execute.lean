import ChipEight.Machine

/-!
# Executing an instruction

What an instruction does to the machine, once the program counter has been
moved past its word.  The answer says what kind of thing happened, so that
whoever drives the machine can react, or why the instruction failed.

Only a return with an empty stack and a call at the stack limit fail, and they
leave the machine as it is.  Arithmetic writes the flag before the result, so
when the result goes to the flag register the result stays.  The operands are
always the values from before the instruction.
-/

namespace ChipEight

open Register

/-- What kind of thing an instruction did. -/
inductive Flow where
  /-- Nothing that others need to know. -/
  | plain
  /-- The program counter has been set. -/
  | jump
  /-- The picture may have changed. -/
  | draw
  /-- The sound timer has been set. -/
  | sound
  /-- The machine waits for a key. -/
  | keyWait
deriving DecidableEq

/-- Why an instruction failed.  The address is that of the next word. -/
inductive Fault where
  /-- A return with nothing on the stack. -/
  | stackUnderflow (counter : UInt16)
  /-- A call with the stack at its limit. -/
  | stackOverflow (counter : UInt16)
deriving DecidableEq

namespace Machine

/-- Arithmetic on a register with a flag: the flag first, then the result. -/
def setWithFlag (machine : Machine) (x : Register) (result : UInt8) (flag : Bool) : Machine :=
  (machine.setFlag flag).setRegister x result

/-- Return to the address on top of the stack. -/
def returnFromCall (machine : Machine) : Except Fault Flow × Machine :=
  match machine.stack.back? with
  | some address => (.ok .jump, { machine with counter := address, stack := machine.stack.pop })
  | none => (.error (.stackUnderflow machine.counter), machine)

/-- Whether the stack may not grow any more. -/
def atLimit (machine : Machine) : Option Nat → Bool
  | some limit => limit ≤ machine.stack.size
  | none => false

/-- Call the subroutine at an address. -/
def callAt (machine : Machine) (limit : Option Nat) (target : UInt16) :
    Except Fault Flow × Machine :=
  if machine.atLimit limit then (.error (.stackOverflow machine.counter), machine)
  else
    (.ok .jump, { machine with
      counter := target
      stack := machine.stack.push machine.counter })

/-- Draw the sprite at the index register; the flag tells whether a pixel went
off. -/
def drawSprite (machine : Machine) (x y : UInt8) (height : Nat) : Machine :=
  let sprite := machine.memory.readAll machine.index.toNat height
  let (screen, erased) := machine.screen.draw x.toNat y.toNat sprite
  { machine with screen }.setFlag erased

/-- Read the lowest key that is down, or step back to the same word. -/
def readKey (machine : Machine) (x : Register) : Except Fault Flow × Machine :=
  match machine.keypad.first? with
  | some key => (.ok .plain, machine.setRegister x (UInt8.ofNat key.val))
  | none => (.ok .keyWait, { machine with counter := machine.counter - 2 })

/-- The three decimal digits of a byte. -/
def decimalDigits (value : UInt8) : List UInt8 :=
  [value / 100 % 10, value / 10 % 10, value % 10]

/-- Move the index register past the bytes of the registers up to `x`. -/
def passRegisters (machine : Machine) (x : Register) : Machine :=
  { machine with index := machine.index + UInt16.ofNat (x.val + 1) }

/-- Store the registers up to `x` from the index register on. -/
def storeRegisters (machine : Machine) (x : Register) : Machine :=
  let values := machine.registers.toList.take (x.val + 1)
  { machine with
    memory := machine.memory.writeAll machine.index.toNat values }.passRegisters x

/-- Load the registers up to `x` from the index register on. -/
def loadRegisters (machine : Machine) (x : Register) : Machine :=
  { machine with
    registers := Vector.ofFn fun register =>
      if register ≤ x then machine.memory.read (machine.index.toNat + register.val)
      else machine.register register }.passRegisters x

/-- What an instruction does.  `limit` bounds the stack if it is given, and
`noise` is the random byte, looked at only by the instruction that wants one. -/
def execute (machine : Machine) (limit : Option Nat) (noise : UInt8) :
    Instruction → Except Fault Flow × Machine
  | .clearScreen => (.ok .draw, { machine with screen := Screen.blank })
  | .ret => machine.returnFromCall
  | .jump target => (.ok .jump, { machine with counter := UInt16.ofNat target.val })
  | .call target => machine.callAt limit (UInt16.ofNat target.val)
  | .skipIfEqual x value => (.ok .plain, machine.skipIf (machine.register x == value))
  | .skipUnlessEqual x value => (.ok .plain, machine.skipIf (machine.register x != value))
  | .skipIfSame x y => (.ok .plain, machine.skipIf (machine.register x == machine.register y))
  | .load x value => (.ok .plain, machine.setRegister x value)
  | .add x value => (.ok .plain, machine.setRegister x (machine.register x + value))
  | .copy x y => (.ok .plain, machine.setRegister x (machine.register y))
  | .orWith x y =>
    (.ok .plain, machine.setRegister x (machine.register x ||| machine.register y))
  | .andWith x y =>
    (.ok .plain, machine.setRegister x (machine.register x &&& machine.register y))
  | .xorWith x y =>
    (.ok .plain, machine.setRegister x (machine.register x ^^^ machine.register y))
  | .addRegister x y =>
    let a := machine.register x
    let b := machine.register y
    (.ok .plain, machine.setWithFlag x (a + b) (a + b < a))
  | .subtract x y =>
    let a := machine.register x
    let b := machine.register y
    (.ok .plain, machine.setWithFlag x (a - b) (b ≤ a))
  | .shiftRight x =>
    let a := machine.register x
    (.ok .plain, machine.setWithFlag x (a >>> 1) (a % 2 == 1))
  | .subtractFrom x y =>
    let a := machine.register x
    let b := machine.register y
    (.ok .plain, machine.setWithFlag x (b - a) (a ≤ b))
  | .shiftLeft x =>
    let a := machine.register x
    (.ok .plain, machine.setWithFlag x (a <<< 1) (128 ≤ a))
  | .skipUnlessSame x y =>
    (.ok .plain, machine.skipIf (machine.register x != machine.register y))
  | .setIndex address => (.ok .plain, { machine with index := UInt16.ofNat address.val })
  | .jumpOffset target =>
    (.ok .jump, { machine with
      counter := UInt16.ofNat (target.val + (machine.register 0).toNat) })
  | .random x mask => (.ok .plain, machine.setRegister x (mask &&& noise))
  | .draw x y height =>
    (.ok .draw, machine.drawSprite (machine.register x) (machine.register y) height.val)
  | .skipIfDown x =>
    (.ok .plain, machine.skipIf (machine.keypad.isDown (machine.register x).toNat))
  | .skipUnlessDown x =>
    (.ok .plain, machine.skipIf (!machine.keypad.isDown (machine.register x).toNat))
  | .readDelay x => (.ok .plain, machine.setRegister x machine.delay)
  | .awaitKey x => machine.readKey x
  | .setDelay x => (.ok .plain, { machine with delay := machine.register x })
  | .setSound x => (.ok .sound, { machine with sound := machine.register x })
  | .addIndex x =>
    (.ok .plain, { machine with index := machine.index + (machine.register x).toUInt16 })
  | .pointAtGlyph x =>
    (.ok .plain, { machine with
      index := UInt16.ofNat ((machine.register x).toNat * Memory.glyphHeight) })
  | .storeDecimal x =>
    (.ok .plain, { machine with
      memory := machine.memory.writeAll machine.index.toNat
        (decimalDigits (machine.register x)) })
  | .storeRegisters x => (.ok .plain, machine.storeRegisters x)
  | .loadRegisters x => (.ok .plain, machine.loadRegisters x)

end Machine
end ChipEight
