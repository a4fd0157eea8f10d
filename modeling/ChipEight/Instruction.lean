/-!
# Instruction words and instructions

Programs are sequences of words of sixteen bits, the high byte first.  The
fields of a word are cut out of it by position: the group is the first
hexadecimal digit, `x` the second, `y` the third, `n` the last, `nn` the last
two and `nnn` the last three.

An instruction is what a word means: an operation together with exactly those
operands that the operation uses.
-/

namespace ChipEight

/-- The name of one of the sixteen general registers. -/
abbrev Register := Fin 16

namespace Register

/-- There are registers, so that numbers name registers. -/
scoped instance countNeZero : @NeZero Nat Zero.ofOfNat0 16 :=
  Nat.instNeZeroSucc

end Register

open Register

/-- The register that arithmetic and drawing use as a flag. -/
def flagRegister : Register := 15

/-- A word of a program. -/
structure Word where
  value : UInt16
deriving DecidableEq

namespace Word

/-! ## Fields -/

/-- The word with the given high and low byte. -/
def ofBytes (high low : UInt8) : Word :=
  ⟨UInt16.ofNat (256 * high.toNat + low.toNat)⟩

/-- The first hexadecimal digit. -/
def group (word : Word) : Fin 16 :=
  Fin.ofNat 16 (word.value.toNat / 4096)

/-- The second hexadecimal digit, mostly a register. -/
def x (word : Word) : Register :=
  Fin.ofNat 16 (word.value.toNat / 256)

/-- The third hexadecimal digit, mostly a register. -/
def y (word : Word) : Register :=
  Fin.ofNat 16 (word.value.toNat / 16)

/-- The last hexadecimal digit. -/
def n (word : Word) : Fin 16 :=
  Fin.ofNat 16 word.value.toNat

/-- The low byte. -/
def nn (word : Word) : UInt8 :=
  UInt8.ofNat word.value.toNat

/-- The last three hexadecimal digits, mostly an address. -/
def nnn (word : Word) : Fin 4096 :=
  Fin.ofNat 4096 word.value.toNat

/-- What tells the instructions of one group apart: the low byte in groups
`0`, `E` and `F`, the last digit in group `8`, and nothing elsewhere. -/
def selector (word : Word) : UInt8 :=
  match word.group with
  | 0 | 14 | 15 => word.nn
  | 8 => UInt8.ofNat word.n.val
  | _ => 0

end Word

/-- The operations of the machine with their operands. -/
inductive Instruction where
  /-- Turn every pixel off. -/
  | clearScreen
  | ret
  /-- Continue at an address. -/
  | jump (target : Fin 4096)
  /-- Call the subroutine at an address. -/
  | call (target : Fin 4096)
  /-- Skip the next word if a register holds a value. -/
  | skipIfEqual (x : Register) (value : UInt8)
  /-- Skip the next word unless a register holds a value. -/
  | skipUnlessEqual (x : Register) (value : UInt8)
  /-- Skip the next word if two registers are equal. -/
  | skipIfSame (x y : Register)
  /-- Put a value into a register. -/
  | load (x : Register) (value : UInt8)
  /-- Add a value to a register, without a flag. -/
  | add (x : Register) (value : UInt8)
  /-- Copy the second register to the first. -/
  | copy (x y : Register)
  | orWith (x y : Register)
  | andWith (x y : Register)
  | xorWith (x y : Register)
  /-- Add the second register to the first; the flag is the carry. -/
  | addRegister (x y : Register)
  /-- Subtract the second register from the first; the flag is set if there is
  no borrow. -/
  | subtract (x y : Register)
  /-- Halve a register; the flag is the bit shifted out. -/
  | shiftRight (x : Register)
  /-- Subtract the first register from the second, into the first; the flag is
  set if there is no borrow. -/
  | subtractFrom (x y : Register)
  /-- Double a register; the flag is the bit shifted out. -/
  | shiftLeft (x : Register)
  /-- Skip the next word unless two registers are equal. -/
  | skipUnlessSame (x y : Register)
  /-- Put an address into the index register. -/
  | setIndex (address : Fin 4096)
  /-- Continue at an address plus the register `V0`. -/
  | jumpOffset (target : Fin 4096)
  /-- Put a random byte, masked, into a register. -/
  | random (x : Register) (mask : UInt8)
  /-- Draw a sprite of the given height at the place that two registers hold. -/
  | draw (x y : Register) (height : Fin 16)
  /-- Skip the next word if the key that a register names is down. -/
  | skipIfDown (x : Register)
  /-- Skip the next word unless the key that a register names is down. -/
  | skipUnlessDown (x : Register)
  | readDelay (x : Register)
  /-- Wait until a key is down and read it. -/
  | awaitKey (x : Register)
  | setDelay (x : Register)
  | setSound (x : Register)
  /-- Add a register to the index register. -/
  | addIndex (x : Register)
  /-- Point the index register at the glyph of a digit. -/
  | pointAtGlyph (x : Register)
  /-- Store the three decimal digits of a register. -/
  | storeDecimal (x : Register)
  /-- Store the registers from `V0` up to a register. -/
  | storeRegisters (x : Register)
  /-- Load the registers from `V0` up to a register. -/
  | loadRegisters (x : Register)
deriving DecidableEq

end ChipEight
