import ChipEight.Instruction
import ChipEight.Text.Numeral

/-!
# The instruction table

A form is one row of the table of instructions: which words it covers, how it
is commonly written, its mnemonic, the layout of its operands in assembly text,
and the instruction that a word of this form means.  Decoding a word and
listing it both go through this table, so what is listed is what is executed.

Words that no form covers mean nothing.  Groups `0`, `E` and `F` select on the
low byte alone, so the second digit of a word of group `0` is not looked at.
-/

namespace ChipEight

open Register

/-- How the operands of a form are written. -/
inductive Layout where
  /-- Nothing. -/
  | none
  /-- An address. -/
  | address
  /-- The register `V0` and an address. -/
  | offsetAddress
  /-- The index register and an address. -/
  | indexAddress
  /-- A register and a value. -/
  | registerByte
  /-- Two registers. -/
  | registerPair
  /-- Two registers and a height. -/
  | registerPairNibble
  /-- One register. -/
  | register
  /-- A register and the name of what it is filled from. -/
  | registerFrom (source : String)
  /-- The name of what is filled and a register. -/
  | intoRegister (target : String)
deriving DecidableEq

namespace Layout

/-- The operands of a word in assembly text, piece by piece.  A blank stands in
front of the first, and a comma and a blank in front of each other one.  A register
is `V` and its digit, a byte has two hexadecimal digits and an address three. -/
def pieces (word : Word) : Layout → List String
  | none => []
  | address => " 0x" :: Numeral.hexPieces 3 word.nnn.val
  | offsetAddress => " V0, 0x" :: Numeral.hexPieces 3 word.nnn.val
  | indexAddress => " I, 0x" :: Numeral.hexPieces 3 word.nnn.val
  | registerByte =>
    " V" :: Numeral.hex 1 word.x.val :: ", 0x" :: Numeral.hexPieces 2 word.nn.toNat
  | registerPair => [" V", Numeral.hex 1 word.x.val, ", V", Numeral.hex 1 word.y.val]
  | registerPairNibble =>
    [" V", Numeral.hex 1 word.x.val, ", V", Numeral.hex 1 word.y.val, ", ",
      Numeral.decimal word.n.val]
  | register => [" V", Numeral.hex 1 word.x.val]
  | registerFrom source => [" V", Numeral.hex 1 word.x.val, ", ", source]
  | intoRegister target => [" ", target, ", V", Numeral.hex 1 word.x.val]

end Layout

/-- One row of the instruction table. -/
structure Form where
  /-- The first digit of the words of this form. -/
  group : Fin 16
  /-- The selector of the words of this form. -/
  selector : UInt8
  /-- How the form is commonly written, with letters for the operands. -/
  template : String
  /-- The name in assembly text. -/
  mnemonic : String
  /-- The operands in assembly text. -/
  layout : Layout
  /-- What a word of this form means. -/
  meaning : Word → Instruction

namespace Form

/-- The table. -/
def table : List Form := [
  ⟨0x0, 0xE0, "00E0", "CLS", .none, fun _ => .clearScreen⟩,
  ⟨0x0, 0xEE, "00EE", "RET", .none, fun _ => .ret⟩,
  ⟨0x1, 0x00, "1NNN", "JP", .address, fun w => .jump w.nnn⟩,
  ⟨0x2, 0x00, "2NNN", "CALL", .address, fun w => .call w.nnn⟩,
  ⟨0x3, 0x00, "3XNN", "SE", .registerByte, fun w => .skipIfEqual w.x w.nn⟩,
  ⟨0x4, 0x00, "4XNN", "SNE", .registerByte, fun w => .skipUnlessEqual w.x w.nn⟩,
  ⟨0x5, 0x00, "5XY0", "SE", .registerPair, fun w => .skipIfSame w.x w.y⟩,
  ⟨0x6, 0x00, "6XNN", "LD", .registerByte, fun w => .load w.x w.nn⟩,
  ⟨0x7, 0x00, "7XNN", "ADD", .registerByte, fun w => .add w.x w.nn⟩,
  ⟨0x8, 0x00, "8XY0", "LD", .registerPair, fun w => .copy w.x w.y⟩,
  ⟨0x8, 0x01, "8XY1", "OR", .registerPair, fun w => .orWith w.x w.y⟩,
  ⟨0x8, 0x02, "8XY2", "AND", .registerPair, fun w => .andWith w.x w.y⟩,
  ⟨0x8, 0x03, "8XY3", "XOR", .registerPair, fun w => .xorWith w.x w.y⟩,
  ⟨0x8, 0x04, "8XY4", "ADD", .registerPair, fun w => .addRegister w.x w.y⟩,
  ⟨0x8, 0x05, "8XY5", "SUB", .registerPair, fun w => .subtract w.x w.y⟩,
  ⟨0x8, 0x06, "8XY6", "SHR", .register, fun w => .shiftRight w.x⟩,
  ⟨0x8, 0x07, "8XY7", "SUBN", .registerPair, fun w => .subtractFrom w.x w.y⟩,
  ⟨0x8, 0x0E, "8XYE", "SHL", .register, fun w => .shiftLeft w.x⟩,
  ⟨0x9, 0x00, "9XY0", "SNE", .registerPair, fun w => .skipUnlessSame w.x w.y⟩,
  ⟨0xA, 0x00, "ANNN", "LD", .indexAddress, fun w => .setIndex w.nnn⟩,
  ⟨0xB, 0x00, "BNNN", "JP", .offsetAddress, fun w => .jumpOffset w.nnn⟩,
  ⟨0xC, 0x00, "CXNN", "RND", .registerByte, fun w => .random w.x w.nn⟩,
  ⟨0xD, 0x00, "DXYN", "DRW", .registerPairNibble, fun w => .draw w.x w.y w.n⟩,
  ⟨0xE, 0x9E, "EX9E", "SKP", .register, fun w => .skipIfDown w.x⟩,
  ⟨0xE, 0xA1, "EXA1", "SKNP", .register, fun w => .skipUnlessDown w.x⟩,
  ⟨0xF, 0x07, "FX07", "LD", .registerFrom "DT", fun w => .readDelay w.x⟩,
  ⟨0xF, 0x0A, "FX0A", "LD", .registerFrom "K", fun w => .awaitKey w.x⟩,
  ⟨0xF, 0x15, "FX15", "LD", .intoRegister "DT", fun w => .setDelay w.x⟩,
  ⟨0xF, 0x18, "FX18", "LD", .intoRegister "ST", fun w => .setSound w.x⟩,
  ⟨0xF, 0x1E, "FX1E", "ADD", .intoRegister "I", fun w => .addIndex w.x⟩,
  ⟨0xF, 0x29, "FX29", "LD", .intoRegister "F", fun w => .pointAtGlyph w.x⟩,
  ⟨0xF, 0x33, "FX33", "LD", .intoRegister "B", fun w => .storeDecimal w.x⟩,
  ⟨0xF, 0x55, "FX55", "LD", .intoRegister "[I]", fun w => .storeRegisters w.x⟩,
  ⟨0xF, 0x65, "FX65", "LD", .registerFrom "[I]", fun w => .loadRegisters w.x⟩]

/-- Whether the word belongs to the form. -/
def covers (form : Form) (word : Word) : Bool :=
  form.group == word.group && form.selector == word.selector

/-- The words of a form in assembly text, piece by piece: the mnemonic, then
the operands in a column of their own. -/
def pieces (form : Form) (word : Word) : List String :=
  match form.layout with
  | .none => [form.mnemonic]
  | layout => Numeral.padRightPieces 4 form.mnemonic ++ layout.pieces word

end Form

namespace Word

/-- The form that covers the word, if any. -/
def form? (word : Word) : Option Form :=
  Form.table.find? (·.covers word)

/-- The instruction that the word means, if any. -/
def decode (word : Word) : Option Instruction :=
  word.form?.map (·.meaning word)

/-- The word in text has four hexadecimal digits. -/
def text (word : Word) : String :=
  Numeral.hex 4 word.value.toNat

/-- The word in text, piece by piece. -/
def pieces (word : Word) : List String :=
  Numeral.hexPieces 4 word.value.toNat

@[simp]
theorem join_pieces (word : Word) : String.join word.pieces = word.text :=
  Numeral.join_hexPieces 4 word.value.toNat

end Word
end ChipEight
