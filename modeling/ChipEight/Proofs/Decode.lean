import Mathlib
import ChipEight.Instruction.Form

/-!
# Decoding by digits

The instruction table is searched by group and selector, and which digits the
selector consists of depends on the group.  Here the outcome of the search is
written as one case split on the hexadecimal digits of the word
(`decode_eq_meaningOf`), so that no later proof opens the table.

The split shows one thing that the table hides: in group `0` the second digit
is not looked at.
-/

namespace ChipEight
namespace Word

/-! ## Fields and digits -/

theorem nn_toNat (word : Word) : word.nn.toNat = 16 * word.y.val + word.n.val := by
  simp only [nn, y, n, UInt8.toNat_ofNat', Fin.val_ofNat]
  omega

theorem nnn_val (word : Word) : word.nnn.val = 256 * word.x.val + word.nn.toNat := by
  simp only [nnn, x, nn, Fin.val_ofNat, UInt8.toNat_ofNat']
  omega

/-- The low byte is put together from its two digits. -/
theorem nn_eq_ofNat (word : Word) : word.nn = UInt8.ofNat (16 * word.y.val + word.n.val) := by
  rw [← nn_toNat, UInt8.ofNat_toNat]

/-! ## The table -/

/-- What a word means, by the digits that decide it: the group and the last two
digits. -/
def meaningOf (word : Word) : (group y n : Fin 16) → Option Instruction
  | 0x0, 0xE, 0x0 => some .clearScreen
  | 0x0, 0xE, 0xE => some .ret
  | 0x1, _, _ => some (.jump word.nnn)
  | 0x2, _, _ => some (.call word.nnn)
  | 0x3, _, _ => some (.skipIfEqual word.x word.nn)
  | 0x4, _, _ => some (.skipUnlessEqual word.x word.nn)
  | 0x5, _, _ => some (.skipIfSame word.x word.y)
  | 0x6, _, _ => some (.load word.x word.nn)
  | 0x7, _, _ => some (.add word.x word.nn)
  | 0x8, _, 0x0 => some (.copy word.x word.y)
  | 0x8, _, 0x1 => some (.orWith word.x word.y)
  | 0x8, _, 0x2 => some (.andWith word.x word.y)
  | 0x8, _, 0x3 => some (.xorWith word.x word.y)
  | 0x8, _, 0x4 => some (.addRegister word.x word.y)
  | 0x8, _, 0x5 => some (.subtract word.x word.y)
  | 0x8, _, 0x6 => some (.shiftRight word.x)
  | 0x8, _, 0x7 => some (.subtractFrom word.x word.y)
  | 0x8, _, 0xE => some (.shiftLeft word.x)
  | 0x9, _, _ => some (.skipUnlessSame word.x word.y)
  | 0xA, _, _ => some (.setIndex word.nnn)
  | 0xB, _, _ => some (.jumpOffset word.nnn)
  | 0xC, _, _ => some (.random word.x word.nn)
  | 0xD, _, _ => some (.draw word.x word.y word.n)
  | 0xE, 0x9, 0xE => some (.skipIfDown word.x)
  | 0xE, 0xA, 0x1 => some (.skipUnlessDown word.x)
  | 0xF, 0x0, 0x7 => some (.readDelay word.x)
  | 0xF, 0x0, 0xA => some (.awaitKey word.x)
  | 0xF, 0x1, 0x5 => some (.setDelay word.x)
  | 0xF, 0x1, 0x8 => some (.setSound word.x)
  | 0xF, 0x1, 0xE => some (.addIndex word.x)
  | 0xF, 0x2, 0x9 => some (.pointAtGlyph word.x)
  | 0xF, 0x3, 0x3 => some (.storeDecimal word.x)
  | 0xF, 0x5, 0x5 => some (.storeRegisters word.x)
  | 0xF, 0x6, 0x5 => some (.loadRegisters word.x)
  | _, _, _ => none

/-- Searching the table is a case split on the digits. -/
theorem decode_eq_meaningOf (word : Word) :
    word.decode = word.meaningOf word.group word.y word.n := by
  have hform : word.form? =
      Form.table.find? fun form => form.group == word.group && form.selector == word.selector :=
    rfl
  rw [decode, hform, selector, nn_eq_ofNat]
  generalize word.group = group
  generalize word.y = y
  generalize word.n = n
  -- Outside the groups with a selector, the digits after the group are not looked at.
  fin_cases group
  case «0» => fin_cases y <;> fin_cases n <;> rfl
  case «8» => fin_cases n <;> rfl
  case «14» => fin_cases y <;> fin_cases n <;> rfl
  case «15» => fin_cases y <;> fin_cases n <;> rfl
  all_goals rfl

end Word
end ChipEight
