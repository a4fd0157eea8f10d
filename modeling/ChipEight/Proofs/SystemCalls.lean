import Mathlib
import ChipEight.Proofs.Assembly
import ChipEight.Proofs.Stack

/-!
# Calls of the host system

The words of group `0` other than `00E0` and `00EE` once called routines of the host.
They are meant to be skipped, and to be listed as data.  Since the second digit of
these words is not looked at, this holds exactly for those that end neither in `E0`
nor in `EE` (`systemCall_skips_iff`).  The others clear the screen or return from a
subroutine, and are listed as if they were `00E0` and `00EE`.
-/

namespace ChipEight
namespace Word

/-- A call of the host system: a word whose first digit is zero. -/
def IsSystemCall (word : Word) : Prop :=
  word.value < 0x1000 ∧ word ≠ ⟨0x00E0⟩ ∧ word ≠ ⟨0x00EE⟩

instance (word : Word) : Decidable word.IsSystemCall :=
  inferInstanceAs (Decidable (_ ∧ _))

theorem IsSystemCall.group_eq_zero {word : Word} (hcall : word.IsSystemCall) :
    word.group = 0 := by
  have hsmall : word.value.toNat < 0x1000 := UInt16.lt_iff_toNat_lt.mp hcall.1
  rw [group, Nat.div_eq_of_lt hsmall]
  rfl

/-- In group `0`, the low byte alone selects one of the first two rows of the table. -/
theorem form?_of_group_zero {word : Word} (hgroup : word.group = 0) :
    word.form? =
      if word.nn = 0xE0 then Form.table[0]?
      else if word.nn = 0xEE then Form.table[1]?
      else none := by
  have hselector : word.selector = word.nn := by
    rw [selector, hgroup]
    rfl
  by_cases hclear : word.nn = 0xE0
  · simp [form?, Form.table, Form.covers, hgroup, hselector, hclear]
  · by_cases hreturn : word.nn = 0xEE
    · simp [form?, Form.table, Form.covers, hgroup, hselector, hreturn]
    · have hfirst : (0xE0 == word.nn) = false := beq_eq_false_iff_ne.mpr (Ne.symm hclear)
      have hsecond : (0xEE == word.nn) = false := beq_eq_false_iff_ne.mpr (Ne.symm hreturn)
      simp [form?, Form.table, Form.covers, hgroup, hselector, hclear, hreturn, hfirst, hsecond]

theorem decode_eq_none_iff_of_group_zero {word : Word} (hgroup : word.group = 0) :
    word.decode = none ↔ word.nn ≠ 0xE0 ∧ word.nn ≠ 0xEE := by
  rw [decode, Option.map_eq_none_iff, form?_of_group_zero hgroup]
  by_cases hclear : word.nn = 0xE0
  · simp [hclear, Form.table]
  · by_cases hreturn : word.nn = 0xEE
    · simp [hreturn, Form.table]
    · simp [hclear, hreturn]

end Word

namespace Interpreter

variable {σ : Type} [RandomSource σ] {interpreter : Interpreter σ} {word : Word}

/-- A word that is skipped: a step passes it and does nothing else, and a listing
shows it as data. -/
structure Skips (interpreter : Interpreter σ) (word : Word) : Prop where
  step : interpreter.step =
    (.ok .plain, { interpreter with machine := interpreter.machine.advance })
  listed : ∀ address, Listing.wordLine address word =
    Listing.columns address word ++ ("DW " ++ ("0x" ++ word.text ++ "\n"))

/-- The words that are skipped are those without a meaning. -/
theorem skips_iff (hword : interpreter.machine.currentWord = word) :
    interpreter.Skips word ↔ word.decode = none := by
  constructor
  · intro hskips
    have htext := eq_assembly_of_wordLine (hskips.listed 0)
    exact Assembly.decode_eq_none_of_data htext.symm
  · intro hnone
    have hform : word.form? = none := Option.map_eq_none_iff.mp hnone
    refine ⟨step_of_skipped (hword ▸ hnone), fun address => ?_⟩
    rw [Listing.wordLine_eq, Word.assembly, hform]
    apply String.toList_inj.mp
    simp

/-- A call of the host system is skipped exactly when its low byte is neither `E0` nor
`EE`.  With these it clears the screen or returns, whatever the second digit says. -/
theorem systemCall_skips_iff (hword : interpreter.machine.currentWord = word)
    (hcall : word.IsSystemCall) :
    (interpreter.Skips word ↔ word.nn ≠ 0xE0 ∧ word.nn ≠ 0xEE) ∧
    (word.nn = 0xE0 → word.assembly = "CLS" ∧
      interpreter.step = (.ok .draw, { interpreter with
        machine := { interpreter.machine.advance with screen := Screen.blank } })) ∧
    (word.nn = 0xEE → word.assembly = "RET" ∧
      interpreter.step = (interpreter.machine.advance.returnFromCall.1, { interpreter with
        machine := interpreter.machine.advance.returnFromCall.2 })) := by
  have hgroup := hcall.group_eq_zero
  have hform := Word.form?_of_group_zero hgroup
  refine ⟨?_, fun hclear => ?_, fun hreturn => ?_⟩
  · rw [skips_iff hword, Word.decode_eq_none_iff_of_group_zero hgroup]
  · rw [if_pos hclear] at hform
    have hdecode : word.decode = some .clearScreen := by
      rw [Word.decode, hform]
      rfl
    refine ⟨?_, step_of_instruction (hword ▸ hdecode)⟩
    rw [Word.assembly, hform]
    rfl
  · have hclear : word.nn ≠ 0xE0 := by
      rw [hreturn]
      decide
    rw [if_neg hclear, if_pos hreturn] at hform
    have hdecode : word.decode = some .ret := by
      rw [Word.decode, hform]
      rfl
    refine ⟨?_, step_of_instruction (hword ▸ hdecode)⟩
    rw [Word.assembly, hform]
    rfl

/-- The word `0123` is skipped, and `01EE` returns to where the last call came from. -/
theorem systemCall_skips_iff_return :
    let skipping : Interpreter CountingSource :=
      ((new ⟨0, 1⟩ none).perform (.load [0x01, 0x23])).2
    -- A call of the word `01EE`.
    let returning : Interpreter CountingSource :=
      ((new ⟨0, 1⟩ none).performAll [.load [0x22, 0x02, 0x01, 0xEE], .step]).2
    (skipping.machine.currentWord = ⟨0x0123⟩ ∧ (⟨0x0123⟩ : Word).IsSystemCall) ∧
      (returning.machine.currentWord = ⟨0x01EE⟩ ∧ (⟨0x01EE⟩ : Word).IsSystemCall) ∧
      skipping.Skips ⟨0x0123⟩ ∧
      (⟨0x01EE⟩ : Word).assembly = "RET" ∧
      returning.step.2.machine.counter = 0x202 ∧ returning.step.2.machine.stack = #[] := by
  intro skipping returning
  have hskipping : skipping.machine.currentWord = ⟨0x0123⟩ := by decide +kernel
  have hreturning : returning.machine.currentWord = ⟨0x01EE⟩ := by decide +kernel
  have hfirst : (⟨0x0123⟩ : Word).IsSystemCall := by decide
  have hsecond : (⟨0x01EE⟩ : Word).IsSystemCall := by decide
  obtain ⟨hskips, -, -⟩ := systemCall_skips_iff hskipping hfirst
  obtain ⟨-, -, hreturns⟩ := systemCall_skips_iff hreturning hsecond
  obtain ⟨htext, hstep⟩ := hreturns (by decide)
  refine ⟨⟨hskipping, hfirst⟩, ⟨hreturning, hsecond⟩, hskips.mpr (by decide), htext, ?_, ?_⟩
  · rw [hstep]
    decide +kernel
  · rw [hstep]
    decide +kernel

/-- Not every call of the host system is skipped: with `01E0` a picture is lost, and
`01EE` with an empty stack is a fault. -/
theorem exists_systemCall_not_skips :
    let drawing : Interpreter CountingSource :=
      ((new ⟨0, 1⟩ none).performAll [.load [0xD0, 0x05, 0x01, 0xE0], .step]).2
    let returning : Interpreter CountingSource :=
      ((new ⟨0, 1⟩ none).perform (.load [0x01, 0xEE])).2
    ((⟨0x01E0⟩ : Word).IsSystemCall ∧ drawing.machine.currentWord = ⟨0x01E0⟩ ∧
      ¬ drawing.Skips ⟨0x01E0⟩ ∧ drawing.machine.screen ≠ Screen.blank ∧
      drawing.step.2.machine.screen = Screen.blank) ∧
    ((⟨0x01EE⟩ : Word).IsSystemCall ∧ returning.machine.currentWord = ⟨0x01EE⟩ ∧
      ¬ returning.Skips ⟨0x01EE⟩ ∧ returning.step.1 = .error (.stackUnderflow 0x202)) := by
  intro drawing returning
  have hdrawing : drawing.machine.currentWord = ⟨0x01E0⟩ := by decide +kernel
  have hreturning : returning.machine.currentWord = ⟨0x01EE⟩ := by decide +kernel
  have hblank : drawing.machine.screen ≠ Screen.blank := by decide +kernel
  have hcleared : drawing.step.2.machine.screen = Screen.blank := by decide +kernel
  have hfault : returning.step.1 = .error (.stackUnderflow 0x202) := by decide +kernel
  refine ⟨⟨by decide, hdrawing, ?_, hblank, hcleared⟩, ⟨by decide, hreturning, ?_, hfault⟩⟩
  · rw [skips_iff hdrawing]
    decide +kernel
  · rw [skips_iff hreturning]
    decide +kernel

end Interpreter
end ChipEight
