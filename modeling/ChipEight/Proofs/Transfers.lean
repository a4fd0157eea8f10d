import Mathlib
import ChipEight.Proofs.Assembly
import ChipEight.Proofs.Memory

/-!
# Transfers between registers and memory

The word `FX55` stores the registers up to `X` from the index register on, `FX65` loads them
from there, and `FX33` stores the decimal digits of a register.  All of them use at most
sixteen addresses in a row, which are different places also where they go around the end of
memory; so what is stored is what is loaded, and nothing else is touched
(`transfersExactly`).

The places depend on the index register modulo the size of memory only.  What is stored may
be loaded in any state with the same memory and a congruent index register.
-/

namespace ChipEight

open Register

namespace Machine

variable (machine : Machine) (x : Register)

/-! ## Storing -/

theorem length_storedValues : (machine.registers.toList.take (x.val + 1)).length = x.val + 1 := by
  have hx := x.isLt
  simp only [List.length_take, Vector.length_toList]
  omega

theorem read_storeRegisters {k : Register} (hk : k ≤ x) :
    (machine.storeRegisters x).memory.read (machine.index.toNat + k.val) = machine.register k := by
  have hx := x.isLt
  have hlength := machine.length_storedValues x
  have hplace : k.val < (machine.registers.toList.take (x.val + 1)).length := by
    rw [hlength]
    exact Nat.lt_succ_of_le hk
  have hread := machine.memory.read_writeAll machine.index.toNat (by omega) hplace
  rw [List.getElem_take, Vector.getElem_toList] at hread
  exact hread

theorem read_storeRegisters_of_outside {address : Nat}
    (houtside : ∀ k ≤ x, ¬ Memory.SameAddress (machine.index.toNat + k.val) address) :
    (machine.storeRegisters x).memory.read address = machine.memory.read address := by
  refine machine.memory.read_writeAll_of_outside fun offset hoffset => ?_
  rw [length_storedValues] at hoffset
  exact houtside ⟨offset, by omega⟩ (Nat.le_of_lt_succ hoffset)

theorem toNat_index_storeRegisters :
    (machine.storeRegisters x).index.toNat = (machine.index.toNat + x.val + 1) % 65536 := by
  have hx := x.isLt
  have hindex : (machine.storeRegisters x).index =
      machine.index + UInt16.ofNat (x.val + 1) := rfl
  rw [hindex, UInt16.toNat_add, UInt16.toNat_ofNat']
  omega

/-! ## Loading -/

theorem register_loadRegisters (k : Register) :
    (machine.loadRegisters x).register k =
      if k ≤ x then machine.memory.read (machine.index.toNat + k.val)
      else machine.register k := by
  simp [loadRegisters, passRegisters, register]

variable {machine x}

/-- Stored registers are loaded in a state with the same memory. -/
theorem register_loadRegisters_of_stored {other : Machine}
    (hmemory : other.memory = (machine.storeRegisters x).memory)
    (hindex : Memory.SameAddress other.index.toNat machine.index.toNat) (k : Register) :
    (other.loadRegisters x).register k =
      if k ≤ x then machine.register k else other.register k := by
  rw [register_loadRegisters]
  split
  next hk => rw [(hindex.add k.val).read, hmemory, machine.read_storeRegisters x hk]
  next => rfl

/-- Registers that were loaded are in memory already where they are stored. -/
theorem memory_storeRegisters_of_loaded {other : Machine}
    (hmemory : other.memory = machine.memory)
    (hregisters : ∀ k ≤ x, other.register k = (machine.loadRegisters x).register k)
    (hindex : Memory.SameAddress other.index.toNat machine.index.toNat) :
    (other.storeRegisters x).memory = machine.memory := by
  rw [← hmemory]
  refine Memory.writeAll_of_read fun offset hoffset => ?_
  have hplace := hoffset
  rw [length_storedValues] at hplace
  have hk : (⟨offset, by omega⟩ : Register) ≤ x := Nat.le_of_lt_succ hplace
  have hvalue := hregisters _ hk
  rw [register_loadRegisters, if_pos hk] at hvalue
  rw [List.getElem_take, Vector.getElem_toList, (hindex.add offset).read, hmemory]
  exact hvalue.symm

/-! ## Decimal digits -/

theorem decimalDigits_sum (value : UInt8) :
    (value / 100 % 10).toNat ≤ 9 ∧ (value / 10 % 10).toNat ≤ 9 ∧ (value % 10).toNat ≤ 9 ∧
      100 * (value / 100 % 10).toNat + 10 * (value / 10 % 10).toNat + (value % 10).toNat =
        value.toNat := by
  have hvalue := value.toNat_lt
  simp only [UInt8.toNat_div, UInt8.toNat_mod, UInt8.reduceToNat]
  omega

/-- The memory after the digits of a byte have been written at the index register. -/
def withDigits (machine : Machine) (value : UInt8) : Memory :=
  machine.memory.writeAll machine.index.toNat (decimalDigits value)

theorem read_withDigits (machine : Machine) (value : UInt8) (place : Fin 3) :
    (machine.withDigits value).read (machine.index.toNat + place.val) =
      (decimalDigits value)[place] := by
  have hlength : (decimalDigits value).length ≤ 4096 := show 3 ≤ 4096 by decide
  exact machine.memory.read_writeAll machine.index.toNat hlength place.isLt

/-- Digits that were stored are loaded in a state with the same memory. -/
theorem register_loadRegisters_of_digits {other : Machine} {value : UInt8}
    (hmemory : other.memory = machine.withDigits value)
    (hindex : Memory.SameAddress other.index.toNat machine.index.toNat) (place : Fin 3) :
    (other.loadRegisters 2).register (place.castLE (by decide)) = (decimalDigits value)[place] := by
  have hplace : place.castLE (by decide) ≤ (2 : Register) := Nat.le_of_lt_succ place.isLt
  rw [register_loadRegisters, if_pos hplace, (hindex.add _).read, hmemory]
  exact machine.read_withDigits value place

/-- The loaded digits are those of the byte. -/
theorem loadRegisters_sum_of_digits {other : Machine} {value : UInt8}
    (hmemory : other.memory = machine.withDigits value)
    (hindex : Memory.SameAddress other.index.toNat machine.index.toNat) :
    (other.loadRegisters 2).register 0 ≤ 9 ∧ (other.loadRegisters 2).register 1 ≤ 9 ∧
      (other.loadRegisters 2).register 2 ≤ 9 ∧
      100 * ((other.loadRegisters 2).register 0).toNat +
          10 * ((other.loadRegisters 2).register 1).toNat +
        ((other.loadRegisters 2).register 2).toNat = value.toNat := by
  have hdigit := register_loadRegisters_of_digits hmemory hindex
  have hhundreds : (other.loadRegisters 2).register 0 = value / 100 % 10 := hdigit 0
  have htens : (other.loadRegisters 2).register 1 = value / 10 % 10 := hdigit 1
  have hones : (other.loadRegisters 2).register 2 = value % 10 := hdigit 2
  rw [hhundreds, htens, hones]
  exact decimalDigits_sum value

end Machine

/-! ## Words -/

namespace Word

/-- The word `FX33`, `FX55` or `FX65` with the given `X`, by its low byte. -/
def ofTransfer (low : UInt8) (x : Register) : Word :=
  ofBytes (UInt8.ofNat (0xF0 + x.val)) low

theorem decode_ofTransfer (x : Register) :
    (ofTransfer 0x33 x).decode = some (.storeDecimal x) ∧
      (ofTransfer 0x55 x).decode = some (.storeRegisters x) ∧
      (ofTransfer 0x65 x).decode = some (.loadRegisters x) := by
  revert x
  decide +kernel

end Word

namespace Interpreter

variable {σ : Type} [RandomSource σ]

/-- The state after a word has been executed. -/
def after (interpreter : Interpreter σ) (word : Word) : Interpreter σ :=
  (interpreter.executeWord word).2

section Execution

variable (interpreter : Interpreter σ) (x : Register)

theorem executeWord_storeDecimal :
    interpreter.executeWord (.ofTransfer 0x33 x) =
      (.ok .plain, interpreter.onMachine fun machine =>
        { machine with memory := machine.withDigits (machine.register x) }) := by
  rw [executeWord, (Word.decode_ofTransfer x).1]
  rfl

theorem executeWord_storeRegisters :
    interpreter.executeWord (.ofTransfer 0x55 x) =
      (.ok .plain, interpreter.onMachine (·.storeRegisters x)) := by
  rw [executeWord, (Word.decode_ofTransfer x).2.1]
  rfl

theorem executeWord_loadRegisters :
    interpreter.executeWord (.ofTransfer 0x65 x) =
      (.ok .plain, interpreter.onMachine (·.loadRegisters x)) := by
  rw [executeWord, (Word.decode_ofTransfer x).2.2]
  rfl

theorem after_storeDecimal :
    interpreter.after (.ofTransfer 0x33 x) = interpreter.onMachine fun machine =>
      { machine with memory := machine.withDigits (machine.register x) } :=
  congrArg Prod.snd (interpreter.executeWord_storeDecimal x)

theorem after_storeRegisters :
    interpreter.after (.ofTransfer 0x55 x) = interpreter.onMachine (·.storeRegisters x) :=
  congrArg Prod.snd (interpreter.executeWord_storeRegisters x)

theorem after_loadRegisters :
    interpreter.after (.ofTransfer 0x65 x) = interpreter.onMachine (·.loadRegisters x) :=
  congrArg Prod.snd (interpreter.executeWord_loadRegisters x)

end Execution

/-- What is promised about the words that move bytes between registers and memory.  A step
passes the word at the program counter and then executes it (`step_eq_executeWord`). -/
structure TransfersExactly (interpreter : Interpreter σ) (x : Register) : Prop where
  /-- None of the words fails. -/
  answers : ∀ low : UInt8, low = 0x33 ∨ low = 0x55 ∨ low = 0x65 →
    (interpreter.executeWord (.ofTransfer low x)).1 = .ok .plain
  stored : ∀ k ≤ x, (interpreter.after (.ofTransfer 0x55 x)).machine.memory.read
      ((interpreter.machine.index.toNat + k.val) % 4096) = interpreter.machine.register k
  storedOnly : ∀ address < 4096,
    (∀ k ≤ x, (interpreter.machine.index.toNat + k.val) % 4096 ≠ address) →
      (interpreter.after (.ofTransfer 0x55 x)).machine.memory.read address =
        interpreter.machine.memory.read address
  storeBeside : ∃ memory index, interpreter.after (.ofTransfer 0x55 x) =
    { interpreter with machine := { interpreter.machine with memory, index } }
  passed : (interpreter.after (.ofTransfer 0x55 x)).machine.index.toNat =
    (interpreter.machine.index.toNat + x.val + 1) % 65536
  /-- What was stored is loaded in any state with that memory, and the other registers of
  that state stay. -/
  loaded : ∀ other : Interpreter σ,
    other.machine.memory = (interpreter.after (.ofTransfer 0x55 x)).machine.memory →
    other.machine.index.toNat % 4096 = interpreter.machine.index.toNat % 4096 →
    ∀ k, (other.after (.ofTransfer 0x65 x)).machine.register k =
      if k ≤ x then interpreter.machine.register k else other.machine.register k
  loadBeside : ∃ registers index, interpreter.after (.ofTransfer 0x65 x) =
    { interpreter with machine := { interpreter.machine with registers, index } }
  /-- What was loaded is stored without a change, at the index register of the load. -/
  storedBack : ∀ other : Interpreter σ,
    other.machine = { (interpreter.after (.ofTransfer 0x65 x)).machine with
      index := other.machine.index } →
    other.machine.index.toNat % 4096 = interpreter.machine.index.toNat % 4096 →
    (other.after (.ofTransfer 0x55 x)).machine.memory = interpreter.machine.memory
  digitsOnly : ∀ address < 4096,
    (∀ place < 3, (interpreter.machine.index.toNat + place) % 4096 ≠ address) →
      (interpreter.after (.ofTransfer 0x33 x)).machine.memory.read address =
        interpreter.machine.memory.read address
  digitsBeside : ∃ memory, interpreter.after (.ofTransfer 0x33 x) =
    { interpreter with machine := { interpreter.machine with memory } }
  /-- Three registers are loaded from the digits, in any state with that memory. -/
  digits : ∀ other : Interpreter σ,
    other.machine.memory = (interpreter.after (.ofTransfer 0x33 x)).machine.memory →
    other.machine.index.toNat % 4096 = interpreter.machine.index.toNat % 4096 →
    let loaded := (other.after (.ofTransfer 0x65 2)).machine
    loaded.register 0 ≤ 9 ∧ loaded.register 1 ≤ 9 ∧ loaded.register 2 ≤ 9 ∧
      100 * (loaded.register 0).toNat + 10 * (loaded.register 1).toNat +
        (loaded.register 2).toNat = (interpreter.machine.register x).toNat

/-- In every state the transfers of up to sixteen registers are inverse to each other and
touch nothing else. -/
theorem transfersExactly (interpreter : Interpreter σ) (x : Register) :
    TransfersExactly interpreter x := by
  constructor
  case answers =>
    rintro low (rfl | rfl | rfl)
    · rw [executeWord_storeDecimal]
    · rw [executeWord_storeRegisters]
    · rw [executeWord_loadRegisters]
  case stored =>
    intro k hk
    rw [after_storeRegisters, Memory.read_mod]
    exact interpreter.machine.read_storeRegisters x hk
  case storedOnly =>
    intro address haddress houtside
    rw [after_storeRegisters]
    refine interpreter.machine.read_storeRegisters_of_outside x fun k hk hsame => ?_
    exact houtside k hk (hsame.trans (Nat.mod_eq_of_lt haddress))
  case storeBeside =>
    rw [after_storeRegisters]
    exact ⟨_, _, rfl⟩
  case passed =>
    rw [after_storeRegisters]
    exact interpreter.machine.toNat_index_storeRegisters x
  case loaded =>
    intro other hmemory hindex
    rw [after_storeRegisters] at hmemory
    rw [after_loadRegisters]
    exact Machine.register_loadRegisters_of_stored hmemory hindex
  case loadBeside =>
    rw [after_loadRegisters]
    exact ⟨_, _, rfl⟩
  case storedBack =>
    intro other hother hindex
    rw [after_loadRegisters] at hother
    rw [after_storeRegisters]
    refine Machine.memory_storeRegisters_of_loaded ?_ ?_ hindex
    · rw [hother]
      rfl
    · intro k _
      rw [hother]
      rfl
  case digitsOnly =>
    intro address haddress houtside
    rw [after_storeDecimal]
    refine interpreter.machine.memory.read_writeAll_of_outside fun place hplace hsame => ?_
    exact houtside place hplace (hsame.trans (Nat.mod_eq_of_lt haddress))
  case digitsBeside =>
    rw [after_storeDecimal]
    exact ⟨_, rfl⟩
  case digits =>
    intro other hmemory hindex
    rw [after_storeDecimal] at hmemory
    rw [after_loadRegisters]
    exact Machine.loadRegisters_sum_of_digits hmemory hindex

end Interpreter

/-- The second and the third digit go to the start of memory. -/
example : (Machine.withDigits { Machine.initial with index := 0xFFFF } 157).readAll 0x0FFF 3 =
    [1, 5, 7] := by
  decide +kernel

end ChipEight
