import ChipEight.Operation
import ChipEight.Proofs.Memory

/-!
# Loading a program

A program is loaded if it has at least one byte and leaves the last byte of memory
alone.  Then memory holds its bytes, one after the other, from the start of program
memory on, and all other bytes of memory and everything beside memory stay as they were.
A program of any other size changes nothing, and the answer says what is wrong with its
size (`loadsExactly`).
-/

namespace ChipEight

/-! ## Machines -/

namespace Machine

variable (machine : Machine) {program : List UInt8}

theorem load_of_empty (hempty : program.length = 0) :
    machine.load program = .error .emptyProgram := by
  rw [List.eq_nil_of_length_eq_zero hempty]
  rfl

theorem load_of_large (hlarge : programLimit < program.length) :
    machine.load program = .error (.largeProgram program.length) := by
  have hsome : program.isEmpty = false := by
    rw [List.isEmpty_eq_false_iff, ← List.length_pos_iff]
    omega
  simp only [load, hsome, Bool.false_eq_true, if_false, hlarge, if_true]

theorem load_of_fits (hsome : 1 ≤ program.length) (hfits : program.length ≤ programLimit) :
    machine.load program =
      .ok { machine with memory := machine.memory.writeAll programStart program } :=
  (machine.load_eq_ok_iff _ program).mpr ⟨hsome, hfits, rfl⟩

end Machine

/-! ## Interpreters -/

namespace Interpreter

variable {σ : Type} (interpreter : Interpreter σ) {program : List UInt8}

/-- Only the size of a program can keep it from being loaded. -/
theorem exists_load_eq_error_iff :
    (∃ error, interpreter.load program = .error error) ↔
      program.length = 0 ∨ programLimit < program.length := by
  constructor
  · rintro ⟨error, hload⟩
    by_contra hsize
    rw [load, interpreter.machine.load_of_fits (by omega) (by omega)] at hload
    cases hload
  · rintro (hempty | hlarge)
    · exact ⟨.emptyProgram, by rw [load, interpreter.machine.load_of_empty hempty]⟩
    · exact ⟨.largeProgram program.length, by rw [load, interpreter.machine.load_of_large hlarge]⟩

variable [RandomSource σ]

theorem perform_load_of_empty (hempty : program.length = 0) :
    interpreter.perform (.load program) = (.refused .emptyProgram, interpreter) := by
  simp only [perform, load, interpreter.machine.load_of_empty hempty]

theorem perform_load_of_large (hlarge : programLimit < program.length) :
    interpreter.perform (.load program) =
      (.refused (.largeProgram program.length), interpreter) := by
  simp only [perform, load, interpreter.machine.load_of_large hlarge]

theorem perform_load_of_fits (hsome : 1 ≤ program.length)
    (hfits : program.length ≤ programLimit) :
    interpreter.perform (.load program) =
      (.done, interpreter.onMachine fun machine =>
        { machine with memory := machine.memory.writeAll programStart program }) := by
  simp only [perform, load, interpreter.machine.load_of_fits hsome hfits, onMachine]

/-- Only programs of the right size are loaded. -/
theorem perform_load_eq_done_iff :
    (interpreter.perform (.load program)).1 = .done ↔
      1 ≤ program.length ∧ program.length ≤ programLimit := by
  constructor
  · intro hdone
    by_contra hsize
    rcases (by omega : program.length = 0 ∨ programLimit < program.length) with hempty | hlarge
    · rw [interpreter.perform_load_of_empty hempty] at hdone
      contradiction
    · rw [interpreter.perform_load_of_large hlarge] at hdone
      contradiction
  · rintro ⟨hsome, hfits⟩
    rw [interpreter.perform_load_of_fits hsome hfits]

/-- A program that is not loaded leaves no trace. -/
theorem perform_load_of_ne_done (hrefused : (interpreter.perform (.load program)).1 ≠ .done) :
    (interpreter.perform (.load program)).2 = interpreter := by
  rw [ne_eq, perform_load_eq_done_iff] at hrefused
  rcases (by omega : program.length = 0 ∨ programLimit < program.length) with hempty | hlarge
  · rw [interpreter.perform_load_of_empty hempty]
  · rw [interpreter.perform_load_of_large hlarge]

/-- What loading a program does in a given state, by the number of its bytes. -/
structure LoadsExactly (interpreter : Interpreter σ) (program : List UInt8) : Prop where
  accepted : (interpreter.perform (.load program)).1 = .done ↔
    1 ≤ program.length ∧ program.length ≤ 3583
  copied : (interpreter.perform (.load program)).1 = .done →
    ∀ (place : Nat) (hplace : place < program.length),
      (interpreter.perform (.load program)).2.machine.memory.read (0x200 + place) =
        program[place]
  /-- Below a program are the font and what lies between; above it there is always the
  last byte of memory. -/
  kept : ∀ address < 4096, address < 0x200 ∨ 0x200 + program.length ≤ address →
    (interpreter.perform (.load program)).2.machine.memory.read address =
      interpreter.machine.memory.read address
  /-- Nothing but memory changes. -/
  beside : ∃ memory, (interpreter.perform (.load program)).2 =
    { interpreter with machine := { interpreter.machine with memory } }
  empty : program.length = 0 →
    interpreter.perform (.load program) = (.refused .emptyProgram, interpreter)
  large : 3583 < program.length →
    interpreter.perform (.load program) =
      (.refused (.largeProgram program.length), interpreter)

/-- In every state a program of any size is loaded as a whole or not at all. -/
theorem loadsExactly (interpreter : Interpreter σ) (program : List UInt8) :
    LoadsExactly interpreter program where
  accepted := interpreter.perform_load_eq_done_iff
  copied := by
    intro hdone place hplace
    obtain ⟨hsome, hfits⟩ := interpreter.perform_load_eq_done_iff.mp hdone
    have hlimit : programLimit = 3583 := rfl
    rw [interpreter.perform_load_of_fits hsome hfits]
    exact interpreter.machine.memory.read_writeAll programStart (by omega) hplace
  kept := by
    intro address haddress hbeside
    by_cases hdone : (interpreter.perform (.load program)).1 = .done
    · obtain ⟨hsome, hfits⟩ := interpreter.perform_load_eq_done_iff.mp hdone
      have hlimit : programLimit = 3583 := rfl
      have houtside : ∀ place < program.length,
          ¬ Memory.SameAddress (programStart + place) address := by
        intro place hplace
        simp only [Memory.SameAddress, programStart]
        omega
      rw [interpreter.perform_load_of_fits hsome hfits]
      exact interpreter.machine.memory.read_writeAll_of_outside houtside
    · rw [interpreter.perform_load_of_ne_done hdone]
  beside := by
    by_cases hdone : (interpreter.perform (.load program)).1 = .done
    · obtain ⟨hsome, hfits⟩ := interpreter.perform_load_eq_done_iff.mp hdone
      rw [interpreter.perform_load_of_fits hsome hfits]
      exact ⟨_, rfl⟩
    · rw [interpreter.perform_load_of_ne_done hdone]
      exact ⟨_, rfl⟩
  empty := interpreter.perform_load_of_empty
  large := interpreter.perform_load_of_large

end Interpreter
end ChipEight
