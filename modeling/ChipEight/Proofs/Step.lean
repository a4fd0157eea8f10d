import Mathlib
import ChipEight.Interpreter
import ChipEight.Proofs.Decode

/-!
# One step as one equation

A step looks at the random source only for instructions that ask for a random
byte.  Since no other instruction looks at the byte, a step may as well be read
as if the byte were always at hand: `step_eq_respond` gives the outcome of a
step as a function of the machine, the limit, the word and the random byte, and
says which words advance the source.
-/

namespace ChipEight
namespace Machine

/-- What the machine does for what a word means.  A word without a meaning does
nothing. -/
def respond (machine : Machine) (limit : Option Nat) (noise : UInt8) :
    Option Instruction → Except Fault Flow × Machine
  | none => (.ok .plain, machine)
  | some instruction => machine.execute limit noise instruction

/-- Only an instruction that asks for a random byte depends on it. -/
theorem execute_noise (machine : Machine) (limit : Option Nat) (first second : UInt8)
    {instruction : Instruction} (hplain : instruction.drawsRandom = false) :
    machine.execute limit first instruction = machine.execute limit second instruction := by
  cases instruction
  case random => simp [Instruction.drawsRandom] at hplain
  all_goals rfl

theorem keypad_skipIf (machine : Machine) (condition : Bool) :
    (machine.skipIf condition).keypad = machine.keypad := by
  cases condition <;> rfl

/-- No instruction presses or releases a key. -/
theorem keypad_execute (machine : Machine) (limit : Option Nat) (noise : UInt8)
    (instruction : Instruction) :
    (machine.execute limit noise instruction).2.keypad = machine.keypad := by
  cases instruction with
  | ret =>
      change machine.returnFromCall.2.keypad = _
      unfold returnFromCall
      cases machine.stack.back? <;> rfl
  | call target =>
      change (machine.callAt limit _).2.keypad = _
      unfold callAt
      cases machine.atLimit limit <;> rfl
  | awaitKey x =>
      change (machine.readKey x).2.keypad = _
      unfold readKey
      cases machine.keypad.first? <;> rfl
  | skipIfEqual x value => exact machine.keypad_skipIf _
  | skipUnlessEqual x value => exact machine.keypad_skipIf _
  | skipIfSame x y => exact machine.keypad_skipIf _
  | skipUnlessSame x y => exact machine.keypad_skipIf _
  | skipIfDown x => exact machine.keypad_skipIf _
  | skipUnlessDown x => exact machine.keypad_skipIf _
  | _ => rfl

/-- Only a return with nothing on the stack and a call at the limit fail. -/
theorem fails_cases {machine : Machine} {limit : Option Nat} {noise : UInt8}
    {instruction : Instruction} {fault : Fault}
    (hanswer : (machine.execute limit noise instruction).1 = .error fault) :
    (instruction = .ret ∧ machine.stack.back? = none ∧
        fault = .stackUnderflow machine.counter) ∨
      ∃ target, instruction = .call target ∧ machine.atLimit limit = true ∧
        fault = .stackOverflow machine.counter := by
  cases instruction with
  | ret =>
      change machine.returnFromCall.1 = _ at hanswer
      unfold returnFromCall at hanswer
      cases htop : machine.stack.back? with
      | none =>
          rw [htop] at hanswer
          exact .inl ⟨rfl, rfl, (Except.error.inj hanswer).symm⟩
      | some address =>
          rw [htop] at hanswer
          cases hanswer
  | call target =>
      change (machine.callAt limit _).1 = _ at hanswer
      unfold callAt at hanswer
      cases hlimit : machine.atLimit limit with
      | true =>
          rw [hlimit] at hanswer
          exact .inr ⟨target, rfl, rfl, (Except.error.inj hanswer).symm⟩
      | false =>
          rw [hlimit] at hanswer
          cases hanswer
  | awaitKey x =>
      change (machine.readKey x).1 = _ at hanswer
      unfold readKey at hanswer
      cases hkey : machine.keypad.first? with
      | none =>
          rw [hkey] at hanswer
          cases hanswer
      | some key =>
          rw [hkey] at hanswer
          cases hanswer
  | _ => cases hanswer

/-- An instruction that fails leaves the machine as it is. -/
theorem execute_of_error {machine : Machine} {limit : Option Nat} {noise : UInt8}
    {instruction : Instruction} {fault : Fault}
    (hanswer : (machine.execute limit noise instruction).1 = .error fault) :
    (machine.execute limit noise instruction).2 = machine := by
  rcases fails_cases hanswer with ⟨rfl, htop, -⟩ | ⟨target, rfl, hlimit, -⟩
  · change machine.returnFromCall.2 = _
    unfold returnFromCall
    rw [htop]
  · change (machine.callAt limit _).2 = _
    unfold callAt
    rw [hlimit]
    rfl

end Machine

namespace Word

/-- The words that ask for a random byte are those of group `C`. -/
theorem drawsRandom_decode (word : Word) :
    word.decode.any Instruction.drawsRandom = (word.group == 12) := by
  rw [decode_eq_meaningOf]
  unfold meaningOf
  split <;> simp_all [Instruction.drawsRandom]

end Word

namespace Interpreter

variable {σ : Type} [RandomSource σ]

/-- One step: the program counter passes the word, and then the machine does
what the word means.  Only words of group `C` advance the random source. -/
theorem step_eq_respond (interpreter : Interpreter σ) :
    let word := interpreter.machine.currentWord
    let outcome := interpreter.machine.advance.respond interpreter.limit
      (RandomSource.nextByte interpreter.source).1 word.decode
    interpreter.step =
      (outcome.1, {
        machine := outcome.2
        source := if word.group = 12 then (RandomSource.next interpreter.source).2
          else interpreter.source
        limit := interpreter.limit }) := by
  intro word outcome
  have hdraws : word.decode.any Instruction.drawsRandom = (word.group == 12) :=
    word.drawsRandom_decode
  change (match word.decode with
    | none => _
    | some instruction => _) = _
  cases hdecode : word.decode with
  | none =>
      have hgroup : word.group ≠ 12 := by
        simpa [hdecode] using hdraws
      simp only [outcome, hdecode, Machine.respond, hgroup, if_false]
  | some instruction =>
      simp only [hdecode, Option.any_some] at hdraws
      simp only [outcome, hdecode, Machine.respond, noiseFor, hdraws, beq_iff_eq]
      by_cases hgroup : word.group = 12
      · simp only [hgroup, if_true]
        rfl
      -- Outside group `C` the step has taken a zero for the byte; any other will do.
      · have hplain : instruction.drawsRandom = false := by
          rw [hdraws, beq_eq_false_iff_ne]
          exact hgroup
        simp only [hgroup, if_false]
        rw [Machine.execute_noise _ _ _ _ hplain]

/-- A step leaves the keys alone. -/
theorem keypad_step (interpreter : Interpreter σ) :
    interpreter.step.2.machine.keypad = interpreter.machine.keypad := by
  rw [step_eq_respond]
  cases interpreter.machine.currentWord.decode with
  | none => rfl
  | some instruction => exact Machine.keypad_execute _ _ _ instruction

/-- A step that fails only passes its word. -/
theorem machine_step_of_error {interpreter : Interpreter σ} {fault : Fault}
    (hanswer : interpreter.step.1 = .error fault) :
    interpreter.step.2.machine = interpreter.machine.advance := by
  rw [step_eq_respond] at hanswer ⊢
  cases hdecode : interpreter.machine.currentWord.decode with
  | none =>
      rw [hdecode] at hanswer
      cases hanswer
  | some instruction =>
      rw [hdecode] at hanswer
      exact Machine.execute_of_error hanswer

end Interpreter
end ChipEight
