import Mathlib
import ChipEight.Proofs.Executed
import ChipEight.Proofs.Stack

/-!
# Steps, ticks and keys do not get in each other's way

An instruction has to do with the timers only if it reads or sets one, and with
the keys only if it waits for a key or asks for a certain one.  In front of any
other instruction a tick or a key event may as well happen behind it, with the
same answer and the same state in the end.  Hence a session of steps and ticks may
be put into any other order, as long as no instruction that is executed has to do
with the timers: it executes the same words, reports the same and ends in the same
state (`stepsAreIndependent`).  That the other order executes no such instruction
either is part of what is shown.
-/

namespace ChipEight

/-! ## What an instruction has to do with timers and keys -/

namespace Instruction

/-- Whether the instruction reads or sets a timer. -/
def usesTimers : Instruction → Bool
  | .readDelay _ | .setDelay _ | .setSound _ => true
  | _ => false

end Instruction

namespace Word

/-- Whether the word means an instruction that reads or sets a timer. -/
def usesTimers (word : Word) : Bool :=
  word.decode.any Instruction.usesTimers

end Word

namespace Machine

/-- Whether the machine looks at the key with the given number when it executes an
instruction.  An instruction that waits looks at every key. -/
def looksAtKey (machine : Machine) (number : Nat) : Instruction → Bool
  | .awaitKey _ => true
  | .skipIfDown x | .skipUnlessDown x => (machine.register x).toNat == number
  | _ => false

/-! ## Changes beside the program -/

/-- A change that has nothing to do with the program and where the machine is in it. -/
structure LeavesProgram (change : Machine → Machine) : Prop where
  memory : ∀ machine, (change machine).memory = machine.memory
  counter : ∀ machine, (change machine).counter = machine.counter
  stack : ∀ machine, (change machine).stack = machine.stack
  setCounter : ∀ machine counter,
    change { machine with counter } = { change machine with counter }
  setStack : ∀ machine stack, change { machine with stack } = { change machine with stack }

theorem tick_leavesProgram : LeavesProgram tick :=
  ⟨fun _ => rfl, fun _ => rfl, fun _ => rfl, fun _ _ => rfl, fun _ _ => rfl⟩

theorem setKey_leavesProgram (number : Nat) (pressed : Bool) :
    LeavesProgram (·.setKey number pressed) :=
  ⟨fun _ => rfl, fun _ => rfl, fun _ => rfl, fun _ _ => rfl, fun _ _ => rfl⟩

namespace LeavesProgram

variable {change : Machine → Machine} (hchange : LeavesProgram change) (machine : Machine)

include hchange

theorem currentWord : (change machine).currentWord = machine.currentWord := by
  rw [Machine.currentWord, hchange.memory, hchange.counter]
  rfl

theorem advance : (change machine).advance = change machine.advance := by
  rw [Machine.advance, hchange.counter]
  exact (hchange.setCounter machine _).symm

theorem skipIf (condition : Bool) :
    (change machine).skipIf condition = change (machine.skipIf condition) := by
  cases condition with
  | false => rfl
  | true => exact hchange.advance machine

/-- Going on elsewhere with another stack, as calls and returns do. -/
theorem goTo (counter : UInt16) (stack : Array UInt16) :
    change { machine with counter, stack } = { change machine with counter, stack } := by
  have hcounter := hchange.setCounter machine counter
  have hstack := hchange.setStack { machine with counter } stack
  rw [hcounter] at hstack
  exact hstack

theorem returnFromCall :
    (change machine).returnFromCall =
      (machine.returnFromCall.1, change machine.returnFromCall.2) := by
  unfold Machine.returnFromCall
  rw [hchange.stack, hchange.counter]
  cases machine.stack.back? with
  | none => rfl
  | some address => exact congrArg (Prod.mk _) (hchange.goTo machine _ _).symm

theorem callAt (limit : Option Nat) (target : UInt16) :
    (change machine).callAt limit target =
      ((machine.callAt limit target).1, change (machine.callAt limit target).2) := by
  have hlimit : (change machine).atLimit limit = machine.atLimit limit := by
    unfold Machine.atLimit
    rw [hchange.stack]
  unfold Machine.callAt
  rw [hlimit, hchange.stack, hchange.counter]
  cases machine.atLimit limit with
  | true => rfl
  | false => exact congrArg (Prod.mk _) (hchange.goTo machine _ _).symm

end LeavesProgram

/-! ## Instructions -/

section Instructions

variable {machine : Machine} {limit : Option Nat} {noise : UInt8} {instruction : Instruction}

/-- A tick may as well happen behind an instruction that has nothing to do with the
timers. -/
theorem execute_tick (hplain : instruction.usesTimers = false) :
    machine.tick.execute limit noise instruction =
      ((machine.execute limit noise instruction).1,
        (machine.execute limit noise instruction).2.tick) := by
  have hskip := tick_leavesProgram.skipIf machine
  cases instruction with
  | readDelay x => cases hplain
  | setDelay x => cases hplain
  | setSound x => cases hplain
  | ret => exact tick_leavesProgram.returnFromCall machine
  | call target => exact tick_leavesProgram.callAt machine limit _
  | awaitKey x =>
      change machine.tick.readKey x = ((machine.readKey x).1, (machine.readKey x).2.tick)
      have hkeypad : machine.tick.keypad = machine.keypad := rfl
      unfold readKey
      rw [hkeypad]
      cases machine.keypad.first? <;> rfl
  | skipIfEqual x value => exact congrArg (Prod.mk _) (hskip _)
  | skipUnlessEqual x value => exact congrArg (Prod.mk _) (hskip _)
  | skipIfSame x y => exact congrArg (Prod.mk _) (hskip _)
  | skipUnlessSame x y => exact congrArg (Prod.mk _) (hskip _)
  | skipIfDown x => exact congrArg (Prod.mk _) (hskip _)
  | skipUnlessDown x => exact congrArg (Prod.mk _) (hskip _)
  | _ => rfl

/-- An event of another key does not change whether a key is down. -/
theorem isDown_setKey {number other : Nat} (hne : (other == number) = false) (pressed : Bool) :
    (machine.setKey number pressed).keypad.isDown other = machine.keypad.isDown other := by
  have hother : ¬ (number = other ∧ number < 16) :=
    fun h => ne_of_beq_false hne h.1.symm
  exact (machine.keypad.isDown_set number other pressed).trans (if_neg hother)

/-- A key event may as well happen behind an instruction that does not look at the
key. -/
theorem execute_setKey {number : Nat} (hunseen : machine.looksAtKey number instruction = false)
    (pressed : Bool) :
    (machine.setKey number pressed).execute limit noise instruction =
      ((machine.execute limit noise instruction).1,
        (machine.execute limit noise instruction).2.setKey number pressed) := by
  have hchange := setKey_leavesProgram number pressed
  have hskip := hchange.skipIf machine
  cases instruction with
  | awaitKey x => cases hunseen
  | skipIfDown x =>
      change (_, (machine.setKey number pressed).skipIf
        ((machine.setKey number pressed).keypad.isDown (machine.register x).toNat)) = _
      rw [isDown_setKey hunseen, hskip]
      rfl
  | skipUnlessDown x =>
      change (_, (machine.setKey number pressed).skipIf
        (!(machine.setKey number pressed).keypad.isDown (machine.register x).toNat)) = _
      rw [isDown_setKey hunseen, hskip]
      rfl
  | ret => exact hchange.returnFromCall machine
  | call target => exact hchange.callAt machine limit _
  | skipIfEqual x value => exact congrArg (Prod.mk _) (hskip _)
  | skipUnlessEqual x value => exact congrArg (Prod.mk _) (hskip _)
  | skipIfSame x y => exact congrArg (Prod.mk _) (hskip _)
  | skipUnlessSame x y => exact congrArg (Prod.mk _) (hskip _)
  | _ => rfl

end Instructions

end Machine

namespace Interpreter

variable {σ : Type} [RandomSource σ]

/-! ## Steps -/

section Steps

variable {interpreter : Interpreter σ}

/-- A change beside the program may as well happen behind a step, if this is so for the
instruction that is executed. -/
theorem step_onMachine {change : Machine → Machine} (hchange : Machine.LeavesProgram change)
    (hexecute : ∀ instruction ∈ interpreter.machine.currentWord.decode, ∀ noise,
      (change interpreter.machine.advance).execute interpreter.limit noise instruction =
        ((interpreter.machine.advance.execute interpreter.limit noise instruction).1,
          change (interpreter.machine.advance.execute interpreter.limit noise instruction).2)) :
    (interpreter.onMachine change).step =
      (interpreter.step.1, interpreter.step.2.onMachine change) := by
  have hword : (interpreter.onMachine change).machine.currentWord =
      interpreter.machine.currentWord := hchange.currentWord interpreter.machine
  have hadvance : (interpreter.onMachine change).machine.advance =
      change interpreter.machine.advance := hchange.advance interpreter.machine
  cases hdecode : interpreter.machine.currentWord.decode with
  | none =>
      rw [step_of_skipped hdecode, step_of_skipped (hword.symm ▸ hdecode), hadvance]
      rfl
  | some instruction =>
      rw [step_of_instruction hdecode, step_of_instruction (hword.symm ▸ hdecode), hadvance]
      have hsame := hexecute instruction hdecode (noiseFor interpreter.source instruction).1
      rw [interpreter.limit_onMachine, interpreter.source_onMachine, hsame]
      rfl

theorem step_tick (hplain : interpreter.machine.currentWord.usesTimers = false) :
    (interpreter.onMachine Machine.tick).step =
      (interpreter.step.1, interpreter.step.2.onMachine Machine.tick) := by
  refine step_onMachine Machine.tick_leavesProgram fun instruction hdecode noise => ?_
  rw [Word.usesTimers, hdecode] at hplain
  exact Machine.execute_tick hplain

theorem step_setKey {number : Nat} (hunseen : interpreter.machine.currentWord.decode.any
      (interpreter.machine.looksAtKey number) = false) (pressed : Bool) :
    (interpreter.onMachine (·.setKey number pressed)).step =
      (interpreter.step.1, interpreter.step.2.onMachine (·.setKey number pressed)) := by
  refine step_onMachine (Machine.setKey_leavesProgram number pressed)
    fun instruction hdecode noise => ?_
  rw [hdecode] at hunseen
  have hadvanced : interpreter.machine.advance.looksAtKey number instruction = false := hunseen
  exact Machine.execute_setKey hadvanced pressed

end Steps

/-! ## Sessions of steps and ticks -/

/-- The flows and faults that a session reports.  Operations that are merely done
report nothing. -/
def reports (interpreter : Interpreter σ) (operations : List Operation) : List Outcome :=
  (interpreter.performAll operations).1.filter (· ≠ .done)

theorem reports_step (interpreter : Interpreter σ) (rest : List Operation) :
    interpreter.reports (.step :: rest) =
      .ofStep interpreter.step.1 :: interpreter.step.2.reports rest := by
  have hreport : Outcome.ofStep interpreter.step.1 ≠ .done := by
    cases interpreter.step.1 <;> exact Outcome.noConfusion
  exact List.filter_cons_of_pos (decide_eq_true hreport)

theorem reports_tick (interpreter : Interpreter σ) (rest : List Operation) :
    interpreter.reports (.tick :: rest) = (interpreter.onMachine Machine.tick).reports rest :=
  rfl

/-- Two sessions with the same course: the same words are executed, and what is
reported and where it ends is the same too. -/
structure SameCourse (interpreter : Interpreter σ) (first second : List Operation) : Prop where
  executed : interpreter.executed second = interpreter.executed first
  reports : interpreter.reports second = interpreter.reports first
  last : (interpreter.performAll second).2 = (interpreter.performAll first).2

namespace SameCourse

variable {interpreter : Interpreter σ} {first second third rest : List Operation}

theorem refl (interpreter : Interpreter σ) (operations : List Operation) :
    interpreter.SameCourse operations operations :=
  ⟨rfl, rfl, rfl⟩

theorem symm (hsame : interpreter.SameCourse first second) :
    interpreter.SameCourse second first :=
  ⟨hsame.executed.symm, hsame.reports.symm, hsame.last.symm⟩

theorem trans (hfirst : interpreter.SameCourse first second)
    (hsecond : interpreter.SameCourse second third) : interpreter.SameCourse first third :=
  ⟨hsecond.executed.trans hfirst.executed, hsecond.reports.trans hfirst.reports,
    hsecond.last.trans hfirst.last⟩

theorem cons {operation : Operation}
    (hsame : (interpreter.perform operation).2.SameCourse first second) :
    interpreter.SameCourse (operation :: first) (operation :: second) where
  executed := congrArg (interpreter.executedBy operation ++ ·) hsame.executed
  reports := by
    have hrest := hsame.reports
    unfold Interpreter.reports at hrest ⊢
    rw [performAll_cons, performAll_cons, List.filter_cons, List.filter_cons, hrest]
  last := hsame.last

/-- A tick in front of a step may change places with it. -/
theorem swap (hplain : interpreter.machine.currentWord.usesTimers = false)
    (rest : List Operation) :
    interpreter.SameCourse (.tick :: .step :: rest) (.step :: .tick :: rest) := by
  have hstep := step_tick hplain
  have hword : (interpreter.onMachine Machine.tick).machine.currentWord =
      interpreter.machine.currentWord :=
    Machine.tick_leavesProgram.currentWord interpreter.machine
  constructor
  · rw [executed_step, executed_tick, executed_tick, executed_step, hstep, hword]
  · rw [reports_step, reports_tick, reports_tick, reports_step, hstep]
  · rw [performAll_cons, performAll_cons, performAll_cons, performAll_cons, perform_step,
      perform_tick, perform_tick, perform_step, hstep]

/-- Steps and ticks may be put into any order. -/
theorem of_perm (hperm : first.Perm second)
    (hallowed : ∀ operation ∈ first, operation = .step ∨ operation = .tick)
    (hplain : ∀ word ∈ interpreter.executed first, word.usesTimers = false) :
    interpreter.SameCourse first second := by
  induction hperm generalizing interpreter with
  | nil => exact .refl _ _
  | cons operation _ ih =>
      refine .cons (ih ?_ ?_)
      · exact fun other hother => hallowed other (List.mem_cons_of_mem _ hother)
      · exact fun word hword => hplain word (List.mem_append_right _ hword)
  | swap later earlier rest =>
      rcases hallowed earlier List.mem_cons_self with rfl | rfl <;>
        rcases hallowed later (List.mem_cons_of_mem _ List.mem_cons_self) with rfl | rfl
      · exact .refl _ _
      · exact (swap (hplain _ List.mem_cons_self) rest).symm
      -- The tick comes first, but the word behind it is the same.
      · have hword : interpreter.machine.currentWord.usesTimers = false :=
          hplain _ List.mem_cons_self
        exact swap hword rest
      · exact .refl _ _
  | trans hfirst _ ihfirst ihsecond =>
      have hmiddle := ihfirst hallowed hplain
      refine hmiddle.trans (ihsecond ?_ ?_)
      · exact fun operation hoperation => hallowed operation (hfirst.mem_iff.mpr hoperation)
      · rwa [hmiddle.executed]

end SameCourse

/-- What is promised about a step next to a tick or a key event, and about the order of
steps and ticks. -/
structure StepsAreIndependent (interpreter : Interpreter σ) : Prop where
  /-- A tick in front of a step is as good as one behind it, unless the instruction
  reads or sets a timer. -/
  tick : interpreter.machine.currentWord.usesTimers = false →
    (interpreter.onMachine Machine.tick).step =
      (interpreter.step.1, interpreter.step.2.onMachine Machine.tick)
  /-- A key event in front of a step is as good as one behind it, unless the
  instruction looks at the key. -/
  key : ∀ (number : Nat) (pressed : Bool),
    interpreter.machine.currentWord.decode.any
      (interpreter.machine.looksAtKey number) = false →
    (interpreter.onMachine (·.setKey number pressed)).step =
      (interpreter.step.1, interpreter.step.2.onMachine (·.setKey number pressed))
  /-- Steps and ticks may be put into any order if, in one order, no instruction reads
  or sets a timer. -/
  session : ∀ first second : List Operation, first.Perm second →
    (∀ operation ∈ first, operation = .step ∨ operation = .tick) →
    (∀ word ∈ interpreter.executed first, word.usesTimers = false) →
    interpreter.SameCourse first second

/-- Ticks, keys and steps are independent of each other, wherever the machine is. -/
theorem stepsAreIndependent (interpreter : Interpreter σ) : StepsAreIndependent interpreter where
  tick := fun hplain => step_tick hplain
  key := fun _ pressed hunseen => step_setKey hunseen pressed
  session := fun _ _ hperm hallowed hplain => .of_perm hperm hallowed hplain

/-- Both timers run while an addition, a return that fails, a question for a key that is
not down and a wait for a key are executed. -/
theorem stepsAreIndependent_fault :
    let start : Interpreter CountingSource :=
      ((new ⟨0, 1⟩ none).performAll [.load [0x60, 0x05, 0xF0, 0x15, 0xF0, 0x18, 0x71, 0x01,
        0x00, 0xEE, 0xE0, 0x9E, 0xF2, 0x0A], .step, .step, .step]).2
    let first : List Operation := [.step, .step, .tick, .step, .tick, .step]
    let second : List Operation := [.tick, .step, .tick, .step, .step, .step]
    start.machine.currentWord = ⟨0x7101⟩ ∧
      (start.onMachine Machine.tick).step =
        (start.step.1, start.step.2.onMachine Machine.tick) ∧
      (start.onMachine (·.setKey 5 true)).step =
        (start.step.1, start.step.2.onMachine (·.setKey 5 true)) ∧
      start.executed first = [⟨0x7101⟩, ⟨0x00EE⟩, ⟨0xE09E⟩, ⟨0xF20A⟩] ∧
      start.SameCourse first second ∧
      start.reports second =
        [.flow .plain, .fault (.stackUnderflow 0x20A), .flow .plain, .flow .keyWait] ∧
      (start.performAll second).2.machine.delay = 3 := by
  intro start first second
  have hword : start.machine.currentWord = ⟨0x7101⟩ := by decide +kernel
  have hexecuted : start.executed first = [⟨0x7101⟩, ⟨0x00EE⟩, ⟨0xE09E⟩, ⟨0xF20A⟩] := by
    decide +kernel
  have hindependent := stepsAreIndependent start
  refine ⟨hword, hindependent.tick ?_, hindependent.key 5 true ?_, hexecuted,
    hindependent.session first second ?_ ?_ ?_, ?_, ?_⟩
  · rw [hword]
    decide
  · rw [hword]
    decide
  · decide
  · decide
  · rw [hexecuted]
    decide
  · decide +kernel
  · decide +kernel

end Interpreter
end ChipEight
