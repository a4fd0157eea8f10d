import Mathlib
import ChipEight.Operation
import ChipEight.Proofs.Step

/-!
# The stack of return addresses

Only calls, returns and resets touch the stack, and calls and returns only at
its top.  `StackMove` lists everything that a single operation can do to the
stack, with what is known in each case (`stackMove_perform`).  It is what later
proofs about the stack start from; none of them looks at the instructions again.

An operation that executes several instructions is as good as so many steps
(`exists_steps_of_run`), so nothing is lost by speaking of single operations.
-/

namespace ChipEight

/-! ## Instructions -/

namespace Machine

@[simp]
theorem stack_advance (machine : Machine) : machine.advance.stack = machine.stack :=
  rfl

@[simp]
theorem atLimit_advance (machine : Machine) (limit : Option Nat) :
    machine.advance.atLimit limit = machine.atLimit limit :=
  rfl

theorem stack_skipIf (machine : Machine) (condition : Bool) :
    (machine.skipIf condition).stack = machine.stack := by
  cases condition <;> rfl

/-- Apart from calls and returns, no instruction touches the stack. -/
theorem stack_execute (machine : Machine) (limit : Option Nat) (noise : UInt8)
    {instruction : Instruction} (hret : instruction ≠ .ret)
    (hcall : ∀ target, instruction ≠ .call target) :
    (machine.execute limit noise instruction).2.stack = machine.stack := by
  cases instruction with
  | ret => exact absurd rfl hret
  | call target => exact absurd rfl (hcall target)
  | awaitKey x =>
      change (machine.readKey x).2.stack = _
      unfold readKey
      cases machine.keypad.first? <;> rfl
  | skipIfEqual x value => exact machine.stack_skipIf _
  | skipUnlessEqual x value => exact machine.stack_skipIf _
  | skipIfSame x y => exact machine.stack_skipIf _
  | skipUnlessSame x y => exact machine.stack_skipIf _
  | skipIfDown x => exact machine.stack_skipIf _
  | skipUnlessDown x => exact machine.stack_skipIf _
  | _ => rfl

/-- Only calls look at the limit of the stack, and only at whether it is
reached. -/
theorem execute_limit (machine : Machine) (first second : Option Nat) (noise : UInt8)
    {instruction : Instruction}
    (hcall : ∀ target, instruction = .call target →
      machine.atLimit first = machine.atLimit second) :
    machine.execute first noise instruction = machine.execute second noise instruction := by
  cases instruction with
  | call target =>
      change machine.callAt first _ = machine.callAt second _
      unfold callAt
      rw [hcall target rfl]
  | _ => rfl

end Machine

/-! ## Single operations -/

namespace Operation

/-- Whether an operation executes one instruction at most. -/
def isSingle : Operation → Bool
  | .run _ => false
  | _ => true

end Operation

namespace Interpreter

variable {σ : Type} [RandomSource σ] {interpreter : Interpreter σ}

theorem step_of_skipped (hword : interpreter.machine.currentWord.decode = none) :
    interpreter.step =
      (.ok .plain, { interpreter with machine := interpreter.machine.advance }) := by
  rw [step, hword]

theorem step_of_instruction {instruction : Instruction}
    (hword : interpreter.machine.currentWord.decode = some instruction) :
    interpreter.step =
      ((interpreter.machine.advance.execute interpreter.limit
          (noiseFor interpreter.source instruction).1 instruction).1,
        { interpreter with
          machine := (interpreter.machine.advance.execute interpreter.limit
            (noiseFor interpreter.source instruction).1 instruction).2
          source := (noiseFor interpreter.source instruction).2 }) := by
  rw [step, hword]

/-- A call that the limit does not allow only passes its word. -/
theorem step_of_call_refused {target : Fin 4096}
    (hword : interpreter.machine.currentWord.decode = some (.call target))
    (hlimit : interpreter.machine.atLimit interpreter.limit = true) :
    interpreter.step =
      (.error (.stackOverflow (interpreter.machine.counter + 2)),
        { interpreter with machine := interpreter.machine.advance }) := by
  have hcall : interpreter.machine.advance.callAt interpreter.limit (UInt16.ofNat target.val) =
      (.error (.stackOverflow (interpreter.machine.counter + 2)), interpreter.machine.advance) :=
    if_pos hlimit
  rw [step_of_instruction hword, Machine.execute, hcall]
  rfl

theorem step_of_call_taken {target : Fin 4096}
    (hword : interpreter.machine.currentWord.decode = some (.call target))
    (hlimit : interpreter.machine.atLimit interpreter.limit = false) :
    interpreter.step =
      (.ok .jump, { interpreter with
        machine := { interpreter.machine with
          counter := UInt16.ofNat target.val
          stack := interpreter.machine.stack.push (interpreter.machine.counter + 2) } }) := by
  have hcall : interpreter.machine.advance.callAt interpreter.limit (UInt16.ofNat target.val) =
      (.ok .jump, { interpreter.machine with
        counter := UInt16.ofNat target.val
        stack := interpreter.machine.stack.push (interpreter.machine.counter + 2) }) :=
    if_neg (by rw [Machine.atLimit_advance, hlimit]; exact Bool.false_ne_true)
  rw [step_of_instruction hword, Machine.execute, hcall]
  rfl

/-- A return with nothing on the stack only passes its word. -/
theorem step_of_ret_empty (hword : interpreter.machine.currentWord.decode = some .ret)
    (hempty : interpreter.machine.stack.back? = none) :
    interpreter.step =
      (.error (.stackUnderflow (interpreter.machine.counter + 2)),
        { interpreter with machine := interpreter.machine.advance }) := by
  have hreturn : interpreter.machine.advance.returnFromCall =
      (.error (.stackUnderflow (interpreter.machine.counter + 2)),
        interpreter.machine.advance) := by
    rw [Machine.returnFromCall, Machine.stack_advance, hempty]
    rfl
  rw [step_of_instruction hword, Machine.execute, hreturn]
  rfl

theorem step_of_ret_taken (hword : interpreter.machine.currentWord.decode = some .ret)
    {top : UInt16} (htop : interpreter.machine.stack.back? = some top) :
    interpreter.step =
      (.ok .jump, { interpreter with
        machine := { interpreter.machine with
          counter := top
          stack := interpreter.machine.stack.pop } }) := by
  have hreturn : interpreter.machine.advance.returnFromCall =
      (.ok .jump, { interpreter.machine with
        counter := top
        stack := interpreter.machine.stack.pop }) := by
    rw [Machine.returnFromCall, Machine.stack_advance, htop]
    rfl
  rw [step_of_instruction hword, Machine.execute, hreturn]
  rfl

/-- Everything that a single operation can do to the stack. -/
inductive StackMove (interpreter : Interpreter σ) (operation : Operation) (outcome : Outcome)
    (after : Machine) : Prop where
  | keep (hstack : after.stack = interpreter.machine.stack)
  | clear (hreset : operation = .reset) (hstack : after.stack = #[])
  /-- A call that succeeds puts the address of the next word on top. -/
  | push (target : Fin 4096) (hstep : operation = .step)
      (hword : interpreter.machine.currentWord.decode = some (.call target))
      (hroom : interpreter.machine.atLimit interpreter.limit = false)
      (hstack : after.stack = interpreter.machine.stack.push (interpreter.machine.counter + 2))
  /-- A return that succeeds takes the top off and goes on there. -/
  | pop (hstep : operation = .step) (houtcome : outcome = .flow .jump)
      (hword : interpreter.machine.currentWord.decode = some .ret)
      (htop : interpreter.machine.stack.back? = some after.counter)
      (hstack : after.stack = interpreter.machine.stack.pop)

theorem stackMove_step (interpreter : Interpreter σ) :
    StackMove interpreter .step (.ofStep interpreter.step.1) interpreter.step.2.machine := by
  cases hword : interpreter.machine.currentWord.decode with
  | none =>
      rw [step_of_skipped hword]
      exact .keep rfl
  | some instruction =>
      by_cases hret : instruction = .ret
      · subst hret
        cases htop : interpreter.machine.stack.back? with
        | none =>
            rw [step_of_ret_empty hword htop]
            exact .keep rfl
        | some top =>
            rw [step_of_ret_taken hword htop]
            exact .pop rfl rfl hword htop rfl
      by_cases hcall : ∃ target, instruction = .call target
      · obtain ⟨target, rfl⟩ := hcall
        cases hlimit : interpreter.machine.atLimit interpreter.limit with
        | true =>
            rw [step_of_call_refused hword hlimit]
            exact .keep rfl
        | false =>
            rw [step_of_call_taken hword hlimit]
            exact .push target rfl hword hlimit rfl
      · push Not at hcall
        rw [step_of_instruction hword]
        exact .keep (Machine.stack_execute _ _ _ hret hcall)

theorem stack_load (interpreter : Interpreter σ) (program : List UInt8) :
    (interpreter.perform (.load program)).2.machine.stack = interpreter.machine.stack := by
  simp only [perform, load, Machine.load]
  split_ifs <;> rfl

/-- Everything that a single operation can do to the stack is one of the moves. -/
theorem stackMove_perform (interpreter : Interpreter σ) {operation : Operation}
    (hsingle : operation.isSingle = true) :
    StackMove interpreter operation (interpreter.perform operation).1
      (interpreter.perform operation).2.machine := by
  cases operation with
  | run count => exact absurd hsingle Bool.false_ne_true
  | step => exact interpreter.stackMove_step
  | load program => exact .keep (interpreter.stack_load program)
  | reset => exact .clear rfl rfl
  | tick => exact .keep rfl
  | setKey key pressed => exact .keep rfl
  | releaseKeys => exact .keep rfl

/-! ## Sessions -/

/-- The depth of the stack before some operations and after each of them. -/
def depths (interpreter : Interpreter σ) : List Operation → List Nat
  | [] => [interpreter.machine.stack.size]
  | operation :: rest =>
    interpreter.machine.stack.size :: (interpreter.perform operation).2.depths rest

theorem size_mem_depths (interpreter : Interpreter σ) (operations : List Operation) :
    interpreter.machine.stack.size ∈ interpreter.depths operations := by
  cases operations <;> exact List.mem_cons_self

/-- The depth after the last operation is among the depths. -/
theorem size_performAll_mem_depths (interpreter : Interpreter σ) (operations : List Operation) :
    (interpreter.performAll operations).2.machine.stack.size ∈ interpreter.depths operations := by
  induction operations generalizing interpreter with
  | nil => exact List.mem_singleton_self _
  | cons operation rest ih => exact List.mem_cons_of_mem _ (ih _)

theorem performAll_cons (interpreter : Interpreter σ) (operation : Operation)
    (rest : List Operation) :
    interpreter.performAll (operation :: rest) =
      ((interpreter.perform operation).1 ::
          ((interpreter.perform operation).2.performAll rest).1,
        ((interpreter.perform operation).2.performAll rest).2) :=
  rfl

/-- Several instructions are so many steps, as far as they are executed. -/
theorem exists_steps_of_runOn (interpreter : Interpreter σ) (last : Flow) (count : Nat) :
    ∃ steps ≤ count, (interpreter.runOn last count).2 =
      (interpreter.performAll (List.replicate steps .step)).2 := by
  induction count generalizing interpreter last with
  | zero => exact ⟨0, le_rfl, rfl⟩
  | succ count ih =>
      cases hstep : interpreter.step with
      | mk answer after =>
          have hperform : (interpreter.perform .step).2 = after := by
            rw [perform, hstep]
          cases answer with
          | ok flow =>
              obtain ⟨steps, hle, hsteps⟩ := ih after flow
              refine ⟨steps + 1, by omega, ?_⟩
              rw [runOn, hstep, List.replicate_succ, performAll_cons, hperform]
              exact hsteps
          | error fault =>
              refine ⟨1, by omega, ?_⟩
              rw [runOn, hstep, List.replicate_one, performAll_cons, hperform]
              rfl

theorem exists_steps_of_run (interpreter : Interpreter σ) (count : Nat) :
    ∃ steps ≤ count, (interpreter.perform (.run count)).2 =
      (interpreter.performAll (List.replicate steps .step)).2 :=
  interpreter.exists_steps_of_runOn .plain count

end Interpreter
end ChipEight
