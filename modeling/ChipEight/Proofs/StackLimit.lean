import Mathlib
import ChipEight.Proofs.Stack

/-!
# The limit of the stack

A limit for the stack is not noticed until it is hit.  Two new interpreters, one
without a limit and one with it, give the same answers and go through the same
states as long as the stack of the first does not outgrow the limit.  The step
that makes it outgrow the limit is a call, and the interpreter with the limit
refuses it and only passes its word.  The stack of the interpreter with the limit
never outgrows it (`new_limitIsTransparent`).
-/

namespace ChipEight
namespace Interpreter

variable {σ : Type}

/-- The same interpreter with another limit. -/
def withLimit (interpreter : Interpreter σ) (limit : Option Nat) : Interpreter σ :=
  { interpreter with limit }

variable [RandomSource σ]

/-- What is promised about a limit, for two new interpreters with one random
source. -/
structure LimitIsTransparent (source : σ) (limit : Nat) : Prop where
  /-- As long as the stack does not outgrow the limit, nothing tells the two
  apart. -/
  unnoticed : ∀ operations : List Operation,
    (∀ operation ∈ operations, operation.isSingle = true) →
    (∀ depth ∈ (new source none).depths operations, depth ≤ limit) →
    (new source (some limit)).performAll operations =
      (((new source none).performAll operations).1,
        ((new source none).performAll operations).2.withLimit (some limit))
  /-- When the stack first outgrows the limit, it does so by one and at a call.
  The limit turns this call into a fault, which carries the address behind the
  call and changes nothing but the program counter. -/
  refused : ∀ (operations : List Operation) (last : Operation),
    (∀ operation ∈ operations ++ [last], operation.isSingle = true) →
    (∀ depth ∈ (new source none).depths operations, depth ≤ limit) →
    let common := ((new source none).performAll operations).2
    limit < (common.perform last).2.machine.stack.size →
    (common.perform last).2.machine.stack.size = limit + 1 ∧
      last = .step ∧
      (∃ target, common.machine.currentWord.decode = some (.call target)) ∧
      ((new source (some limit)).performAll operations).2.perform last =
        (.fault (.stackOverflow (common.machine.counter + 2)), {
          machine := { common.machine with counter := common.machine.counter + 2 }
          source := common.source
          limit := some limit })
  /-- With the limit, the stack never outgrows it. -/
  bounded : ∀ operations : List Operation,
    ((new source (some limit)).performAll operations).2.machine.stack.size ≤ limit

/-! ## One operation under two limits -/

/-- A step is the same under two limits, unless it is a call that only one of
them allows. -/
theorem step_withLimit (interpreter : Interpreter σ) (limit : Option Nat)
    (hcall : ∀ target, interpreter.machine.currentWord.decode = some (.call target) →
      interpreter.machine.atLimit limit = interpreter.machine.atLimit interpreter.limit) :
    (interpreter.withLimit limit).step =
      (interpreter.step.1, interpreter.step.2.withLimit limit) := by
  cases hword : interpreter.machine.currentWord.decode with
  | none =>
      have hsame : (interpreter.withLimit limit).machine.currentWord.decode = none := hword
      rw [step_of_skipped hword, step_of_skipped hsame]
      rfl
  | some instruction =>
      have hsame : (interpreter.withLimit limit).machine.currentWord.decode =
          some instruction := hword
      have hagree : ∀ target, instruction = .call target →
          interpreter.machine.advance.atLimit limit =
            interpreter.machine.advance.atLimit interpreter.limit :=
        fun target htarget => hcall target (hword.trans (congrArg some htarget))
      have hexecute := interpreter.machine.advance.execute_limit limit interpreter.limit
        (noiseFor interpreter.source instruction).1 hagree
      rw [step_of_instruction hword, step_of_instruction hsame, ← hexecute]
      rfl

theorem load_withLimit (interpreter : Interpreter σ) (limit : Option Nat)
    (program : List UInt8) :
    (interpreter.withLimit limit).perform (.load program) =
      ((interpreter.perform (.load program)).1,
        (interpreter.perform (.load program)).2.withLimit limit) := by
  simp only [perform, load, withLimit, Machine.load]
  split_ifs <;> rfl

section OneOperation

variable {unlimited : Interpreter σ} {limit : Nat} {operation : Operation}

/-- An operation that ends below the limit does not notice it. -/
theorem perform_withLimit (hnone : unlimited.limit = none) (hsingle : operation.isSingle = true)
    (hfits : (unlimited.perform operation).2.machine.stack.size ≤ limit) :
    (unlimited.withLimit (some limit)).perform operation =
      ((unlimited.perform operation).1,
        (unlimited.perform operation).2.withLimit (some limit)) := by
  cases operation with
  | run count => exact absurd hsingle Bool.false_ne_true
  | load program => exact unlimited.load_withLimit (some limit) program
  | reset => rfl
  | tick => rfl
  | setKey key pressed => rfl
  | releaseKeys => rfl
  | step =>
      have hstep : (unlimited.withLimit (some limit)).step =
          (unlimited.step.1, unlimited.step.2.withLimit (some limit)) := by
        apply step_withLimit
        intro target hword
        have hopen : unlimited.machine.atLimit unlimited.limit = false := by
          rw [hnone]
          rfl
        -- Without a limit the call succeeds, so there is room for one more entry.
        have hpushed : unlimited.step.2.machine.stack.size = unlimited.machine.stack.size + 1 := by
          rw [step_of_call_taken hword hopen]
          exact Array.size_push _
        have hroom : unlimited.step.2.machine.stack.size ≤ limit := hfits
        rw [hopen]
        exact decide_eq_false (by omega)
      rw [perform, hstep]
      rfl

/-- An operation that outgrows the limit is a call, which the limit refuses. -/
theorem refused_of_lt_size (hsingle : operation.isSingle = true)
    (hdepth : unlimited.machine.stack.size ≤ limit)
    (hover : limit < (unlimited.perform operation).2.machine.stack.size) :
    (unlimited.perform operation).2.machine.stack.size = limit + 1 ∧
      operation = .step ∧
      (∃ target, unlimited.machine.currentWord.decode = some (.call target)) ∧
      (unlimited.withLimit (some limit)).perform operation =
        (.fault (.stackOverflow (unlimited.machine.counter + 2)), {
          machine := { unlimited.machine with counter := unlimited.machine.counter + 2 }
          source := unlimited.source
          limit := some limit }) := by
  cases unlimited.stackMove_perform hsingle with
  | keep hstack =>
      rw [hstack] at hover
      omega
  | clear _ hstack =>
      rw [hstack] at hover
      exact absurd hover (Nat.not_lt_zero limit)
  | pop _ _ _ _ hstack =>
      rw [hstack, Array.size_pop] at hover
      omega
  | push target hstep hword _ hstack =>
      rw [hstack, Array.size_push] at hover ⊢
      have hfull : unlimited.machine.stack.size = limit := by
        omega
      have hlimit : (unlimited.withLimit (some limit)).machine.atLimit (some limit) = true :=
        decide_eq_true hfull.ge
      have hsame : (unlimited.withLimit (some limit)).machine.currentWord.decode =
          some (.call target) := hword
      refine ⟨by rw [hfull], hstep, ⟨target, hword⟩, ?_⟩
      rw [hstep, perform, step_of_call_refused hsame hlimit]
      rfl

end OneOperation

/-! ## The limit through a session -/

theorem limit_step (interpreter : Interpreter σ) : interpreter.step.2.limit = interpreter.limit := by
  rw [step_eq_respond]

/-- No single operation touches the limit. -/
theorem limit_perform (interpreter : Interpreter σ) {operation : Operation}
    (hsingle : operation.isSingle = true) :
    (interpreter.perform operation).2.limit = interpreter.limit := by
  cases operation with
  | run count => exact absurd hsingle Bool.false_ne_true
  | step => exact interpreter.limit_step
  | load program =>
      simp only [perform, load, Machine.load]
      split_ifs <;> rfl
  | reset => exact interpreter.limit_onMachine Machine.reset
  | tick => rfl
  | setKey key pressed => rfl
  | releaseKeys => rfl

theorem limit_performAll (interpreter : Interpreter σ) {operations : List Operation}
    (hsingle : ∀ operation ∈ operations, operation.isSingle = true) :
    (interpreter.performAll operations).2.limit = interpreter.limit := by
  induction operations generalizing interpreter with
  | nil => rfl
  | cons operation rest ih =>
      obtain ⟨hfirst, hrest⟩ := List.forall_mem_cons.mp hsingle
      rw [performAll_cons, ih _ hrest, limit_perform _ hfirst]

/-- Operations that stay below the limit do not notice it. -/
theorem performAll_withLimit {unlimited : Interpreter σ} {limit : Nat}
    {operations : List Operation} (hnone : unlimited.limit = none)
    (hsingle : ∀ operation ∈ operations, operation.isSingle = true)
    (hfits : ∀ depth ∈ unlimited.depths operations, depth ≤ limit) :
    (unlimited.withLimit (some limit)).performAll operations =
      ((unlimited.performAll operations).1,
        (unlimited.performAll operations).2.withLimit (some limit)) := by
  induction operations generalizing unlimited with
  | nil => rfl
  | cons operation rest ih =>
      obtain ⟨hfirst, hrest⟩ := List.forall_mem_cons.mp hsingle
      obtain ⟨-, hlater⟩ := List.forall_mem_cons.mp hfits
      have hnone' : (unlimited.perform operation).2.limit = none := by
        rw [limit_perform _ hfirst, hnone]
      rw [performAll_cons, performAll_cons,
        perform_withLimit hnone hfirst (hlater _ (size_mem_depths _ rest)),
        ih hnone' hrest hlater]

/-! ## The stack below the limit -/

/-- With a limit, no single operation makes the stack outgrow it. -/
theorem size_perform_le {interpreter : Interpreter σ} {limit : Nat} {operation : Operation}
    (hlimit : interpreter.limit = some limit) (hsingle : operation.isSingle = true)
    (hdepth : interpreter.machine.stack.size ≤ limit) :
    (interpreter.perform operation).2.machine.stack.size ≤ limit := by
  cases interpreter.stackMove_perform hsingle with
  | keep hstack =>
      rw [hstack]
      exact hdepth
  | clear _ hstack =>
      rw [hstack]
      exact Nat.zero_le limit
  | pop _ _ _ _ hstack =>
      rw [hstack, Array.size_pop]
      omega
  | push target _ _ hroom hstack =>
      have hbelow : interpreter.machine.stack.size < limit := by
        rw [hlimit] at hroom
        exact Nat.lt_of_not_le (of_decide_eq_false hroom)
      rw [hstack, Array.size_push]
      exact hbelow

theorem size_performAll_le_of_isSingle {interpreter : Interpreter σ} {limit : Nat}
    {operations : List Operation} (hlimit : interpreter.limit = some limit)
    (hsingle : ∀ operation ∈ operations, operation.isSingle = true)
    (hdepth : interpreter.machine.stack.size ≤ limit) :
    (interpreter.performAll operations).2.machine.stack.size ≤ limit := by
  induction operations generalizing interpreter with
  | nil => exact hdepth
  | cons operation rest ih =>
      obtain ⟨hfirst, hrest⟩ := List.forall_mem_cons.mp hsingle
      have hlimit' : (interpreter.perform operation).2.limit = some limit := by
        rw [limit_perform _ hfirst, hlimit]
      exact ih hlimit' hrest (size_perform_le hlimit hfirst hdepth)

/-- Every operation is as good as some single ones. -/
theorem exists_single_of_perform (interpreter : Interpreter σ) (operation : Operation) :
    ∃ singles : List Operation, (∀ single ∈ singles, single.isSingle = true) ∧
      (interpreter.perform operation).2 = (interpreter.performAll singles).2 := by
  cases hsingle : operation.isSingle with
  | true =>
      exact ⟨[operation], fun other hother => by rwa [List.mem_singleton.mp hother], rfl⟩
  | false =>
      cases operation with
      | run count =>
          obtain ⟨steps, -, hsteps⟩ := interpreter.exists_steps_of_run count
          exact ⟨List.replicate steps .step,
            fun single hmem => by rw [List.eq_of_mem_replicate hmem]; rfl, hsteps⟩
      | _ => exact absurd hsingle.symm Bool.false_ne_true

/-- With a limit, the stack never outgrows it, whatever is done. -/
theorem size_performAll_le {interpreter : Interpreter σ} {limit : Nat}
    (operations : List Operation) (hlimit : interpreter.limit = some limit)
    (hdepth : interpreter.machine.stack.size ≤ limit) :
    (interpreter.performAll operations).2.machine.stack.size ≤ limit := by
  induction operations generalizing interpreter with
  | nil => exact hdepth
  | cons operation rest ih =>
      obtain ⟨singles, hsingle, hafter⟩ := interpreter.exists_single_of_perform operation
      rw [performAll_cons]
      apply ih
      · rw [hafter, limit_performAll _ hsingle, hlimit]
      · rw [hafter]
        exact size_performAll_le_of_isSingle hlimit hsingle hdepth

/-- A limit for the stack is not noticed until it is hit, and then turns the call
that hits it into a fault. -/
theorem new_limitIsTransparent (source : σ) (limit : Nat) :
    LimitIsTransparent source limit where
  unnoticed := fun _ hsingle hfits => performAll_withLimit rfl hsingle hfits
  refused := by
    intro operations last hsingle hfits common hover
    have hinner : ∀ operation ∈ operations, operation.isSingle = true :=
      fun operation hoperation => hsingle operation (List.mem_append_left _ hoperation)
    have hlast : last.isSingle = true :=
      hsingle last (List.mem_append_right _ (List.mem_singleton_self last))
    have hcommon : ((new source (some limit)).performAll operations).2 =
        common.withLimit (some limit) :=
      congrArg Prod.snd (performAll_withLimit rfl hinner hfits)
    rw [hcommon]
    exact refused_of_lt_size hlast (hfits _ (size_performAll_mem_depths _ operations)) hover
  bounded := fun operations => size_performAll_le operations rfl (Nat.zero_le limit)

/-- A program that calls itself without end: the second call hits a limit of one. -/
theorem new_limitIsTransparent_selfCall :
    let source : CountingSource := ⟨0, 1⟩
    let operations : List Operation := [.load [0x22, 0x00], .step]
    (new source none).depths (operations ++ [.step]) = [0, 0, 1, 2] ∧
      (((new source (some 1)).performAll operations).2.perform .step).1 =
        .fault (.stackOverflow 0x202) := by
  intro source operations
  have hdepths : (new source none).depths operations = [0, 0, 1] := by decide +kernel
  have hover : (((new source none).performAll operations).2.perform .step).2.machine.stack.size =
      2 := by decide +kernel
  have hcounter : ((new source none).performAll operations).2.machine.counter + 2 = 0x202 := by
    decide +kernel
  obtain ⟨-, -, -, hrefused⟩ := (new_limitIsTransparent source 1).refused operations .step
    (by decide) (by rw [hdepths]; decide) (by rw [hover]; decide)
  refine ⟨by decide +kernel, ?_⟩
  rw [hrefused, hcounter]

end Interpreter
end ChipEight
