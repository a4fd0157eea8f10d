import Mathlib
import ChipEight.Proofs.Stack

/-!
# Calls and their returns

Calls and returns are brackets around whatever is executed between them.  A call
that succeeds leaves a frame on the stack: the stack as it was, and on top of it
the address behind the call.  The frame stays where it is as long as the stack is
deeper than it was before the call, and the first operation that takes the stack
back to the old depth is the return to the address behind the call
(`call_isBracketed`).

Nothing is assumed about the program, which may be changed or loaded anew in the
meantime, and instructions may fail.  Only a reset is left out, since it empties
the stack.
-/

namespace ChipEight

/-- A stack that begins with a given stack and, on top of that, a given address. -/
def Framed (base : Array UInt16) (back : UInt16) (stack : Array UInt16) : Prop :=
  (base.push back).toList <+: stack.toList

namespace Framed

variable {base stack : Array UInt16} {back : UInt16}

instance : Decidable (Framed base back stack) :=
  inferInstanceAs (Decidable ((base.push back).toList <+: stack.toList))

theorem of_eq_push (hpushed : stack = base.push back) : Framed base back stack := by
  rw [hpushed]
  exact List.prefix_rfl

theorem lt_size (hframed : Framed base back stack) : base.size < stack.size := by
  have hlength := hframed.length_le
  rw [Array.length_toList, Array.length_toList, Array.size_push] at hlength
  exact hlength

theorem push (hframed : Framed base back stack) (address : UInt16) :
    Framed base back (stack.push address) := by
  unfold Framed
  rw [stack.toList_push]
  exact hframed.trans (List.prefix_append _ _)

/-- The top may be taken off as long as it is not the frame itself. -/
theorem pop (hframed : Framed base back stack) (hdeep : base.size < stack.pop.size) :
    Framed base back stack.pop := by
  have hpop : stack.pop.toList <+: stack.toList := by
    rw [stack.toList_pop]
    exact List.dropLast_prefix _
  refine List.prefix_of_prefix_length_le hframed hpop ?_
  rw [Array.length_toList, Array.length_toList, Array.size_push]
  exact hdeep

theorem eq_push (hframed : Framed base back stack) (hsize : stack.size = base.size + 1) :
    stack = base.push back := by
  have hlength : (base.push back).toList.length = stack.toList.length := by
    rw [Array.length_toList, Array.length_toList, Array.size_push, hsize]
  exact (Array.toList_inj.mp (hframed.eq_of_length hlength)).symm

end Framed

namespace Interpreter

variable {σ : Type} [RandomSource σ] {base : Array UInt16} {back : UInt16}

/-- What is promised about the time from a call on.  The stack before the call
was `base`, and `back` is the address behind it. -/
structure IsBracketed (called : Interpreter σ) (base : Array UInt16) (back : UInt16) : Prop where
  /-- The call leaves its frame. -/
  pushed : called.machine.stack = base.push back
  /-- The frame is there as long as the stack is deeper than before the call. -/
  framed : ∀ operations : List Operation,
    (∀ operation ∈ operations, operation.isSingle = true ∧ operation ≠ .reset) →
    (∀ depth ∈ called.depths operations, base.size + 1 ≤ depth) →
    Framed base back (called.performAll operations).2.machine.stack
  /-- What ends this time is a return, to the old stack and the address behind
  the call. -/
  returns : ∀ (operations : List Operation) (last : Operation),
    (∀ operation ∈ operations ++ [last],
      operation.isSingle = true ∧ operation ≠ .reset) →
    (∀ depth ∈ called.depths operations, base.size + 1 ≤ depth) →
    let before := (called.performAll operations).2
    let after := (before.perform last).2
    after.machine.stack.size ≤ base.size →
    last = .step ∧ before.machine.currentWord.decode = some .ret ∧
      (before.perform last).1 = .flow .jump ∧
      after.machine.stack = base ∧ after.machine.counter = back

section Frames

variable {interpreter : Interpreter σ}

/-- One operation keeps the frame, unless it takes the stack back to the depth
before the call. -/
theorem framed_perform (hframed : Framed base back interpreter.machine.stack)
    {operation : Operation} (hsingle : operation.isSingle = true) (hreset : operation ≠ .reset)
    (hdeep : base.size + 1 ≤ (interpreter.perform operation).2.machine.stack.size) :
    Framed base back (interpreter.perform operation).2.machine.stack := by
  cases interpreter.stackMove_perform hsingle with
  | keep hstack => rwa [hstack]
  | clear hclear _ => exact absurd hclear hreset
  | push target _ _ _ hstack =>
      rw [hstack]
      exact hframed.push _
  | pop _ _ _ _ hstack =>
      rw [hstack] at hdeep ⊢
      exact hframed.pop hdeep

theorem framed_performAll (hframed : Framed base back interpreter.machine.stack)
    {operations : List Operation}
    (hallowed : ∀ operation ∈ operations, operation.isSingle = true ∧ operation ≠ .reset)
    (hdeep : ∀ depth ∈ interpreter.depths operations, base.size + 1 ≤ depth) :
    Framed base back (interpreter.performAll operations).2.machine.stack := by
  induction operations generalizing interpreter with
  | nil => exact hframed
  | cons operation rest ih =>
      obtain ⟨hsingle, hreset⟩ := hallowed operation List.mem_cons_self
      have hlater : ∀ depth ∈ (interpreter.perform operation).2.depths rest,
          base.size + 1 ≤ depth :=
        fun depth hdepth => hdeep depth (List.mem_cons_of_mem _ hdepth)
      have hafter : Framed base back (interpreter.perform operation).2.machine.stack :=
        framed_perform hframed hsingle hreset (hlater _ (size_mem_depths _ rest))
      exact ih hafter (fun other hother => hallowed other (List.mem_cons_of_mem _ hother)) hlater

/-- Only a return takes the stack below a frame, and it goes where the frame
says. -/
theorem returns_of_size_le (hframed : Framed base back interpreter.machine.stack)
    {operation : Operation} (hsingle : operation.isSingle = true) (hreset : operation ≠ .reset)
    (hshallow : (interpreter.perform operation).2.machine.stack.size ≤ base.size) :
    operation = .step ∧ interpreter.machine.currentWord.decode = some .ret ∧
      (interpreter.perform operation).1 = .flow .jump ∧
      (interpreter.perform operation).2.machine.stack = base ∧
      (interpreter.perform operation).2.machine.counter = back := by
  have hdeep := hframed.lt_size
  cases interpreter.stackMove_perform hsingle with
  | keep hstack =>
      rw [hstack] at hshallow
      omega
  | clear hclear _ => exact absurd hclear hreset
  | push target _ _ _ hstack =>
      rw [hstack, Array.size_push] at hshallow
      omega
  | pop hstep houtcome hword htop hstack =>
      -- One entry was taken off, so what was there is the frame and nothing else.
      have hsize : interpreter.machine.stack.size = base.size + 1 := by
        rw [hstack, Array.size_pop] at hshallow
        omega
      have hframe := hframed.eq_push hsize
      refine ⟨hstep, hword, houtcome, ?_, ?_⟩
      · rw [hstack, hframe, Array.pop_push]
      · rw [hframe, Array.back?_push] at htop
        exact (Option.some.inj htop).symm

end Frames

theorem isBracketed_of_pushed {called : Interpreter σ}
    (hpushed : called.machine.stack = base.push back) : IsBracketed called base back where
  pushed := hpushed
  framed := fun _ hallowed hdeep => framed_performAll (.of_eq_push hpushed) hallowed hdeep
  returns := by
    intro operations last hallowed hdeep before after hshallow
    have hinner : ∀ operation ∈ operations, operation.isSingle = true ∧ operation ≠ .reset :=
      fun operation hoperation => hallowed operation (List.mem_append_left _ hoperation)
    obtain ⟨hsingle, hreset⟩ := hallowed last (List.mem_append_right _ (List.mem_singleton_self _))
    exact returns_of_size_le (framed_performAll (.of_eq_push hpushed) hinner hdeep) hsingle hreset
      hshallow

/-- A call that succeeds is bracketed with its return: until the stack has its
old depth again it keeps the frame of the call, and what brings it back to that
depth is a return to the address behind the call. -/
theorem call_isBracketed (interpreter : Interpreter σ) {target : Fin 4096} {flow : Flow}
    (hcall : interpreter.machine.currentWord.decode = some (.call target))
    (hsucceeds : interpreter.step.1 = .ok flow) :
    IsBracketed interpreter.step.2 interpreter.machine.stack
      (interpreter.machine.counter + 2) := by
  apply isBracketed_of_pushed
  cases hlimit : interpreter.machine.atLimit interpreter.limit with
  | true =>
      rw [step_of_call_refused hcall hlimit] at hsucceeds
      contradiction
  | false =>
      rw [step_of_call_taken hcall hlimit]

/-- A call whose subroutine calls itself until the limit of the stack, is then loaded anew, and
returns twice. -/
theorem call_isBracketed_nested :
    let start : Interpreter CountingSource :=
      ((Interpreter.new ⟨0, 1⟩ (some 2)).perform
        (.load [0x22, 0x04, 0x00, 0x00, 0x22, 0x06, 0x22, 0x06])).2
    let inside : List Operation :=
      [.step, .tick, .step, .load [0, 0, 0, 0, 0, 0, 0x00, 0xEE, 0x00, 0xEE], .setKey 5 true,
        .step]
    start.machine.currentWord.decode = some (.call 0x204) ∧ start.step.1 = .ok .jump ∧
      IsBracketed start.step.2 start.machine.stack (start.machine.counter + 2) ∧
      start.step.2.depths inside = [1, 2, 2, 2, 2, 2, 1] ∧
      ((start.step.2.performAll inside).2.perform .step).2.machine.stack = #[] ∧
      ((start.step.2.performAll inside).2.perform .step).2.machine.counter = 0x202 := by
  intro start inside
  have hcall : start.machine.currentWord.decode = some (.call 0x204) := by decide +kernel
  have hsucceeds : start.step.1 = .ok .jump := by decide +kernel
  have hdepths : start.step.2.depths inside = [1, 2, 2, 2, 2, 2, 1] := by decide +kernel
  have hempty : start.machine.stack = #[] := by decide +kernel
  have hcounter : start.machine.counter + 2 = 0x202 := by decide +kernel
  have hbracketed := call_isBracketed start hcall hsucceeds
  have hreturns := hbracketed.returns inside .step (by decide)
    (by rw [hdepths, hempty]; decide) (by rw [hempty]; decide +kernel)
  obtain ⟨-, -, -, hstack, hback⟩ := hreturns
  exact ⟨hcall, hsucceeds, hbracketed, hdepths, hstack.trans hempty, hback.trans hcounter⟩

end Interpreter
end ChipEight
