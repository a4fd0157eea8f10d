import Mathlib
import ChipEight.Proofs.Stack

/-!
# Faults

A step fails only at a return with nothing on the stack and at a call with the stack
at its limit.  The fault carries the address of the next word, and a step that fails
only passes its word, so that going on executes the next one.  Several instructions at
once are so many steps that end with the first one that fails
(`faultsAreExact`).

The steps of a run are numbered from zero.  `afterSteps` goes through failing steps as
through others; that a run stops is shown, not built in.
-/

namespace ChipEight

theorem Machine.atLimit_eq_true_iff {machine : Machine} {limit : Option Nat} :
    machine.atLimit limit = true ↔ ∃ most, limit = some most ∧ most ≤ machine.stack.size := by
  cases limit with
  | none => simp [atLimit]
  | some most => simp [atLimit]

namespace Interpreter

variable {σ : Type} [RandomSource σ]

/-- The interpreter after so many steps, whether they fail or not. -/
def afterSteps (interpreter : Interpreter σ) : Nat → Interpreter σ
  | 0 => interpreter
  | count + 1 => interpreter.step.2.afterSteps count

/-- What the step behind so many others answers. -/
def answerAt (interpreter : Interpreter σ) (place : Nat) : Except Fault Flow :=
  (interpreter.afterSteps place).step.1

/-- What is promised about faults, of a single step and of several instructions at once. -/
structure FaultsAreExact (interpreter : Interpreter σ) : Prop where
  underflow_iff : ∀ address : UInt16,
    interpreter.step.1 = .error (.stackUnderflow address) ↔
      interpreter.machine.currentWord.decode = some .ret ∧
        interpreter.machine.stack = #[] ∧ address = interpreter.machine.counter + 2
  overflow_iff : ∀ address : UInt16,
    interpreter.step.1 = .error (.stackOverflow address) ↔
      (∃ target, interpreter.machine.currentWord.decode = some (.call target)) ∧
        (∃ limit, interpreter.limit = some limit ∧ limit ≤ interpreter.machine.stack.size) ∧
        address = interpreter.machine.counter + 2
  /-- A step that fails passes its word and changes nothing else, so the word behind it
  is the next one. -/
  atomic : ∀ fault : Fault, interpreter.step.1 = .error fault →
    interpreter.step.2 =
        { interpreter with
          machine := { interpreter.machine with counter := interpreter.machine.counter + 2 } } ∧
      interpreter.step.2.machine.currentWord =
        Word.ofBytes (interpreter.machine.memory.read (interpreter.machine.counter + 2).toNat)
          (interpreter.machine.memory.read ((interpreter.machine.counter + 2).toNat + 1))
  /-- Several instructions fail if one of so many steps does. -/
  run_fails_iff : ∀ count : Nat,
    (∃ fault, (interpreter.run count).1 = .error fault) ↔
      ∃ place < count, ∃ fault, interpreter.answerAt place = .error fault
  /-- They end right behind the first step that fails. -/
  run_of_fault : ∀ (count place : Nat) (fault : Fault), place < count →
    (∀ earlier < place, ∃ flow, interpreter.answerAt earlier = .ok flow) →
    interpreter.answerAt place = .error fault →
    interpreter.run count = (.error fault, interpreter.afterSteps (place + 1))
  /-- If none fails they answer what the last one answers. -/
  run_of_flows : ∀ count : Nat,
    (∀ place ≤ count, ∃ flow, interpreter.answerAt place = .ok flow) →
    interpreter.run (count + 1) =
      (interpreter.answerAt count, interpreter.afterSteps (count + 1))
  run_zero : interpreter.run 0 = (.ok .plain, interpreter)

/-! ## One step -/

section Step

variable {interpreter : Interpreter σ} {fault : Fault}

/-- Only a return with nothing on the stack and a call at the limit make a step fail. -/
theorem step_fails_cases (hanswer : interpreter.step.1 = .error fault) :
    (interpreter.machine.currentWord.decode = some .ret ∧
        interpreter.machine.stack.back? = none ∧
        fault = .stackUnderflow (interpreter.machine.counter + 2)) ∨
      ∃ target, interpreter.machine.currentWord.decode = some (.call target) ∧
        interpreter.machine.atLimit interpreter.limit = true ∧
        fault = .stackOverflow (interpreter.machine.counter + 2) := by
  cases hword : interpreter.machine.currentWord.decode with
  | none =>
      rw [step_of_skipped hword] at hanswer
      cases hanswer
  | some instruction =>
      rw [step_of_instruction hword] at hanswer
      rcases Machine.fails_cases hanswer with ⟨rfl, hempty, hfault⟩ | ⟨target, rfl, hlimit, hfault⟩
      · exact .inl ⟨rfl, hempty, hfault⟩
      · exact .inr ⟨target, rfl, hlimit, hfault⟩

theorem step_underflow_iff (interpreter : Interpreter σ) (address : UInt16) :
    interpreter.step.1 = .error (.stackUnderflow address) ↔
      interpreter.machine.currentWord.decode = some .ret ∧
        interpreter.machine.stack = #[] ∧ address = interpreter.machine.counter + 2 := by
  rw [← Array.back?_eq_none_iff]
  constructor
  · intro hanswer
    rcases step_fails_cases hanswer with ⟨hword, hempty, hfault⟩ | ⟨_, _, _, hfault⟩
    · exact ⟨hword, hempty, Fault.stackUnderflow.inj hfault⟩
    · cases hfault
  · rintro ⟨hword, hempty, rfl⟩
    rw [step_of_ret_empty hword hempty]

theorem step_overflow_iff (interpreter : Interpreter σ) (address : UInt16) :
    interpreter.step.1 = .error (.stackOverflow address) ↔
      (∃ target, interpreter.machine.currentWord.decode = some (.call target)) ∧
        (∃ limit, interpreter.limit = some limit ∧ limit ≤ interpreter.machine.stack.size) ∧
        address = interpreter.machine.counter + 2 := by
  rw [← Machine.atLimit_eq_true_iff]
  constructor
  · intro hanswer
    rcases step_fails_cases hanswer with ⟨_, _, hfault⟩ | ⟨target, hword, hlimit, hfault⟩
    · cases hfault
    · exact ⟨⟨target, hword⟩, hlimit, Fault.stackOverflow.inj hfault⟩
  · rintro ⟨⟨target, hword⟩, hlimit, rfl⟩
    rw [step_of_call_refused hword hlimit]

/-- A step that fails passes its word. -/
theorem step_of_fault (hanswer : interpreter.step.1 = .error fault) :
    interpreter.step.2 = { interpreter with machine := interpreter.machine.advance } := by
  rcases step_fails_cases hanswer with ⟨hword, hempty, -⟩ | ⟨target, hword, hlimit, -⟩
  · rw [step_of_ret_empty hword hempty]
  · rw [step_of_call_refused hword hlimit]

end Step

/-! ## Several instructions -/

theorem runOn_succ_of_flow {interpreter : Interpreter σ} {flow : Flow}
    (hflow : interpreter.answerAt 0 = .ok flow) (last : Flow) (count : Nat) :
    interpreter.runOn last (count + 1) = interpreter.step.2.runOn flow count := by
  have hstep : interpreter.step = (.ok flow, interpreter.step.2) := Prod.ext hflow rfl
  rw [runOn, hstep]

theorem runOn_succ_of_fault {interpreter : Interpreter σ} {fault : Fault}
    (hfault : interpreter.answerAt 0 = .error fault) (last : Flow) (count : Nat) :
    interpreter.runOn last (count + 1) = (.error fault, interpreter.step.2) := by
  have hstep : interpreter.step = (.error fault, interpreter.step.2) := Prod.ext hfault rfl
  rw [runOn, hstep]

/-- Several instructions end right behind the first one that fails. -/
theorem runOn_of_fault (interpreter : Interpreter σ) (last : Flow) {count place : Nat}
    {fault : Fault} (hplace : place < count)
    (hbefore : ∀ earlier < place, ∃ flow, interpreter.answerAt earlier = .ok flow)
    (hfault : interpreter.answerAt place = .error fault) :
    interpreter.runOn last count = (.error fault, interpreter.afterSteps (place + 1)) := by
  induction place generalizing interpreter last count with
  | zero =>
      obtain ⟨rest, rfl⟩ := Nat.exists_eq_add_of_le' hplace
      exact runOn_succ_of_fault hfault last rest
  | succ place ih =>
      obtain ⟨rest, rfl⟩ := Nat.exists_eq_add_of_le' (Nat.one_le_of_lt hplace)
      obtain ⟨flow, hflow⟩ := hbefore 0 (Nat.succ_pos place)
      have hlater : ∀ earlier < place, ∃ flow, interpreter.step.2.answerAt earlier = .ok flow :=
        fun earlier hearlier => hbefore (earlier + 1) (Nat.succ_lt_succ hearlier)
      rw [runOn_succ_of_flow hflow]
      exact ih interpreter.step.2 flow (Nat.lt_of_succ_lt_succ hplace) hlater hfault

/-- Several instructions of which none fails are so many steps. -/
theorem runOn_of_flows (interpreter : Interpreter σ) (last : Flow) {count : Nat}
    (hflows : ∀ place ≤ count, ∃ flow, interpreter.answerAt place = .ok flow) :
    interpreter.runOn last (count + 1) =
      (interpreter.answerAt count, interpreter.afterSteps (count + 1)) := by
  induction count generalizing interpreter last with
  | zero =>
      obtain ⟨flow, hflow⟩ := hflows 0 le_rfl
      rw [runOn_succ_of_flow hflow, hflow]
      rfl
  | succ count ih =>
      obtain ⟨flow, hflow⟩ := hflows 0 (Nat.zero_le _)
      have hlater : ∀ place ≤ count, ∃ flow, interpreter.step.2.answerAt place = .ok flow :=
        fun place hplace => hflows (place + 1) (Nat.succ_le_succ hplace)
      rw [runOn_succ_of_flow hflow]
      exact ih interpreter.step.2 flow hlater

theorem answerAt_cases (interpreter : Interpreter σ) (place : Nat) :
    (∃ flow, interpreter.answerAt place = .ok flow) ∨
      ∃ fault, interpreter.answerAt place = .error fault := by
  cases interpreter.answerAt place with
  | ok flow => exact .inl ⟨flow, rfl⟩
  | error fault => exact .inr ⟨fault, rfl⟩

/-- Either none of the first steps fails, or there is a first one that does. -/
theorem flows_or_first_fault (interpreter : Interpreter σ) (count : Nat) :
    (∀ place < count, ∃ flow, interpreter.answerAt place = .ok flow) ∨
      ∃ place < count, ∃ fault, interpreter.answerAt place = .error fault ∧
        ∀ earlier < place, ∃ flow, interpreter.answerAt earlier = .ok flow := by
  induction count with
  | zero => exact .inl fun place hplace => absurd hplace (Nat.not_lt_zero place)
  | succ count ih =>
      rcases ih with hflows | ⟨place, hplace, hfirst⟩
      · rcases interpreter.answerAt_cases count with hflow | ⟨fault, hfault⟩
        · refine .inl fun place hplace => ?_
          rcases Nat.lt_succ_iff_lt_or_eq.mp hplace with hearlier | rfl
          · exact hflows place hearlier
          · exact hflow
        · exact .inr ⟨count, Nat.lt_succ_self count, fault, hfault, hflows⟩
      · exact .inr ⟨place, Nat.lt_succ_of_lt hplace, hfirst⟩

theorem run_fails_iff (interpreter : Interpreter σ) (count : Nat) :
    (∃ fault, (interpreter.run count).1 = .error fault) ↔
      ∃ place < count, ∃ fault, interpreter.answerAt place = .error fault := by
  rcases interpreter.flows_or_first_fault count with hflows | ⟨place, hplace, fault, hfault, hbefore⟩
  · constructor
    · rintro ⟨fault, hfault⟩
      cases count with
      | zero => cases hfault
      | succ count =>
          obtain ⟨flow, hflow⟩ := hflows count (Nat.lt_succ_self count)
          rw [run, runOn_of_flows _ _ fun place hplace => hflows place (Nat.lt_succ_of_le hplace),
            hflow] at hfault
          cases hfault
    · rintro ⟨place, hplace, fault, hfault⟩
      obtain ⟨flow, hflow⟩ := hflows place hplace
      rw [hflow] at hfault
      cases hfault
  · refine ⟨fun _ => ⟨place, hplace, fault, hfault⟩, fun _ => ⟨fault, ?_⟩⟩
    rw [run, runOn_of_fault _ _ hplace hbefore hfault]

/-- Faults say exactly what went wrong and where, and change nothing but the program
counter; several instructions end with the first fault. -/
theorem faultsAreExact (interpreter : Interpreter σ) : FaultsAreExact interpreter where
  underflow_iff := interpreter.step_underflow_iff
  overflow_iff := interpreter.step_overflow_iff
  atomic := by
    intro fault hfault
    have hafter := step_of_fault hfault
    exact ⟨hafter, congrArg (·.machine.currentWord) hafter⟩
  run_fails_iff := interpreter.run_fails_iff
  run_of_fault := fun _ _ _ hplace hbefore hfault =>
    interpreter.runOn_of_fault .plain hplace hbefore hfault
  run_of_flows := fun _ hflows => interpreter.runOn_of_flows .plain hflows
  run_zero := rfl

/-- A return with nothing on the stack, a call, and a call beyond the limit.  After the first
fault the call is executed, and the second fault ends a run of five instructions. -/
theorem faultsAreExact_bothFaults :
    let start : Interpreter CountingSource :=
      ((new ⟨0, 1⟩ (some 1)).perform (.load [0x00, 0xEE, 0x22, 0x04, 0x22, 0x00])).2
    let second := start.step.2
    start.step.1 = .error (.stackUnderflow 0x202) ∧ second.machine.counter = 0x202 ∧
      second.machine.currentWord = ⟨0x2204⟩ ∧
      (second.run 1).1 = .ok .jump ∧
      second.run 5 = (.error (.stackOverflow 0x206), second.afterSteps 2) := by
  intro start second
  have hword : start.machine.currentWord.decode = some .ret := by decide +kernel
  have hempty : start.machine.stack = #[] := by decide +kernel
  have hcounter : start.machine.counter = 0x200 := by decide +kernel
  have hunderflow : start.step.1 = .error (.stackUnderflow 0x202) :=
    ((faultsAreExact start).underflow_iff 0x202).mpr
      ⟨hword, hempty, by rw [hcounter]; decide⟩
  obtain ⟨hafter, hnext⟩ := (faultsAreExact start).atomic _ hunderflow
  have hjump : second.answerAt 0 = .ok .jump := by decide +kernel
  have hoverflow : second.answerAt 1 = .error (.stackOverflow 0x206) := by decide +kernel
  refine ⟨hunderflow, ?_, ?_, ?_, ?_⟩
  · change start.step.2.machine.counter = _
    rw [hafter]
    decide +kernel
  · change start.step.2.machine.currentWord = _
    rw [hnext]
    decide +kernel
  · rw [(faultsAreExact second).run_of_flows 0 fun place hplace => ?_, hjump]
    rw [Nat.le_zero.mp hplace]
    exact ⟨.jump, hjump⟩
  · refine (faultsAreExact second).run_of_fault 5 1 _ (by decide) (fun place hplace => ?_) hoverflow
    rw [Nat.lt_one_iff.mp hplace]
    exact ⟨.jump, hjump⟩

end Interpreter
end ChipEight
