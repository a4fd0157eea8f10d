import Mathlib
import ChipEight.Operation
import ChipEight.Proofs.Run.Timetable

/-!
# What follows the last instruction

A run with a greatest number of instructions should leave the machine as the last of
them leaves it.  But the number is looked at only when another instruction is about to
be executed, and by then the timers may have ticked.  Between two instructions there
are as many ticks as begin with the same number of instructions due (`ticksAt`), and
after the last instruction it is the same (`execute_endsWithStep_iff`): the run ends
with it exactly when no tick of the run begins just then.

The invariant is that the actions so far end with an instruction and the ticks that
have begun since (`Reachable.trailing`).
-/

namespace ChipEight

/-- How many of the first ticks begin when a given number of instructions is due. -/
def RunConfig.ticksAt (config : RunConfig) (steps ticks : Nat) : Nat :=
  Nat.count (fun k => config.due k = steps) ticks

section TicksAt

variable {config : RunConfig} {steps ticks : Nat}

theorem RunConfig.ticksAt_eq_zero_iff :
    config.ticksAt steps ticks = 0 ↔ ∀ k < ticks, config.due k ≠ steps := by
  constructor
  · intro hzero k hk hdue
    exact Nat.count_ne_iff_exists.mpr ⟨k, hk, hdue⟩ hzero
  · exact Nat.count_of_forall_not

/-- Ticks that begin later, with more instructions due, do not matter. -/
theorem RunConfig.ticksAt_of_lt_due {total : Nat} (hle : ticks ≤ total)
    (hlater : ticks < total → steps < config.due ticks) :
    config.ticksAt steps total = config.ticksAt steps ticks := by
  obtain ⟨more, rfl⟩ := Nat.exists_eq_add_of_le hle
  have hnone : Nat.count (fun k => config.due (ticks + k) = steps) more = 0 := by
    refine Nat.count_of_forall_not fun k hk hdue => ?_
    have hmono : config.due ticks ≤ config.due (ticks + k) :=
      Clock.due_mono _ _ (Nat.le_add_right _ _)
    have hless := hlater (by omega)
    omega
  rw [ticksAt, ticksAt, Nat.count_add, hnone, Nat.add_zero]

end TicksAt

theorem Interpreter.actAll_replicate_tick {σ : Type} [RandomSource σ]
    (interpreter : Interpreter σ) (count : Nat) :
    interpreter.actAll (List.replicate count .tick) =
      interpreter.onMachine (Machine.tick^[count]) := by
  induction count generalizing interpreter with
  | zero => rfl
  | succ count ih =>
      rw [List.replicate_succ, actAll_cons, ih]
      rfl

namespace Run

variable {σ : Type} [RandomSource σ] {interpreter : Interpreter σ} {config : RunConfig}
  {history : List RunAction} {left : Nat} {run : Run σ}

/-- The actions of a run in progress end with an instruction, if there is one, and the
ticks since then. -/
theorem Reachable.trailing (hreached : Reachable interpreter config history left run)
    (hfault : run.fault? = none) : ∃ before,
      history = before ++ List.replicate (config.ticksAt run.steps run.ticks) .tick ∧
      (before = [] ∨ ∃ earlier, before = earlier ++ [.step]) := by
  induction hreached with
  | start => exact ⟨[], rfl, .inl rfl⟩
  | @beginTick history run hreached hrunning hticks ih =>
      obtain ⟨before, hhistory, hbefore⟩ := ih hfault
      obtain ⟨-, hdue⟩ := hreached.progress.onTime hrunning
      have hbegins : config.due run.ticks = run.steps := hdue.symm
      have hcount : config.ticksAt run.steps (run.ticks + 1) =
          config.ticksAt run.steps run.ticks + 1 := by
        rw [RunConfig.ticksAt, Nat.count_succ, if_pos hbegins]
        rfl
      refine ⟨before, ?_, hbefore⟩
      change history ++ [.tick] =
        before ++ List.replicate (config.ticksAt run.steps (run.ticks + 1)) .tick
      rw [hcount, List.replicate_succ', ← List.append_assoc, ← hhistory]
  | @instruction history left run hreached hrunning ih =>
      have hbefore : run.fault? = none := by
        rw [fault?, hrunning]
      rcases run.instruction_cases config.stepLimit with
        ⟨-, hactions, hrun⟩ | ⟨-, hactions, ⟨flow, log, -, hrun⟩ | ⟨fault, log, -, hrun⟩⟩
      · rw [hactions, hrun, List.append_nil]
        exact ih hbefore
      -- No tick has begun since an instruction that has just been executed.
      · obtain ⟨hlate, -⟩ := hreached.progress.onTime hrunning
        have hnone : config.ticksAt (run.steps + 1) run.ticks = 0 := by
          rw [RunConfig.ticksAt_eq_zero_iff]
          intro k hk
          have hmono : config.due k ≤ config.due (run.ticks - 1) :=
            Clock.due_mono _ _ (by omega)
          omega
        rw [hactions, hrun]
        refine ⟨history ++ run.stepActions, ?_, .inr ⟨_, (List.append_assoc _ _ _).symm⟩⟩
        rw [hnone, List.replicate_zero, List.append_nil]
      · rw [hrun] at hfault
        cases hfault
  | @endTick history run hreached hrunning ih =>
      obtain ⟨log, hnoted⟩ := run.noteBuzzer_eq
      rw [hnoted] at hfault ⊢
      exact ih hfault

/-! ## Whole runs -/

/-- An instruction that fails does so within the greatest number of instructions. -/
theorem Progress.fault?_eq_none (hprogress : Progress interpreter config history left run)
    (hsucceeds : ∀ fault : Fault,
      .error fault ∉ (interpreter.answers history).take config.stepLimit) :
    run.fault? = none := by
  obtain ⟨flows, hanswers, hsteps, -⟩ := hprogress.answered
  rw [Option.eq_none_iff_forall_ne_some]
  intro fault hfault
  obtain ⟨hlimit, -, -⟩ := hprogress.failed fault (fault?_eq_some_iff.mp hfault)
  have hlength : (interpreter.answers history).length ≤ config.stepLimit := by
    simp only [hanswers, faultAnswers, hfault, List.length_append, List.length_map, hsteps,
      Option.toList_some, List.length_singleton]
    omega
  apply hsucceeds fault
  rw [List.take_of_length_le hlength, hanswers, faultAnswers, hfault]
  simp

/-- A run without a fault that ends before its time has more instructions due. -/
theorem Progress.lt_due (hprogress : Progress interpreter config history left run)
    (hdone : run.status = .running → left = 0 ∧ run.ticks = config.tickCount)
    (hfault : run.fault? = none) (hearly : run.ticks < config.tickCount) :
    run.steps < config.due run.ticks := by
  cases hstatus : run.status with
  | running =>
      obtain ⟨-, hticks⟩ := hdone hstatus
      omega
  | exhausted => exact (hprogress.exhausted hstatus).2
  | failed fault =>
      rw [fault?, hstatus] at hfault
      contradiction

theorem count_step_replicate_tick (count : Nat) :
    (List.replicate count RunAction.tick).count .step = 0 := by
  simp [List.count_replicate]

/-- A run that executes its greatest number of instructions ends with the last of them
and the ticks that begin before another one is due. -/
theorem exists_lastStep (interpreter : Interpreter σ) {most : Nat}
    (hmost : config.maxSteps = some most) (hpos : 0 < most)
    (hdue : most ≤ config.due config.tickCount)
    (hsucceeds : ∀ fault : Fault,
      .error fault ∉ (interpreter.answers (actions interpreter config)).take most) :
    ∃ before, before.count .step + 1 = most ∧
      actions interpreter config =
        before ++ .step :: List.replicate (config.ticksAt most config.tickCount) .tick := by
  have hlimit : config.stepLimit = most := by
    rw [RunConfig.stepLimit, hmost, Option.getD_some]
  obtain ⟨left, hreached, hdone⟩ := reachable_execute interpreter config
  have hprogress := hreached.progress
  have hfault := hprogress.fault?_eq_none (by rwa [hlimit])
  have hsteps : (execute interpreter config).steps = most := by
    obtain ⟨hall, -⟩ := hprogress.steps_eq hdone hfault
    rw [hall, hlimit, Nat.min_eq_left hdue]
  have hcount : (actions interpreter config).count .step = most := by
    rw [hprogress.count_step_eq, hfault, hsteps]
    rfl
  have htotal := RunConfig.ticksAt_of_lt_due hprogress.ticksLe (hprogress.lt_due hdone hfault)
  obtain ⟨before, hactions, hbefore⟩ := hreached.trailing hfault
  rw [← htotal, hsteps] at hactions
  rw [hactions, List.count_append, count_step_replicate_tick, Nat.add_zero] at hcount
  rcases hbefore with rfl | ⟨earlier, rfl⟩
  · rw [List.count_nil] at hcount
    omega
  · refine ⟨earlier, ?_, ?_⟩
    · rw [← hcount, List.count_append]
      rfl
    · rw [hactions, List.append_assoc]
      rfl

/-- The run ends with the given instruction: nothing happens after it, and the
interpreter is left as the instruction leaves it. -/
def EndsWithStep (interpreter : Interpreter σ) (config : RunConfig) (number : Nat) : Prop :=
  ∃ before, before.count .step + 1 = number ∧
    actions interpreter config = before ++ [.step] ∧
    (execute interpreter config).interpreter = (interpreter.actAll before).step.2

/-- A run that reaches its greatest number of instructions ends with the last of them
exactly when no tick of the run begins with so many instructions due.  Otherwise these
ticks, but no key events, still follow. -/
theorem execute_endsWithStep_iff (interpreter : Interpreter σ) {most : Nat}
    (hmost : config.maxSteps = some most) (hpos : 0 < most)
    (hdue : most ≤ config.due config.tickCount)
    (hsucceeds : ∀ fault : Fault,
      .error fault ∉ (interpreter.answers (actions interpreter config)).take most) :
    (EndsWithStep interpreter config most ↔ ∀ k < config.tickCount, config.due k ≠ most) ∧
    ∃ before, before.count .step + 1 = most ∧
      actions interpreter config =
        before ++ .step :: List.replicate (config.ticksAt most config.tickCount) .tick ∧
      (execute interpreter config).interpreter =
        (interpreter.actAll before).step.2.onMachine
          (Machine.tick^[config.ticksAt most config.tickCount]) := by
  obtain ⟨before, hcount, hactions⟩ := exists_lastStep interpreter hmost hpos hdue hsucceeds
  have hstate : (execute interpreter config).interpreter =
      (interpreter.actAll before).step.2.actAll
        (List.replicate (config.ticksAt most config.tickCount) .tick) := by
    rw [(execute_keepsTime interpreter config).state, hactions, interpreter.actAll_append]
    rfl
  rw [Interpreter.actAll_replicate_tick] at hstate
  refine ⟨?_, before, hcount, hactions, hstate⟩
  rw [← RunConfig.ticksAt_eq_zero_iff]
  constructor
  · rintro ⟨other, -, hother, -⟩
    by_contra hticks
    -- One of the two accounts ends with a tick, the other with an instruction.
    obtain ⟨more, hmore⟩ := Nat.exists_eq_succ_of_ne_zero hticks
    rw [hactions, hmore, List.replicate_succ', ← List.cons_append, ← List.append_assoc] at hother
    obtain ⟨-, hlast⟩ := List.append_inj' hother rfl
    cases hlast
  · intro hzero
    rw [hzero] at hactions hstate
    exact ⟨before, hcount, hactions, hstate⟩

/-- Two instructions to a tick: the third one is the last thing that happens. -/
theorem execute_endsWithStep_iff_third :
    let config : RunConfig := {
      RunConfig.default with cpuFrequency := 120, durationMs := 100, maxSteps := some 3 }
    let interpreter : Interpreter CountingSource :=
      ((Interpreter.new ⟨0, 1⟩ none).perform (.load [0x6A, 0x05, 0xFA, 0x15, 0x12, 0x04])).2
    config.maxSteps = some 3 ∧ 3 ≤ config.due config.tickCount ∧
      (∀ fault : Fault,
        .error fault ∉ (interpreter.answers (actions interpreter config)).take 3) ∧
      EndsWithStep interpreter config 3 := by
  intro config interpreter
  have hdue : 3 ≤ config.due config.tickCount := by decide
  have hanswers : (interpreter.answers (actions interpreter config)).take 3 =
      [.ok .plain, .ok .plain, .ok .jump] := by decide +kernel
  have hsucceeds : ∀ fault : Fault,
      .error fault ∉ (interpreter.answers (actions interpreter config)).take 3 := by
    intro fault
    rw [hanswers]
    simp
  obtain ⟨hends, -⟩ := execute_endsWithStep_iff interpreter rfl (by decide) hdue hsucceeds
  exact ⟨rfl, hdue, hsucceeds, hends.mpr (by decide)⟩

/-- Two instructions to a tick, and two instructions at most: after the second one the
timers tick once more, so the delay timer ends at four and not at five. -/
theorem exists_not_endsWithStep :
    let config : RunConfig := {
      RunConfig.default with cpuFrequency := 120, durationMs := 100, maxSteps := some 2 }
    let interpreter : Interpreter CountingSource :=
      ((Interpreter.new ⟨0, 1⟩ none).perform (.load [0x6A, 0x05, 0xFA, 0x15, 0x12, 0x04])).2
    config.accept = .ok config ∧ config.maxSteps = some 2 ∧
      2 ≤ config.due config.tickCount ∧
      interpreter.answers (actions interpreter config) = [.ok .plain, .ok .plain] ∧
      ¬ EndsWithStep interpreter config 2 ∧
      (interpreter.actAll [.tick, .step, .step]).machine.delay = 5 ∧
      (execute interpreter config).interpreter.machine.delay = 4 := by
  intro config interpreter
  have hlast : (actions interpreter config).getLast? = some .tick := by decide +kernel
  refine ⟨by decide +kernel, rfl, by decide, by decide +kernel, ?_, by decide +kernel,
    by decide +kernel⟩
  rintro ⟨before, -, hactions, -⟩
  rw [hactions, List.getLast?_concat] at hlast
  cases hlast

end Run
end ChipEight
