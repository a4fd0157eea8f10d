import Mathlib
import ChipEight.Proofs.Run.History

/-!
# The interpreters of a run before its instructions

`Run.actions` says what a run does, but it takes from the run only which events
are due.  Here the loops of a run are followed a second time, and wherever they
are about to execute an instruction its interpreter is written down as it is
(`Run.starts`).

Carrying out the actions one after the other meets the same interpreters before
the same instructions, and ends where the run ends (`replays_execute`).  Two
stretches of a run that each do this do it one after the other
(`Replays.trans`), which leaves a single instruction to be looked at.
-/

namespace ChipEight
namespace Run

variable {σ : Type} [RandomSource σ]

/-! ## Following the loops -/

/-- The interpreter on which `instruction` executes its instruction, if it
executes one. -/
def instructionStarts (stepLimit : Nat) (run : Run σ) : List (Interpreter σ) :=
  if stepLimit ≤ run.steps then [] else [run.applyDue.interpreter]

/-- The interpreters on which `burst` executes instructions. -/
def burstStarts (stepLimit : Nat) : Nat → Run σ → List (Interpreter σ)
  | 0, _ => []
  | count + 1, run =>
    match run.status with
    | .running =>
      run.instructionStarts stepLimit
        ++ burstStarts stepLimit count (run.instruction stepLimit)
    | _ => []

/-- The interpreters on which `tick` executes instructions. -/
def tickStarts (stepLimit : Nat) (run : Run σ) : List (Interpreter σ) :=
  burstStarts stepLimit run.beginTick.1 run.beginTick.2

/-- The interpreters on which `advance` executes instructions. -/
def advanceStarts (stepLimit : Nat) : Nat → Run σ → List (Interpreter σ)
  | 0, _ => []
  | count + 1, run =>
    match run.status with
    | .running => run.tickStarts stepLimit ++ advanceStarts stepLimit count (run.tick stepLimit)
    | _ => []

/-- The interpreters on which `execute` executes instructions. -/
def starts (interpreter : Interpreter σ) (config : RunConfig) : List (Interpreter σ) :=
  advanceStarts config.stepLimit config.tickCount (start interpreter config)

/-! ## Replaying a run -/

/-- From one run to another, carrying out actions has the same effect and meets
the given interpreters before its instructions. -/
structure Replays (first last : Run σ) (actions : List RunAction)
    (starts : List (Interpreter σ)) : Prop where
  state : last.interpreter = first.interpreter.actAll actions
  starts : starts = first.interpreter.starts actions

theorem Replays.refl (run : Run σ) : Replays run run [] [] :=
  ⟨rfl, rfl⟩

/-- One stretch of a run after the other. -/
theorem Replays.trans {first second third : Run σ} {actions others : List RunAction}
    {starts later : List (Interpreter σ)} (hfirst : Replays first second actions starts)
    (hsecond : Replays second third others later) :
    Replays first third (actions ++ others) (starts ++ later) where
  state := by
    rw [hsecond.state, hfirst.state, Interpreter.actAll_append]
  starts := by
    rw [Interpreter.starts_append, ← hfirst.state, ← hfirst.starts, ← hsecond.starts]

theorem starts_stepActions (run : Run σ) :
    run.interpreter.starts run.stepActions = [run.ready] := by
  rw [stepActions, Interpreter.starts_append, Interpreter.starts_map_key]
  rfl

/-- The one place where an instruction is executed: the due events come first. -/
theorem replays_instruction (stepLimit : Nat) (run : Run σ) :
    Replays run (run.instruction stepLimit) (run.instructionActions stepLimit)
      (run.instructionStarts stepLimit) := by
  rcases run.instruction_cases stepLimit with
    ⟨hlimit, hactions, hrun⟩ | ⟨hlimit, hactions, hanswer⟩
  · rw [hactions, hrun, instructionStarts, if_pos hlimit]
    exact ⟨rfl, rfl⟩
  · have hready : run.applyDue.interpreter = run.ready := by
      obtain ⟨log, hdue⟩ := run.applyDue_eq
      rw [hdue]
    have hstate : (run.instruction stepLimit).interpreter = run.ready.step.2 := by
      rcases hanswer with ⟨flow, log, -, hrun⟩ | ⟨fault, log, -, hrun⟩
      · rw [hrun]
      · rw [hrun]
    rw [hactions, instructionStarts, if_neg hlimit.not_ge, hready]
    exact ⟨hstate.trans run.actAll_stepActions.symm, run.starts_stepActions.symm⟩

theorem replays_burst (stepLimit count : Nat) (run : Run σ) :
    Replays run (burst stepLimit count run) (burstActions stepLimit count run)
      (burstStarts stepLimit count run) := by
  induction count generalizing run with
  | zero => exact .refl run
  | succ count ih =>
      rw [burst, burstActions, burstStarts]
      cases run.status with
      | running => exact (run.replays_instruction stepLimit).trans (ih _)
      | exhausted => exact .refl run
      | failed fault => exact .refl run

theorem replays_tick (stepLimit : Nat) (run : Run σ) :
    Replays run (run.tick stepLimit) (run.tickActions stepLimit) (run.tickStarts stepLimit) := by
  have hburst := replays_burst stepLimit run.beginTick.1 run.beginTick.2
  exact {
    state := by
      rw [tick_eq, interpreter_endTick, hburst.state]
      rfl
    starts := hburst.starts }

theorem replays_advance (stepLimit count : Nat) (run : Run σ) :
    Replays run (advance stepLimit count run) (advanceActions stepLimit count run)
      (advanceStarts stepLimit count run) := by
  induction count generalizing run with
  | zero => exact .refl run
  | succ count ih =>
      rw [advance, advanceActions, advanceStarts]
      cases run.status with
      | running => exact (run.replays_tick stepLimit).trans (ih _)
      | exhausted => exact .refl run
      | failed fault => exact .refl run

/-- A whole run is replayed by its actions, and so is every interpreter on which
it executes an instruction. -/
theorem replays_execute (interpreter : Interpreter σ) (config : RunConfig) :
    Replays (start interpreter config) (execute interpreter config)
      (actions interpreter config) (starts interpreter config) :=
  replays_advance config.stepLimit config.tickCount _

end Run
end ChipEight
