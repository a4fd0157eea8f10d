import Mathlib
import ChipEight.Proofs.Run.Reading
import ChipEight.Proofs.Run.Timetable
import ChipEight.Operation

/-!
# The arithmetic of a run

A run counts with numbers of 64 bits.  Here it is written a second time, with
arithmetic that has no result where such a number overflows or where zero
divides (`Run.execute?`).  For every configuration that is accepted and every
program both runs are the same (`execute?_eq_some`): the second always has a
result.

The bounds of the configuration are checked once, before the run, while the
counters and what the clock owes move all the time.  What ties the two together
is the invariant of the timetable: the clock owes less than one tick's worth,
no tick begins after the last one, instructions are counted up to their greatest
number only, and no more of them have drawn than were executed.
-/

namespace ChipEight

/-! ## Arithmetic with a result of 64 bits -/

namespace Checked

/-- The sum of two numbers, unless it is too large. -/
def sum? (a b : Nat) : Option Nat :=
  if a + b < wordBound then some (a + b) else none

/-- The product of two numbers, unless it is too large. -/
def product? (a b : Nat) : Option Nat :=
  if a * b < wordBound then some (a * b) else none

/-- The quotient of two numbers, unless the second is zero. -/
def quotient? (a b : Nat) : Option Nat :=
  if b = 0 then none else some (a / b)

/-- The remainder of a division, unless it is by zero. -/
def remainder? (a b : Nat) : Option Nat :=
  if b = 0 then none else some (a % b)

variable {a b : Nat}

theorem sum?_of_lt (hfits : a + b < wordBound) : sum? a b = some (a + b) :=
  if_pos hfits

theorem product?_of_lt (hfits : a * b < wordBound) : product? a b = some (a * b) :=
  if_pos hfits

theorem quotient?_of_pos (hpos : 0 < b) : quotient? a b = some (a / b) :=
  if_neg hpos.ne'

theorem remainder?_of_pos (hpos : 0 < b) : remainder? a b = some (a % b) :=
  if_neg hpos.ne'

end Checked

open Checked

/-! ## The clock

Here and below, a name with a question mark is the definition without it, with
checked arithmetic. -/

namespace Clock

def budget? (clock : Clock) : Option (Nat × Clock) := do
  let owed ← sum? clock.remainder clock.cpu
  let remainder ← remainder? owed clock.timer
  let instructions ← quotient? owed clock.timer
  return (instructions, { clock with remainder })

theorem budget?_eq_some {clock : Clock} (htimer : 0 < clock.timer)
    (howed : clock.remainder + clock.cpu < wordBound) : clock.budget? = some clock.budget := by
  simp only [budget?, sum?_of_lt howed, remainder?_of_pos htimer, quotient?_of_pos htimer,
    Option.bind_eq_bind, Option.bind_some]
  rfl

/-- The second tick at a rate that is not accepted. -/
example : (Clock.new (wordBound - 1) 60).budget.2.budget? = none := by decide

/-- What is owed after some ticks is less than one tick's worth. -/
theorem remainder_afterTicks_lt (cpu ticks : Nat) {timer : Nat} (htimer : 0 < timer) :
    (afterTicks cpu timer ticks).remainder < timer :=
  Nat.mod_lt _ htimer

end Clock

namespace RunConfig

def tickCount? (config : RunConfig) : Option Nat := do
  let total ← product? config.durationMs config.timerFrequency
  quotient? total 1000

variable {config : RunConfig}

theorem IsBounded.tickCount?_eq_some (hbounded : config.IsBounded) :
    config.tickCount? = some config.tickCount := by
  rw [tickCount?, product?_of_lt hbounded.duration_lt]
  rfl

theorem IsBounded.tickCount_lt (hbounded : config.IsBounded) : config.tickCount < wordBound :=
  (Nat.div_le_self _ _).trans_lt hbounded.duration_lt

end RunConfig

/-! ## The loops -/

namespace Run

variable {σ : Type} [RandomSource σ]

def stepOnce? (run : Run σ) : Option (Run σ) :=
  let run := run.noteSkipped
  match run.interpreter.step with
  | (.ok flow, interpreter) => do
    let draws ← if flow = Flow.draw then sum? run.draws 1 else some run.draws
    let steps ← sum? run.steps 1
    return { run with interpreter, steps, draws }.noteBuzzer
  | (.error fault, interpreter) =>
    some <| { run with interpreter, status := .failed fault }.note (.interpreter (.failed fault))

def instruction? (stepLimit : Nat) (run : Run σ) : Option (Run σ) :=
  if stepLimit ≤ run.steps then some { run with status := .exhausted }
  else run.applyDue.stepOnce?

def burst? (stepLimit : Nat) : Nat → Run σ → Option (Run σ)
  | 0, run => some run
  | count + 1, run =>
    match run.status with
    | .running => do burst? stepLimit count (← run.instruction? stepLimit)
    | _ => some run

def beginTick? (run : Run σ) : Option (Nat × Run σ) := do
  let ticks ← sum? run.ticks 1
  let (budget, clock) ← run.clock.budget?
  return (budget, { run with
    clock
    ticks
    interpreter := run.interpreter.onMachine Machine.tick })

def tick? (stepLimit : Nat) (run : Run σ) : Option (Run σ) := do
  let (budget, run) ← run.beginTick?
  return (← burst? stepLimit budget run).endTick

def advance? (stepLimit : Nat) : Nat → Run σ → Option (Run σ)
  | 0, run => some run
  | count + 1, run =>
    match run.status with
    | .running => do advance? stepLimit count (← run.tick? stepLimit)
    | _ => some run

/-- A whole run.  The length of a tick in real time and the number of ticks are
worked out first. -/
def execute? (interpreter : Interpreter σ) (config : RunConfig) : Option (Run σ) := do
  let _cycle ← quotient? nanosPerSecond config.timerFrequency
  let ticks ← config.tickCount?
  advance? config.stepLimit ticks (start interpreter config)

/-! ## No arithmetic fails -/

/-- Counting an instruction fails only if there are too many. -/
theorem stepOnce?_eq_some {run : Run σ} (hsteps : run.steps + 1 < wordBound)
    (hdraws : run.draws + 1 < wordBound) : run.stepOnce? = some run.stepOnce := by
  obtain ⟨log, hskipped⟩ := run.noteSkipped_eq
  rw [stepOnce?, stepOnce, hskipped]
  cases run.interpreter.step with
  | mk answer after =>
      cases answer with
      | error fault => rfl
      | ok flow =>
          dsimp only
          rw [sum?_of_lt hsteps, sum?_of_lt hdraws]
          by_cases hdraw : flow = .draw
          · simp only [hdraw, if_true]
            rfl
          · simp only [hdraw, if_false]
            rfl

section Progress

variable {interpreter : Interpreter σ} {config : RunConfig} {history : List RunAction}
  {left : Nat} {run : Run σ}

/-- No more instructions have drawn than were executed. -/
theorem Progress.draws_le_steps (hprogress : Progress interpreter config history left run) :
    run.draws ≤ run.steps := by
  obtain ⟨flows, -, hsteps, hdraws⟩ := hprogress.answered
  rw [← hsteps, ← hdraws]
  exact List.count_le_length

theorem Progress.instruction?_eq_some (hprogress : Progress interpreter config history left run)
    (hbounded : config.IsBounded) :
    run.instruction? config.stepLimit = some (run.instruction config.stepLimit) := by
  rw [instruction?, Run.instruction]
  by_cases hlimit : config.stepLimit ≤ run.steps
  · rw [if_pos hlimit, if_pos hlimit]
  · rw [if_neg hlimit, if_neg hlimit]
    have hfew := hprogress.draws_le_steps
    have hlast := hbounded.stepLimit_lt
    obtain ⟨log, hdue⟩ := run.applyDue_eq
    apply stepOnce?_eq_some
    · rw [hdue]
      change run.steps + 1 < wordBound
      omega
    · rw [hdue]
      change run.draws + 1 < wordBound
      omega

theorem Progress.beginTick?_eq_some (hprogress : Progress interpreter config history left run)
    (hbounded : config.IsBounded) (hticks : run.ticks < config.tickCount) :
    run.beginTick? = some run.beginTick := by
  have hcount : run.ticks + 1 < wordBound := by
    have hlast := hbounded.tickCount_lt
    omega
  have howes := Clock.remainder_afterTicks_lt config.cpuFrequency run.ticks hbounded.timer_pos
  have hbudget : run.clock.budget? = some run.clock.budget := by
    rw [hprogress.clock]
    apply Clock.budget?_eq_some hbounded.timer_pos
    calc
      _ < config.timerFrequency + config.cpuFrequency := Nat.add_lt_add_right howes _
      _ = config.cpuFrequency + config.timerFrequency := Nat.add_comm _ _
      _ < wordBound := hbounded.cpu_lt
  rw [beginTick?, sum?_of_lt hcount, hbudget]
  rfl

theorem Reachable.burst?_eq_some (hreached : Reachable interpreter config history left run)
    (hbounded : config.IsBounded) :
    burst? config.stepLimit left run = some (Run.burst config.stepLimit left run) := by
  induction left generalizing history run with
  | zero => rfl
  | succ left ih =>
      rw [burst?, Run.burst]
      cases hstatus : run.status with
      | running =>
          rw [hreached.progress.instruction?_eq_some hbounded]
          exact ih (hreached.instruction hstatus)
      | exhausted => rfl
      | failed fault => rfl

theorem Reachable.tick?_eq_some (hreached : Reachable interpreter config history 0 run)
    (hbounded : config.IsBounded) (hrunning : run.status = .running)
    (hticks : run.ticks < config.tickCount) :
    run.tick? config.stepLimit = some (run.tick config.stepLimit) := by
  have hburst := (hreached.beginTick hrunning hticks).burst?_eq_some hbounded
  rw [tick?, hreached.progress.beginTick?_eq_some hbounded hticks]
  change (burst? config.stepLimit run.beginTick.1 run.beginTick.2).bind _ = _
  rw [hburst]
  rfl

theorem Reachable.advance?_eq_some (count : Nat)
    (hreached : Reachable interpreter config history left run) (hbounded : config.IsBounded)
    (hleft : run.status = .running → left = 0)
    (hticks : run.ticks + count = config.tickCount) :
    advance? config.stepLimit count run = some (Run.advance config.stepLimit count run) := by
  induction count generalizing history left run with
  | zero => rfl
  | succ count ih =>
      rw [advance?, Run.advance]
      cases hstatus : run.status with
      | running =>
          have hzero : left = 0 := hleft hstatus
          subst hzero
          have hbefore : run.ticks < config.tickCount := by
            omega
          obtain ⟨rest, htick, hrest⟩ := hreached.tick hstatus hbefore
          have hcount := run.ticks_tick config.stepLimit
          rw [hreached.tick?_eq_some hbounded hstatus hbefore]
          exact ih htick hrest (by omega)
      | exhausted => rfl
      | failed fault => rfl

end Progress

/-- Within the bounds of a configuration, no arithmetic of a run fails. -/
theorem execute?_of_isBounded (interpreter : Interpreter σ) {config : RunConfig}
    (hbounded : config.IsBounded) :
    execute? interpreter config = some (execute interpreter config) := by
  rw [execute?, quotient?_of_pos hbounded.timer_pos, hbounded.tickCount?_eq_some]
  exact Reachable.start.advance?_eq_some config.tickCount hbounded (fun _ => rfl) (Nat.zero_add _)

/-- For every configuration that is read and accepted and every program, the run
with checked arithmetic has a result, and it is the result of the run. -/
theorem execute?_eq_some {document : Yaml.Document} {config : RunConfig}
    (haccepted : RunConfig.ofDocument document = .ok config) (interpreter : Interpreter σ) :
    execute? interpreter config = some (execute interpreter config) :=
  execute?_of_isBounded interpreter (RunConfig.isBounded_of_ofDocument haccepted)

/-- Every bound is as tight as it can be, and a jump to itself is executed twice. -/
theorem execute?_eq_some_tight :
    let document := Yaml.Document.ofText
      "\x7bduration_ms: 18446744073709551615, timer_frequency: 1,
        cpu_frequency: 18446744073709551614, max_steps: 2\x7d"
    let config := { RunConfig.default with
      durationMs := wordBound - 1, timerFrequency := 1, cpuFrequency := wordBound - 2,
      maxSteps := some 2 }
    let interpreter : Interpreter CountingSource :=
      ((Interpreter.new ⟨0, 1⟩ none).perform (.load [0x12, 0x00])).2
    RunConfig.ofDocument document = .ok config ∧
      execute? interpreter config = some (execute interpreter config) ∧
      (execute interpreter config).steps = 2 := by
  intro document config interpreter
  have haccepted : RunConfig.ofDocument document = .ok config := by decide +kernel
  exact ⟨haccepted, execute?_eq_some haccepted interpreter, by decide +kernel⟩

end Run
end ChipEight
