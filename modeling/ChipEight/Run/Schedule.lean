import ChipEight.Interpreter
import ChipEight.Run.Config

/-!
# Running a program

A run goes through the ticks of its duration.  In each tick the timers count
down once, and then the instructions of the tick's budget are executed.  Before
each instruction the key events that are due are applied; after it the buzzer
is compared with what the log last said, and once more at the end of a tick.
The run ends early at a fault or when its greatest number of instructions has
been reached, and nothing happens after that.
-/

namespace ChipEight

/-- What a run writes to the log. -/
inductive RunNotice where
  | interpreter (notice : Notice)
  | key (steps : Nat) (event : KeyEvent)
  /-- The buzzer has been switched. -/
  | buzzer (on : Bool)
deriving DecidableEq

namespace RunNotice

/-- A condition in words. -/
def truthText (condition : Bool) : String :=
  if condition then "true" else "false"

/-- Key events are for debugging; the buzzer is for everyone. -/
def line : RunNotice → LogLine
  | interpreter notice => notice.line
  | key steps event =>
    ⟨.debug, "step " ++ Numeral.decimal steps ++ ": " ++ event.key.text ++ " pressed="
      ++ truthText event.pressed⟩
  | buzzer on => ⟨.info, if on then "buzzer on" else "buzzer off"⟩

end RunNotice

/-- How far a run has come. -/
inductive RunStatus where
  | running
  /-- The greatest number of instructions has been reached. -/
  | exhausted
  /-- An instruction has failed. -/
  | failed (fault : Fault)
deriving DecidableEq

/-- A run in progress. -/
structure Run (σ : Type) where
  interpreter : Interpreter σ
  clock : Clock
  /-- The key events that have not been applied. -/
  pending : List KeyEvent
  /-- Instructions executed without a fault. -/
  steps : Nat
  /-- Ticks begun. -/
  ticks : Nat
  /-- Instructions that drew. -/
  draws : Nat
  /-- What the log last said about the buzzer. -/
  buzzer : Bool
  /-- Whether the run goes on. -/
  status : RunStatus
  /-- What has been written to the log, the latest first. -/
  log : List RunNotice

namespace Run

variable {σ : Type}

/-- A run before its first tick. -/
def start (interpreter : Interpreter σ) (config : RunConfig) : Run σ where
  interpreter := interpreter
  clock := Clock.new config.cpuFrequency config.timerFrequency
  pending := config.input
  steps := 0
  ticks := 0
  draws := 0
  buzzer := false
  status := .running
  log := []

/-- Write to the log. -/
def note (run : Run σ) (notice : RunNotice) : Run σ :=
  { run with log := notice :: run.log }

/-- Apply one key event. -/
def applyEvent (run : Run σ) (event : KeyEvent) : Run σ :=
  { run with
    interpreter := run.interpreter.onMachine (·.setKey event.key.val event.pressed)
  }.note (.key run.steps event)

/-- Apply the events in front of the list that are due, and keep the rest. -/
def applyDueFrom (run : Run σ) : List KeyEvent → Run σ
  | [] => { run with pending := [] }
  | event :: rest =>
    if event.atStep ≤ run.steps then (run.applyEvent event).applyDueFrom rest
    else { run with pending := event :: rest }

/-- Apply the key events that are due. -/
def applyDue (run : Run σ) : Run σ :=
  run.applyDueFrom run.pending

/-- Bring the log up to date with the buzzer. -/
def noteBuzzer (run : Run σ) : Run σ :=
  let on := run.interpreter.machine.buzzer
  if on = run.buzzer then run else { run with buzzer := on }.note (.buzzer on)

variable [RandomSource σ]

/-- Say which word is skipped, if the next one is.  Single instructions are not
traced in a run. -/
def noteSkipped (run : Run σ) : Run σ :=
  match run.interpreter.announcement with
  | .executing _ _ _ => run
  | notice => run.note (.interpreter notice)

/-- Execute one instruction and count it. -/
def stepOnce (run : Run σ) : Run σ :=
  let run := run.noteSkipped
  match run.interpreter.step with
  | (.ok flow, interpreter) =>
    { run with
      interpreter
      steps := run.steps + 1
      draws := if flow = Flow.draw then run.draws + 1 else run.draws }.noteBuzzer
  | (.error fault, interpreter) =>
    { run with interpreter, status := .failed fault }.note (.interpreter (.failed fault))

/-- One instruction of a budget, unless the run has come to its end. -/
def instruction (stepLimit : Nat) (run : Run σ) : Run σ :=
  if stepLimit ≤ run.steps then { run with status := .exhausted }
  else run.applyDue.stepOnce

/-- The instructions of a budget, as long as the run goes on. -/
def burst (stepLimit : Nat) : Nat → Run σ → Run σ
  | 0, run => run
  | count + 1, run =>
    match run.status with
    | .running => burst stepLimit count (run.instruction stepLimit)
    | _ => run

/-- The beginning of a tick: the timers count down, and the budget is drawn. -/
def beginTick (run : Run σ) : Nat × Run σ :=
  let (budget, clock) := run.clock.budget
  (budget, { run with
    clock
    ticks := run.ticks + 1
    interpreter := run.interpreter.onMachine Machine.tick })

/-- The end of a tick.  A run that has come to its end is left as it is. -/
def endTick (run : Run σ) : Run σ :=
  match run.status with
  | .running => run.noteBuzzer
  | _ => run

/-- One tick. -/
def tick (stepLimit : Nat) (run : Run σ) : Run σ :=
  let (budget, run) := run.beginTick
  (burst stepLimit budget run).endTick

/-- A number of ticks, as long as the run goes on. -/
def advance (stepLimit : Nat) : Nat → Run σ → Run σ
  | 0, run => run
  | count + 1, run =>
    match run.status with
    | .running => advance stepLimit count (run.tick stepLimit)
    | _ => run

/-- Run an interpreter as a configuration says. -/
def execute (interpreter : Interpreter σ) (config : RunConfig) : Run σ :=
  advance config.stepLimit config.tickCount (start interpreter config)

/-- The fault that ended the run, if any. -/
def fault? (run : Run σ) : Option Fault :=
  match run.status with
  | .failed fault => some fault
  | _ => none

end Run
end ChipEight
