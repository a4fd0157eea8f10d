import Mathlib
import ChipEight.Run.Schedule

/-!
# What a run does, as a list

A run acts on the interpreter in three ways: it lets the timers tick, it applies
a key event, and it executes an instruction.  `Run.actions` lists these actions
in their order, read off from the loops of the run, and `Interpreter.actAll`
carries out such a list without any clock or script.  On which interpreters this
executes instructions, and what they answer, are `Interpreter.starts` and
`Interpreter.answers`.

`Run.Reachable` says which runs in progress occur and with which history.  The
two loops of a run are followed once, in `reachable_execute`; everything else
about runs is shown along this relation.
-/

namespace ChipEight

/-- What a run does to the interpreter. -/
inductive RunAction where
  /-- The timers tick. -/
  | tick
  /-- A key event is applied. -/
  | key (event : KeyEvent)
  /-- An instruction is executed. -/
  | step
deriving DecidableEq

namespace RunAction

/-- The key event of an action, if it is one. -/
def event? : RunAction → Option KeyEvent
  | .key event => some event
  | _ => none

/-- The key events of a list of actions. -/
def events (actions : List RunAction) : List KeyEvent :=
  actions.filterMap event?

/-- Every instruction in a list of actions comes after actions with a given
property. -/
def EveryStep (actions : List RunAction) (holds : List RunAction → Prop) : Prop :=
  ∀ before after, actions = before ++ .step :: after → holds before

section Lists

variable (actions others : List RunAction) (keys : List KeyEvent)

@[simp]
theorem events_append : events (actions ++ others) = events actions ++ events others :=
  List.filterMap_append

@[simp]
theorem events_map_key : events (keys.map .key) = keys := by
  rw [events, List.filterMap_map]
  exact List.filterMap_some

@[simp]
theorem count_tick_map_key : (keys.map RunAction.key).count .tick = 0 := by
  simp [List.count_eq_zero]

@[simp]
theorem count_step_map_key : (keys.map RunAction.key).count .step = 0 := by
  simp [List.count_eq_zero]

end Lists

section EveryStep

variable {actions : List RunAction} {holds : List RunAction → Prop}

theorem everyStep_nil : EveryStep [] holds := by
  intro before after hsplit
  simp at hsplit

/-- One more action adds a condition only if it is an instruction. -/
theorem EveryStep.append_one (hall : EveryStep actions holds) (action : RunAction)
    (hlast : action = .step → holds actions) : EveryStep (actions ++ [action]) holds := by
  intro before after hsplit
  -- Either the instruction is the new action, or it was there before.
  rcases List.eq_nil_or_concat' after with rfl | ⟨shorter, last, rfl⟩
  · obtain ⟨rfl, haction⟩ := List.append_inj' hsplit rfl
    exact hlast (List.cons.inj haction).1
  · rw [← List.cons_append, ← List.append_assoc] at hsplit
    obtain ⟨hshorter, -⟩ := List.append_inj' hsplit rfl
    exact hall before shorter hshorter

theorem EveryStep.append_keys (hall : EveryStep actions holds) (keys : List KeyEvent) :
    EveryStep (actions ++ keys.map .key) holds := by
  induction keys generalizing actions with
  | nil => rwa [List.map_nil, List.append_nil]
  | cons event rest ih =>
      have hone : EveryStep (actions ++ [.key event]) holds :=
        hall.append_one _ (fun h => RunAction.noConfusion h)
      rw [List.map_cons, List.append_cons]
      exact ih hone

end EveryStep

end RunAction

namespace Interpreter

variable {σ : Type} [RandomSource σ]

/-- Carry out one action. -/
def act (interpreter : Interpreter σ) : RunAction → Interpreter σ
  | .tick => interpreter.onMachine Machine.tick
  | .key event => interpreter.onMachine (·.setKey event.key.val event.pressed)
  | .step => interpreter.step.2

/-- Carry out a list of actions. -/
def actAll (interpreter : Interpreter σ) (actions : List RunAction) : Interpreter σ :=
  actions.foldl act interpreter

/-- What the instructions in a list of actions answer. -/
def answers (interpreter : Interpreter σ) : List RunAction → List (Except Fault Flow)
  | [] => []
  | .step :: rest => interpreter.step.1 :: (interpreter.act .step).answers rest
  | action :: rest => (interpreter.act action).answers rest

/-- The interpreters on which the instructions in a list of actions are
executed. -/
def starts (interpreter : Interpreter σ) : List RunAction → List (Interpreter σ)
  | [] => []
  | .step :: rest => interpreter :: (interpreter.act .step).starts rest
  | action :: rest => (interpreter.act action).starts rest

variable (interpreter : Interpreter σ)

@[simp]
theorem actAll_cons (action : RunAction) (rest : List RunAction) :
    interpreter.actAll (action :: rest) = (interpreter.act action).actAll rest :=
  rfl

theorem actAll_append (first second : List RunAction) :
    interpreter.actAll (first ++ second) = (interpreter.actAll first).actAll second :=
  List.foldl_append

theorem starts_append (first second : List RunAction) :
    interpreter.starts (first ++ second) =
      interpreter.starts first ++ (interpreter.actAll first).starts second := by
  induction first generalizing interpreter with
  | nil => rfl
  | cons action rest ih =>
      cases action with
      | tick => exact ih _
      | key event => exact ih _
      | step => exact congrArg _ (ih _)

/-- Every instruction is executed on one interpreter. -/
theorem length_starts (actions : List RunAction) :
    (interpreter.starts actions).length = actions.count .step := by
  induction actions generalizing interpreter with
  | nil => rfl
  | cons action rest ih =>
      cases action with
      | tick => simpa [starts] using ih _
      | key event => simpa [starts] using ih _
      | step => simpa [starts] using ih _

@[simp]
theorem starts_map_key (keys : List KeyEvent) : interpreter.starts (keys.map .key) = [] := by
  rw [← List.length_eq_zero_iff, length_starts, RunAction.count_step_map_key]

/-- Instruction `i` is executed on what the actions in front of it lead to. -/
theorem exists_split_of_getElem?_starts {actions : List RunAction} {i : Nat}
    {start : Interpreter σ} (hstart : (interpreter.starts actions)[i]? = some start) :
    ∃ before after, actions = before ++ .step :: after ∧ before.count .step = i ∧
      start = interpreter.actAll before := by
  induction actions generalizing interpreter i with
  | nil => cases hstart
  | cons action rest ih =>
      cases action with
      | tick =>
          obtain ⟨before, after, rfl, rfl, hbefore⟩ := ih _ hstart
          exact ⟨.tick :: before, after, rfl, rfl, hbefore⟩
      | key event =>
          obtain ⟨before, after, rfl, rfl, hbefore⟩ := ih _ hstart
          exact ⟨.key event :: before, after, rfl, by simp, hbefore⟩
      | step =>
          cases i with
          | zero => exact ⟨[], rest, rfl, rfl, (Option.some.inj hstart).symm⟩
          | succ i =>
              obtain ⟨before, after, rfl, rfl, hbefore⟩ := ih _ hstart
              exact ⟨.step :: before, after, rfl, by simp, hbefore⟩

theorem answers_eq_map_starts (actions : List RunAction) :
    interpreter.answers actions = (interpreter.starts actions).map fun start => start.step.1 := by
  induction actions generalizing interpreter with
  | nil => rfl
  | cons action rest ih =>
      cases action with
      | tick => exact ih _
      | key event => exact ih _
      | step => exact congrArg _ (ih _)

theorem answers_append (first second : List RunAction) :
    interpreter.answers (first ++ second) =
      interpreter.answers first ++ (interpreter.actAll first).answers second := by
  simp only [answers_eq_map_starts, starts_append, List.map_append]

/-- Instructions and answers correspond. -/
theorem length_answers (actions : List RunAction) :
    (interpreter.answers actions).length = actions.count .step := by
  rw [answers_eq_map_starts, List.length_map, length_starts]

@[simp]
theorem answers_map_key (keys : List KeyEvent) : interpreter.answers (keys.map .key) = [] := by
  rw [answers_eq_map_starts, starts_map_key, List.map_nil]

end Interpreter

namespace Run

variable {σ : Type}

/-! ## The log of a run -/

/-- After a look at the buzzer, the log is up to date with it. -/
theorem noteBuzzer_eq (run : Run σ) :
    ∃ log, run.noteBuzzer = { run with buzzer := run.interpreter.machine.buzzer, log } := by
  unfold noteBuzzer
  by_cases hsame : run.interpreter.machine.buzzer = run.buzzer
  · refine ⟨run.log, ?_⟩
    simp only [hsame, if_true]
  · simp only [hsame, if_false]
    exact ⟨_, rfl⟩

theorem noteSkipped_eq (run : Run σ) : ∃ log, run.noteSkipped = { run with log } := by
  unfold noteSkipped
  split
  · exact ⟨run.log, rfl⟩
  · exact ⟨_, rfl⟩

theorem endTick_of_running {run : Run σ} (hrunning : run.status = .running) :
    run.endTick = run.noteBuzzer := by
  rw [endTick, hrunning]

theorem endTick_of_ne {run : Run σ} (hended : run.status ≠ .running) : run.endTick = run := by
  unfold endTick
  split
  · contradiction
  · rfl

theorem status_endTick (run : Run σ) : run.endTick.status = run.status := by
  by_cases hrunning : run.status = .running
  · obtain ⟨log, hnoted⟩ := run.noteBuzzer_eq
    rw [endTick_of_running hrunning, hnoted]
  · rw [endTick_of_ne hrunning]

theorem ticks_endTick (run : Run σ) : run.endTick.ticks = run.ticks := by
  by_cases hrunning : run.status = .running
  · obtain ⟨log, hnoted⟩ := run.noteBuzzer_eq
    rw [endTick_of_running hrunning, hnoted]
  · rw [endTick_of_ne hrunning]

theorem interpreter_endTick (run : Run σ) : run.endTick.interpreter = run.interpreter := by
  by_cases hrunning : run.status = .running
  · obtain ⟨log, hnoted⟩ := run.noteBuzzer_eq
    rw [endTick_of_running hrunning, hnoted]
  · rw [endTick_of_ne hrunning]

/-! ## Actions of a run -/

/-- The key events that are applied before the next instruction. -/
def dueEvents (run : Run σ) : List KeyEvent :=
  run.pending.takeWhile (·.atStep ≤ run.steps)

/-- An instruction with the key events before it. -/
def stepActions (run : Run σ) : List RunAction :=
  run.dueEvents.map .key ++ [.step]

theorem count_tick_stepActions (run : Run σ) : run.stepActions.count .tick = 0 := by
  rw [stepActions, List.count_append, RunAction.count_tick_map_key]
  rfl

theorem count_step_stepActions (run : Run σ) : run.stepActions.count .step = 1 := by
  rw [stepActions, List.count_append, RunAction.count_step_map_key]
  rfl

theorem events_stepActions (run : Run σ) :
    RunAction.events run.stepActions = run.dueEvents := by
  rw [stepActions, RunAction.events_append, RunAction.events_map_key]
  exact List.append_nil _

/-- Of an instruction with its key events, only the instruction itself is an
instruction. -/
theorem everyStep_append_stepActions {history : List RunAction}
    {holds : List RunAction → Prop} (hall : RunAction.EveryStep history holds) (run : Run σ)
    (hlast : holds (history ++ run.dueEvents.map .key)) :
    RunAction.EveryStep (history ++ run.stepActions) holds := by
  rw [stepActions, ← List.append_assoc]
  exact (hall.append_keys _).append_one _ fun _ => hlast

variable [RandomSource σ]

/-- What `instruction` does. -/
def instructionActions (stepLimit : Nat) (run : Run σ) : List RunAction :=
  if stepLimit ≤ run.steps then [] else run.stepActions

/-- What `burst` does. -/
def burstActions (stepLimit : Nat) : Nat → Run σ → List RunAction
  | 0, _ => []
  | count + 1, run =>
    match run.status with
    | .running =>
      run.instructionActions stepLimit
        ++ burstActions stepLimit count (run.instruction stepLimit)
    | _ => []

/-- What `tick` does. -/
def tickActions (stepLimit : Nat) (run : Run σ) : List RunAction :=
  .tick :: burstActions stepLimit run.beginTick.1 run.beginTick.2

/-- What `advance` does. -/
def advanceActions (stepLimit : Nat) : Nat → Run σ → List RunAction
  | 0, _ => []
  | count + 1, run =>
    match run.status with
    | .running => run.tickActions stepLimit ++ advanceActions stepLimit count (run.tick stepLimit)
    | _ => []

/-- What `execute` does. -/
def actions (interpreter : Interpreter σ) (config : RunConfig) : List RunAction :=
  advanceActions config.stepLimit config.tickCount (start interpreter config)

/-! ## One instruction -/

/-- The interpreter when the next instruction is executed. -/
def ready (run : Run σ) : Interpreter σ :=
  run.interpreter.actAll (run.dueEvents.map .key)

theorem actAll_stepActions (run : Run σ) :
    run.interpreter.actAll run.stepActions = run.ready.step.2 :=
  run.interpreter.actAll_append _ _

theorem answers_stepActions (run : Run σ) :
    run.interpreter.answers run.stepActions = [run.ready.step.1] := by
  rw [stepActions, run.interpreter.answers_append, Interpreter.answers_map_key]
  rfl

theorem applyDueFrom_eq (run : Run σ) (events : List KeyEvent) :
    ∃ log, run.applyDueFrom events = {
      run with
      interpreter := run.interpreter.actAll
        ((events.takeWhile (·.atStep ≤ run.steps)).map .key)
      pending := events.dropWhile (·.atStep ≤ run.steps)
      log } := by
  induction events generalizing run with
  | nil => exact ⟨run.log, rfl⟩
  | cons event rest ih =>
      rw [applyDueFrom]
      by_cases hdue : event.atStep ≤ run.steps
      · obtain ⟨log, hrest⟩ := ih (run.applyEvent event)
        refine ⟨log, ?_⟩
        rw [if_pos hdue, hrest]
        simp only [List.takeWhile_cons, List.dropWhile_cons, hdue, decide_true, if_true]
        rfl
      · refine ⟨run.log, ?_⟩
        rw [if_neg hdue]
        simp only [List.takeWhile_cons, List.dropWhile_cons, hdue, decide_false]
        rfl

/-- Before an instruction, the due events are applied and taken off the list. -/
theorem applyDue_eq (run : Run σ) :
    ∃ log, run.applyDue = {
      run with
      interpreter := run.ready
      pending := run.pending.dropWhile (·.atStep ≤ run.steps)
      log } :=
  run.applyDueFrom_eq run.pending

/-- An instruction that succeeds is counted, and the log is up to date after it. -/
theorem stepOnce_of_ok (run : Run σ) {flow : Flow}
    (hanswer : run.interpreter.step.1 = .ok flow) :
    ∃ log, run.stepOnce = {
      run with
      interpreter := run.interpreter.step.2
      steps := run.steps + 1
      draws := if flow = .draw then run.draws + 1 else run.draws
      buzzer := run.interpreter.step.2.machine.buzzer
      log } := by
  obtain ⟨log, hskipped⟩ := run.noteSkipped_eq
  rw [stepOnce, hskipped]
  cases hstep : run.interpreter.step with
  | mk answer after =>
      rw [hstep] at hanswer
      subst hanswer
      exact noteBuzzer_eq _

/-- An instruction that fails ends the run. -/
theorem stepOnce_of_error (run : Run σ) {fault : Fault}
    (hanswer : run.interpreter.step.1 = .error fault) :
    ∃ log, run.stepOnce = {
      run with
      interpreter := run.interpreter.step.2
      status := .failed fault
      log } := by
  obtain ⟨log, hskipped⟩ := run.noteSkipped_eq
  rw [stepOnce, hskipped]
  cases hstep : run.interpreter.step with
  | mk answer after =>
      rw [hstep] at hanswer
      subst hanswer
      exact ⟨_, rfl⟩

/-- Everything that can become of one instruction of a budget. -/
theorem instruction_cases (run : Run σ) (stepLimit : Nat) :
    (stepLimit ≤ run.steps ∧
      run.instructionActions stepLimit = [] ∧
      run.instruction stepLimit = { run with status := .exhausted }) ∨
    (run.steps < stepLimit ∧
      run.instructionActions stepLimit = run.stepActions ∧
      ((∃ flow log, run.ready.step.1 = .ok flow ∧ run.instruction stepLimit = {
          run with
          interpreter := run.ready.step.2
          pending := run.pending.dropWhile (·.atStep ≤ run.steps)
          steps := run.steps + 1
          draws := if flow = .draw then run.draws + 1 else run.draws
          buzzer := run.ready.step.2.machine.buzzer
          log }) ∨
        ∃ fault log, run.ready.step.1 = .error fault ∧ run.instruction stepLimit = {
          run with
          interpreter := run.ready.step.2
          pending := run.pending.dropWhile (·.atStep ≤ run.steps)
          status := .failed fault
          log })) := by
  by_cases hlimit : stepLimit ≤ run.steps
  · exact .inl ⟨hlimit, if_pos hlimit, if_pos hlimit⟩
  · refine .inr ⟨Nat.lt_of_not_le hlimit, if_neg hlimit, ?_⟩
    obtain ⟨dueLog, hdue⟩ := run.applyDue_eq
    have hready : run.applyDue.interpreter = run.ready := by
      rw [hdue]
    have hinstruction : run.instruction stepLimit = run.applyDue.stepOnce := if_neg hlimit
    cases hanswer : run.ready.step.1 with
    | ok flow =>
        rw [← hready] at hanswer
        obtain ⟨log, hrun⟩ := stepOnce_of_ok run.applyDue hanswer
        refine .inl ⟨flow, log, rfl, ?_⟩
        rw [hinstruction, hrun, hdue]
    | error fault =>
        rw [← hready] at hanswer
        obtain ⟨log, hrun⟩ := stepOnce_of_error run.applyDue hanswer
        refine .inr ⟨fault, log, rfl, ?_⟩
        rw [hinstruction, hrun, hdue]

/-! ## Runs in progress -/

/-- The runs in progress that occur, with the actions so far and the number of
instructions left of the budget. -/
inductive Reachable (interpreter : Interpreter σ) (config : RunConfig) :
    List RunAction → Nat → Run σ → Prop where
  /-- Before the first tick. -/
  | start : Reachable interpreter config [] 0 (Run.start interpreter config)
  /-- A tick begins when the budget of the last one is used up. -/
  | beginTick {history : List RunAction} {run : Run σ}
      (hreached : Reachable interpreter config history 0 run) (hrunning : run.status = .running)
      (hticks : run.ticks < config.tickCount) :
    Reachable interpreter config (history ++ [.tick]) run.beginTick.1 run.beginTick.2
  /-- One instruction of the budget. -/
  | instruction {history : List RunAction} {left : Nat} {run : Run σ}
      (hreached : Reachable interpreter config history (left + 1) run)
      (hrunning : run.status = .running) :
    Reachable interpreter config (history ++ run.instructionActions config.stepLimit) left
      (run.instruction config.stepLimit)
  /-- The end of a tick. -/
  | endTick {history : List RunAction} {run : Run σ}
      (hreached : Reachable interpreter config history 0 run) (hrunning : run.status = .running) :
    Reachable interpreter config history 0 run.noteBuzzer

theorem ticks_instruction (run : Run σ) (stepLimit : Nat) :
    (run.instruction stepLimit).ticks = run.ticks := by
  rcases run.instruction_cases stepLimit with
    ⟨-, -, hrun⟩ | ⟨-, -, ⟨flow, log, -, hrun⟩ | ⟨fault, log, -, hrun⟩⟩
  all_goals rw [hrun]

theorem ticks_burst (stepLimit count : Nat) (run : Run σ) :
    (burst stepLimit count run).ticks = run.ticks := by
  induction count generalizing run with
  | zero => rfl
  | succ count ih =>
      rw [burst]
      cases run.status with
      | running => exact (ih _).trans (run.ticks_instruction stepLimit)
      | exhausted => rfl
      | failed fault => rfl

theorem tick_eq (stepLimit : Nat) (run : Run σ) :
    run.tick stepLimit = (burst stepLimit run.beginTick.1 run.beginTick.2).endTick :=
  rfl

theorem ticks_tick (stepLimit : Nat) (run : Run σ) :
    (run.tick stepLimit).ticks = run.ticks + 1 := by
  rw [tick_eq, ticks_endTick, ticks_burst]
  rfl

section Loops

variable {interpreter : Interpreter σ} {config : RunConfig} {history : List RunAction}
  {left : Nat} {run : Run σ}

/-- The instructions of a budget lead from one run in progress to another; as
long as the run goes on they use up the budget. -/
theorem Reachable.burst (hreached : Reachable interpreter config history left run) :
    ∃ rest, Reachable interpreter config
        (history ++ burstActions config.stepLimit left run) rest
        (Run.burst config.stepLimit left run) ∧
      ((Run.burst config.stepLimit left run).status = .running → rest = 0) := by
  induction left generalizing history run with
  | zero => exact ⟨0, by simpa [burstActions, Run.burst] using hreached, fun _ => rfl⟩
  | succ left ih =>
      rw [burstActions, Run.burst]
      -- A run that has ended does nothing with the rest of its budget.
      cases hstatus : run.status with
      | running =>
          rw [← List.append_assoc]
          exact ih (hreached.instruction hstatus)
      | exhausted =>
          refine ⟨left + 1, by simpa using hreached, fun hrunning => ?_⟩
          rw [hstatus] at hrunning
          contradiction
      | failed fault =>
          refine ⟨left + 1, by simpa using hreached, fun hrunning => ?_⟩
          rw [hstatus] at hrunning
          contradiction

theorem Reachable.tick (hreached : Reachable interpreter config history 0 run)
    (hrunning : run.status = .running) (hticks : run.ticks < config.tickCount) :
    ∃ rest, Reachable interpreter config
        (history ++ tickActions config.stepLimit run) rest (run.tick config.stepLimit) ∧
      ((run.tick config.stepLimit).status = .running → rest = 0) := by
  obtain ⟨rest, hburst, hrest⟩ := (hreached.beginTick hrunning hticks).burst
  rw [tickActions, List.append_cons]
  rw [tick_eq, status_endTick]
  -- The buzzer is looked at only if the run goes on after the instructions.
  by_cases hstatus : (Run.burst config.stepLimit run.beginTick.1 run.beginTick.2).status = .running
  · have hzero : rest = 0 := hrest hstatus
    subst hzero
    rw [endTick_of_running hstatus]
    exact ⟨0, hburst.endTick hstatus, fun _ => rfl⟩
  · rw [endTick_of_ne hstatus]
    exact ⟨rest, hburst, hrest⟩

/-- The ticks of a run lead from one run in progress to another; as long as the
run goes on they make up its duration. -/
theorem Reachable.advance (count : Nat)
    (hreached : Reachable interpreter config history left run)
    (hleft : run.status = .running → left = 0)
    (hticks : run.ticks + count = config.tickCount) :
    ∃ rest, Reachable interpreter config
        (history ++ advanceActions config.stepLimit count run) rest
        (Run.advance config.stepLimit count run) ∧
      ((Run.advance config.stepLimit count run).status = .running →
        rest = 0 ∧ (Run.advance config.stepLimit count run).ticks = config.tickCount) := by
  induction count generalizing history left run with
  | zero =>
      refine ⟨left, by simpa [advanceActions, Run.advance] using hreached, fun hrunning => ?_⟩
      exact ⟨hleft hrunning, hticks⟩
  | succ count ih =>
      rw [advanceActions, Run.advance]
      cases hstatus : run.status with
      | running =>
          have hzero : left = 0 := hleft hstatus
          subst hzero
          obtain ⟨rest, htick, hrest⟩ := hreached.tick hstatus (by omega)
          have hcount := run.ticks_tick config.stepLimit
          rw [← List.append_assoc]
          exact ih htick hrest (by omega)
      | exhausted =>
          refine ⟨left, by simpa using hreached, fun hrunning => ?_⟩
          rw [hstatus] at hrunning
          contradiction
      | failed fault =>
          refine ⟨left, by simpa using hreached, fun hrunning => ?_⟩
          rw [hstatus] at hrunning
          contradiction

end Loops

/-- A whole run is one of the runs in progress, with all its actions.  Unless it
has ended early, no instruction is left and all ticks are over. -/
theorem reachable_execute (interpreter : Interpreter σ) (config : RunConfig) :
    ∃ left, Reachable interpreter config (actions interpreter config) left
        (execute interpreter config) ∧
      ((execute interpreter config).status = .running →
        left = 0 ∧ (execute interpreter config).ticks = config.tickCount) :=
  Reachable.start.advance config.tickCount (fun _ => rfl) (Nat.zero_add _)

end Run
end ChipEight
