import Mathlib
import ChipEight.Proofs.Clock
import ChipEight.Proofs.Run.History

/-!
# The timetable of a run

When the instructions of a run are executed is decided by two nested loops, by
a fraction that is carried from tick to tick, by the greatest number of
instructions and by faults.  Here the outcome is given in closed form: with
`due k` for the whole number of instructions due after `k` ticks, instruction
`i` is executed exactly when it is due within the duration of the run and no
fault has come before it, and it is executed in the first tick `k` with
`i < due k` (`execute_keepsTime`).

`Progress` is the invariant of the two loops.  The part that carries the proof
is `onTime`: as long as the run goes on, the instructions executed and those
left of the budget make up what is due after the ticks so far.
-/

namespace ChipEight

/-- Whole instructions due after a number of ticks. -/
def RunConfig.due (config : RunConfig) (ticks : Nat) : Nat :=
  Clock.due config.cpuFrequency config.timerFrequency ticks

namespace Run

variable {σ : Type} [RandomSource σ]

omit [RandomSource σ] in
theorem fault?_eq_some_iff {run : Run σ} {fault : Fault} :
    run.fault? = some fault ↔ run.status = .failed fault := by
  unfold fault?
  cases run.status <;> simp

/-- The fault that ended the run as an answer, if any. -/
def faultAnswers (run : Run σ) : List (Except Fault Flow) :=
  run.fault?.toList.map .error

/-- What is known about a run in progress. -/
structure Progress (interpreter : Interpreter σ) (config : RunConfig) (history : List RunAction)
    (left : Nat) (run : Run σ) : Prop where
  state : run.interpreter = interpreter.actAll history
  clock : run.clock = Clock.afterTicks config.cpuFrequency config.timerFrequency run.ticks
  ticks : history.count .tick = run.ticks
  ticksLe : run.ticks ≤ config.tickCount
  /-- All instructions but a failing last one have succeeded and are counted. -/
  answered : ∃ flows : List Flow,
    interpreter.answers history = flows.map .ok ++ run.faultAnswers ∧
      flows.length = run.steps ∧ flows.count .draw = run.draws
  stepsLe : run.steps ≤ config.stepLimit
  onTime : run.status = .running →
    config.due (run.ticks - 1) ≤ run.steps ∧ run.steps + left = config.due run.ticks
  exhausted : run.status = .exhausted →
    run.steps = config.stepLimit ∧ run.steps < config.due run.ticks
  failed : ∀ fault, run.status = .failed fault →
    run.steps < config.stepLimit ∧ run.steps < config.due run.ticks ∧
      ∃ before, history = before ++ [.step]
  scheduled : RunAction.EveryStep history fun before =>
    IsLeast {k | before.count .step < config.due k} (before.count .tick)

namespace Progress

variable {interpreter : Interpreter σ} {config : RunConfig} {history : List RunAction}
  {left : Nat} {run : Run σ}

/-- While a run goes on, all its instructions have succeeded. -/
theorem succeeded (hprogress : Progress interpreter config history left run)
    (hrunning : run.status = .running) : ∃ flows : List Flow,
      interpreter.answers history = flows.map .ok ∧
        flows.length = run.steps ∧ flows.count .draw = run.draws := by
  obtain ⟨flows, hanswers, hcounts⟩ := hprogress.answered
  have hnone : run.faultAnswers = [] := by
    simp [faultAnswers, fault?, hrunning]
  rw [hnone, List.append_nil] at hanswers
  exact ⟨flows, hanswers, hcounts⟩

/-- Of the executed instructions, only one that fails is not counted. -/
theorem count_step_eq (hprogress : Progress interpreter config history left run) :
    history.count .step = run.steps + if run.fault?.isSome then 1 else 0 := by
  obtain ⟨flows, hanswers, hsteps, -⟩ := hprogress.answered
  rw [← interpreter.length_answers, hanswers, List.length_append, List.length_map, hsteps,
    faultAnswers, List.length_map]
  cases run.fault? with
  | none => rfl
  | some fault => rfl

theorem count_step (hprogress : Progress interpreter config history left run)
    (hrunning : run.status = .running) : history.count .step = run.steps := by
  have hfault : run.fault? = none := by
    rw [fault?, hrunning]
  rw [hprogress.count_step_eq, hfault]
  rfl

theorem start (interpreter : Interpreter σ) (config : RunConfig) :
    Progress interpreter config [] 0 (Run.start interpreter config) where
  state := rfl
  clock := Clock.new_eq_afterTicks _ _
  ticks := rfl
  ticksLe := Nat.zero_le _
  answered := ⟨[], rfl, rfl, rfl⟩
  stepsLe := Nat.zero_le _
  onTime := by
    intro _
    have hzero : config.due 0 = 0 := Clock.due_zero _ _
    exact ⟨hzero.le, hzero.symm⟩
  exhausted := by
    intro hstatus
    contradiction
  failed := by
    intro fault hstatus
    contradiction
  scheduled := RunAction.everyStep_nil

/-- A tick brings the instructions that become due with it. -/
theorem beginTick (hprogress : Progress interpreter config history 0 run)
    (hrunning : run.status = .running) (hticks : run.ticks < config.tickCount) :
    Progress interpreter config (history ++ [.tick]) run.beginTick.1 run.beginTick.2 where
  state := by
    rw [interpreter.actAll_append, ← hprogress.state]
    rfl
  clock := by
    have hclock : run.beginTick.2.clock = run.clock.budget.2 := rfl
    rw [hclock, hprogress.clock, Clock.budget_afterTicks]
    rfl
  ticks := by
    rw [List.count_append, hprogress.ticks]
    rfl
  ticksLe := hticks
  answered := by
    obtain ⟨flows, hanswers, hcounts⟩ := hprogress.answered
    refine ⟨flows, ?_, hcounts⟩
    rw [interpreter.answers_append, hanswers]
    exact List.append_nil _
  stepsLe := hprogress.stepsLe
  onTime := by
    intro _
    obtain ⟨-, hdue⟩ := hprogress.onTime hrunning
    have hbudget : run.beginTick.1 = run.clock.budget.1 := rfl
    refine ⟨hdue.ge, ?_⟩
    change run.steps + run.beginTick.1 = config.due (run.ticks + 1)
    rw [hbudget, hprogress.clock]
    exact (congrArg (· + _) hdue).trans (Clock.due_add_budget _ _ _)
  exhausted := by
    intro hstatus
    exact absurd (hrunning.symm.trans hstatus) (by simp)
  failed := by
    intro fault hstatus
    exact absurd (hrunning.symm.trans hstatus) (by simp)
  scheduled := hprogress.scheduled.append_one _ (by simp)

/-- The end of a tick changes the log only. -/
theorem noteBuzzer (hprogress : Progress interpreter config history left run) :
    Progress interpreter config history left run.noteBuzzer := by
  obtain ⟨log, hnoted⟩ := run.noteBuzzer_eq
  rw [hnoted]
  exact { hprogress with }

/-- An instruction that is left of the budget is due since the last tick. -/
theorem isLeast_ticks (hprogress : Progress interpreter config history (left + 1) run)
    (hrunning : run.status = .running) : IsLeast {k | run.steps < config.due k} run.ticks := by
  obtain ⟨hlate, hdue⟩ := hprogress.onTime hrunning
  have hbefore : run.steps < config.due run.ticks := by
    omega
  refine ⟨hbefore, fun k hk => ?_⟩
  -- What was due after an earlier tick has been executed before this one began.
  by_contra hearly
  have hmono : config.due k ≤ config.due (run.ticks - 1) :=
    Clock.due_mono _ _ (by omega)
  have hk : run.steps < config.due k := hk
  omega

/-- The next instruction comes in its tick. -/
theorem scheduled_stepActions (hprogress : Progress interpreter config history (left + 1) run)
    (hrunning : run.status = .running) :
    RunAction.EveryStep (history ++ run.stepActions) fun before =>
      IsLeast {k | before.count .step < config.due k} (before.count .tick) := by
  refine everyStep_append_stepActions hprogress.scheduled run ?_
  have hsteps : (history ++ run.dueEvents.map RunAction.key).count RunAction.step = run.steps := by
    rw [List.count_append, RunAction.count_step_map_key, hprogress.count_step hrunning]
    rfl
  have hticks : (history ++ run.dueEvents.map RunAction.key).count RunAction.tick = run.ticks := by
    rw [List.count_append, RunAction.count_tick_map_key, hprogress.ticks]
    rfl
  rw [hsteps, hticks]
  exact hprogress.isLeast_ticks hrunning

theorem actAll_append_stepActions (hprogress : Progress interpreter config history left run) :
    interpreter.actAll (history ++ run.stepActions) = run.ready.step.2 := by
  rw [interpreter.actAll_append, ← hprogress.state, run.actAll_stepActions]

theorem answers_append_stepActions (hprogress : Progress interpreter config history left run) :
    interpreter.answers (history ++ run.stepActions) =
      interpreter.answers history ++ [run.ready.step.1] := by
  rw [interpreter.answers_append, ← hprogress.state, run.answers_stepActions]

theorem count_tick_append_stepActions
    (hprogress : Progress interpreter config history left run) :
    (history ++ run.stepActions).count .tick = run.ticks := by
  rw [List.count_append, hprogress.ticks, run.count_tick_stepActions]
  rfl

/-- An instruction that is one too many ends the run. -/
theorem exhaust (hprogress : Progress interpreter config history (left + 1) run)
    (hrunning : run.status = .running) (hlimit : config.stepLimit ≤ run.steps) :
    Progress interpreter config history left { run with status := .exhausted } := by
  obtain ⟨flows, hanswers, hcounts⟩ := hprogress.succeeded hrunning
  obtain ⟨-, hdue⟩ := hprogress.onTime hrunning
  have hended : run.steps = config.stepLimit ∧ run.steps < config.due run.ticks :=
    ⟨hprogress.stepsLe.antisymm hlimit, by omega⟩
  exact {
    hprogress with
    answered := ⟨flows, by rw [hanswers]; exact (List.append_nil _).symm, hcounts⟩
    onTime := by simp
    exhausted := fun _ => hended
    failed := by simp }

/-- An instruction that succeeds is counted. -/
theorem succeed (hprogress : Progress interpreter config history (left + 1) run)
    (hrunning : run.status = .running) (hlimit : run.steps < config.stepLimit) {flow : Flow}
    (hanswer : run.ready.step.1 = .ok flow) (buzzer : Bool) (log : List RunNotice) :
    Progress interpreter config (history ++ run.stepActions) left {
      run with
      interpreter := run.ready.step.2
      pending := run.pending.dropWhile (·.atStep ≤ run.steps)
      steps := run.steps + 1
      draws := if flow = .draw then run.draws + 1 else run.draws
      buzzer
      log } := by
  obtain ⟨flows, hanswers, hsteps, hdraws⟩ := hprogress.succeeded hrunning
  obtain ⟨hlate, hdue⟩ := hprogress.onTime hrunning
  have hnext : config.due (run.ticks - 1) ≤ run.steps + 1 ∧
      run.steps + 1 + left = config.due run.ticks := by
    omega
  have hflows : (flows ++ [flow]).length = run.steps + 1 := by
    rw [List.length_append, hsteps]
    rfl
  have hcount : (flows ++ [flow]).count .draw =
      if flow = .draw then run.draws + 1 else run.draws := by
    rw [List.count_append, hdraws, List.count_singleton]
    by_cases hflow : flow = .draw <;> simp [hflow]
  have hlast : interpreter.answers (history ++ run.stepActions) =
      (flows ++ [flow]).map .ok := by
    rw [hprogress.answers_append_stepActions, hanswers, hanswer, List.map_append]
    rfl
  exact {
    state := hprogress.actAll_append_stepActions.symm
    clock := hprogress.clock
    ticks := hprogress.count_tick_append_stepActions
    ticksLe := hprogress.ticksLe
    answered := ⟨flows ++ [flow], by simp [hlast, faultAnswers, fault?, hrunning], hflows, hcount⟩
    stepsLe := hlimit
    onTime := fun _ => hnext
    exhausted := fun hstatus => absurd (hrunning.symm.trans hstatus) (by simp)
    failed := fun fault hstatus => absurd (hrunning.symm.trans hstatus) (by simp)
    scheduled := hprogress.scheduled_stepActions hrunning }

/-- An instruction that fails is the last action of the run. -/
theorem fail (hprogress : Progress interpreter config history (left + 1) run)
    (hrunning : run.status = .running) (hlimit : run.steps < config.stepLimit) {fault : Fault}
    (hanswer : run.ready.step.1 = .error fault) (log : List RunNotice) :
    Progress interpreter config (history ++ run.stepActions) left {
      run with
      interpreter := run.ready.step.2
      pending := run.pending.dropWhile (·.atStep ≤ run.steps)
      status := .failed fault
      log } := by
  obtain ⟨flows, hanswers, hcounts⟩ := hprogress.succeeded hrunning
  obtain ⟨-, hdue⟩ := hprogress.onTime hrunning
  have hbefore : run.steps < config.due run.ticks := by
    omega
  have hlast : interpreter.answers (history ++ run.stepActions) =
      flows.map .ok ++ [.error fault] := by
    rw [hprogress.answers_append_stepActions, hanswers, hanswer]
  exact {
    state := hprogress.actAll_append_stepActions.symm
    clock := hprogress.clock
    ticks := hprogress.count_tick_append_stepActions
    ticksLe := hprogress.ticksLe
    answered := ⟨flows, hlast, hcounts⟩
    stepsLe := hprogress.stepsLe
    onTime := by simp
    exhausted := by simp
    failed := fun _ _ =>
      ⟨hlimit, hbefore, history ++ run.dueEvents.map .key, (List.append_assoc ..).symm⟩
    scheduled := hprogress.scheduled_stepActions hrunning }

/-- An instruction of the budget keeps the invariant. -/
theorem instruction (hprogress : Progress interpreter config history (left + 1) run)
    (hrunning : run.status = .running) :
    Progress interpreter config (history ++ run.instructionActions config.stepLimit) left
      (run.instruction config.stepLimit) := by
  rcases run.instruction_cases config.stepLimit with
    ⟨hlimit, hactions, hrun⟩ | ⟨hlimit, hactions, ⟨flow, log, hanswer, hrun⟩ |
      ⟨fault, log, hanswer, hrun⟩⟩
  · rw [hactions, hrun, List.append_nil]
    exact hprogress.exhaust hrunning hlimit
  · rw [hactions, hrun]
    exact hprogress.succeed hrunning hlimit hanswer _ log
  · rw [hactions, hrun]
    exact hprogress.fail hrunning hlimit hanswer log

end Progress

/-- The invariant holds of every run in progress. -/
theorem Reachable.progress {interpreter : Interpreter σ} {config : RunConfig}
    {history : List RunAction} {left : Nat} {run : Run σ}
    (hreached : Reachable interpreter config history left run) :
    Progress interpreter config history left run := by
  induction hreached with
  | start => exact Progress.start interpreter config
  | beginTick _ hrunning hticks ih => exact ih.beginTick hrunning hticks
  | instruction _ hrunning ih => exact ih.instruction hrunning
  | endTick _ _ ih => exact ih.noteBuzzer

/-! ## Whole runs -/

/-- What is promised about the time at which a run does things. -/
structure KeepsTime (interpreter : Interpreter σ) (config : RunConfig) : Prop where
  /-- The run leaves the interpreter to which its actions lead. -/
  state : (execute interpreter config).interpreter =
    interpreter.actAll (actions interpreter config)
  /-- Instruction `i` is executed just when it is due within the duration of the
  run, the greatest number of instructions allows it, and no earlier one has
  failed. -/
  executed : ∀ i, i < (actions interpreter config).count .step ↔
    i < min config.stepLimit (config.due config.tickCount) ∧
      ∀ j < i, ∀ fault : Fault,
        (interpreter.answers (actions interpreter config))[j]? ≠ some (.error fault)
  /-- Before instruction `i` there are exactly `k` ticks, for the least `k` with
  `i < due k`. -/
  punctual : RunAction.EveryStep (actions interpreter config) fun before =>
    IsLeast {k | before.count .step < config.due k} (before.count .tick)
  /-- Nothing happens after an instruction that fails, and its fault is the
  outcome of the run. -/
  stopped : ∀ before after fault, actions interpreter config = before ++ .step :: after →
    (interpreter.actAll before).step.1 = .error fault →
      after = [] ∧ (execute interpreter config).fault? = some fault ∧
        (execute interpreter config).interpreter = (interpreter.actAll before).step.2
  /-- Without a fault, all instructions that are due have been executed, and the
  counters are right. -/
  completed : (∀ fault : Fault,
      .error fault ∉ interpreter.answers (actions interpreter config)) →
    (execute interpreter config).fault? = none ∧
      (execute interpreter config).steps =
        min config.stepLimit (config.due config.tickCount) ∧
      (execute interpreter config).draws =
        (interpreter.answers (actions interpreter config)).count (.ok .draw) ∧
      (config.due config.tickCount ≤ config.stepLimit →
        (execute interpreter config).ticks = config.tickCount)

namespace Progress

variable {interpreter : Interpreter σ} {config : RunConfig} {history : List RunAction}
  {left : Nat} {run : Run σ}

/-- A run that has ended without a fault has executed what was due. -/
theorem steps_eq (hprogress : Progress interpreter config history left run)
    (hdone : run.status = .running → left = 0 ∧ run.ticks = config.tickCount)
    (hfault : run.fault? = none) :
    run.steps = min config.stepLimit (config.due config.tickCount) ∧
      (config.due config.tickCount ≤ config.stepLimit → run.ticks = config.tickCount) := by
  have hmono : config.due run.ticks ≤ config.due config.tickCount :=
    Clock.due_mono _ _ hprogress.ticksLe
  have hmost := hprogress.stepsLe
  cases hstatus : run.status with
  | running =>
      obtain ⟨hleft, hticks⟩ := hdone hstatus
      obtain ⟨-, hdue⟩ := hprogress.onTime hstatus
      rw [hticks, hleft] at hdue
      exact ⟨by omega, fun _ => hticks⟩
  | exhausted =>
      obtain ⟨hlimit, hdue⟩ := hprogress.exhausted hstatus
      exact ⟨by omega, fun hle => by omega⟩
  | failed fault =>
      rw [fault?, hstatus] at hfault
      contradiction

/-- A fault among the answers of a run is the last of them. -/
theorem eq_of_faulty {flows : List Flow} {last : Option Fault}
    {first rest : List (Except Fault Flow)} {fault : Fault}
    (hanswers : flows.map .ok ++ last.toList.map .error = first ++ .error fault :: rest) :
    rest = [] ∧ last = some fault := by
  have hsucceeded (shorter : List (Except Fault Flow)) :
      flows.map .ok ≠ first ++ .error fault :: shorter := by
    intro hflows
    have hmem : (.error fault : Except Fault Flow) ∈ flows.map .ok := by
      simp [hflows]
    simp at hmem
  cases last with
  | none => exact absurd ((List.append_nil _).symm.trans hanswers) (hsucceeded rest)
  | some cause =>
      rcases List.eq_nil_or_concat' rest with rfl | ⟨shorter, answer, rfl⟩
      · obtain ⟨-, hcause⟩ := List.append_inj' hanswers rfl
        simpa using hcause
      · rw [← List.cons_append, ← List.append_assoc] at hanswers
        obtain ⟨hflows, -⟩ := List.append_inj' hanswers rfl
        exact absurd hflows (hsucceeded shorter)

/-- Nothing follows an instruction that fails, neither an instruction nor a tick
nor a key event. -/
theorem stopped (hprogress : Progress interpreter config history left run)
    {before after : List RunAction} {fault : Fault} (hsplit : history = before ++ .step :: after)
    (hanswer : (interpreter.actAll before).step.1 = .error fault) :
    after = [] ∧ run.fault? = some fault := by
  obtain ⟨flows, hanswers, -, -⟩ := hprogress.answered
  have hlater : interpreter.answers history =
      interpreter.answers before ++
        .error fault :: ((interpreter.actAll before).act .step).answers after := by
    rw [hsplit, interpreter.answers_append, ← hanswer]
    rfl
  obtain ⟨hnone, hfault⟩ := eq_of_faulty (hanswers.symm.trans hlater)
  obtain ⟨-, -, shorter, hended⟩ := hprogress.failed fault (fault?_eq_some_iff.mp hfault)
  have hcount : after.count .step = 0 := by
    rw [← ((interpreter.actAll before).act .step).length_answers, hnone]
    rfl
  refine ⟨?_, hfault⟩
  -- The last action of a failed run is an instruction, and after the failing one
  -- there is none.
  rcases List.eq_nil_or_concat' after with rfl | ⟨others, last, rfl⟩
  · rfl
  · rw [hsplit, ← List.cons_append, ← List.append_assoc] at hended
    obtain ⟨-, hlast⟩ := List.append_inj' hended rfl
    rw [hlast, List.count_append] at hcount
    simp at hcount

/-- Which instructions have been executed when a run has ended. -/
theorem executed_iff (hprogress : Progress interpreter config history left run)
    (hdone : run.status = .running → left = 0 ∧ run.ticks = config.tickCount) (i : Nat) :
    i < history.count .step ↔
      i < min config.stepLimit (config.due config.tickCount) ∧
        ∀ j < i, ∀ fault : Fault, (interpreter.answers history)[j]? ≠ some (.error fault) := by
  obtain ⟨flows, hanswers, hsteps, -⟩ := hprogress.answered
  have hsucceeded : ∀ j < flows.length, ∀ fault : Fault,
      (interpreter.answers history)[j]? ≠ some (.error fault) := by
    intro j hj fault
    rw [hanswers, List.getElem?_append_left (by simpa using hj)]
    simp [hj]
  rw [← interpreter.length_answers]
  -- Without a fault the executed instructions are those that are due; with one
  -- they are those up to the fault.
  cases hfault : run.fault? with
  | none =>
      obtain ⟨hall, -⟩ := hprogress.steps_eq hdone hfault
      have hlength : (interpreter.answers history).length = run.steps := by
        simp [hanswers, faultAnswers, hfault, hsteps]
      rw [hlength, ← hall]
      exact ⟨fun hi => ⟨hi, fun j hj => hsucceeded j (by omega)⟩, fun h => h.1⟩
  | some cause =>
      obtain ⟨hlimit, hdue, -⟩ := hprogress.failed cause (fault?_eq_some_iff.mp hfault)
      have hmono : config.due run.ticks ≤ config.due config.tickCount :=
        Clock.due_mono _ _ hprogress.ticksLe
      have hlength : (interpreter.answers history).length = run.steps + 1 := by
        simp [hanswers, faultAnswers, hfault, hsteps]
      have hlast : (interpreter.answers history)[run.steps]? = some (.error cause) := by
        simp [hanswers, faultAnswers, hfault, hsteps]
      rw [hlength]
      constructor
      · intro hi
        exact ⟨by omega, fun j hj => hsucceeded j (by omega)⟩
      · rintro ⟨-, hearlier⟩
        by_contra hi
        exact hearlier run.steps (by omega) cause hlast

end Progress

/-- Every run keeps the timetable. -/
theorem execute_keepsTime (interpreter : Interpreter σ) (config : RunConfig) :
    KeepsTime interpreter config := by
  obtain ⟨left, hreached, hdone⟩ := reachable_execute interpreter config
  have hprogress := hreached.progress
  obtain ⟨flows, hanswers, hsteps, hdraws⟩ := hprogress.answered
  exact {
    state := hprogress.state
    executed := hprogress.executed_iff hdone
    punctual := hprogress.scheduled
    stopped := by
      intro before after fault hsplit hanswer
      obtain ⟨rfl, hfault⟩ := hprogress.stopped hsplit hanswer
      refine ⟨rfl, hfault, ?_⟩
      rw [hprogress.state, hsplit, interpreter.actAll_append]
      rfl
    completed := by
      intro hsucceeded
      have hfault : (execute interpreter config).fault? = none := by
        rw [Option.eq_none_iff_forall_ne_some]
        intro fault hfault
        apply hsucceeded fault
        simp [hanswers, faultAnswers, hfault]
      obtain ⟨hall, hticks⟩ := hprogress.steps_eq hdone hfault
      refine ⟨hfault, hall, ?_, hticks⟩
      have hinjective : Function.Injective (Except.ok : Flow → Except Fault Flow) :=
        fun _ _ h => Except.ok.inj h
      rw [hanswers, faultAnswers, hfault, ← hdraws, Option.toList_none, List.map_nil,
        List.append_nil, List.count_map_of_injective _ _ hinjective] }

end Run
end ChipEight
