import Mathlib
import ChipEight.Operation
import ChipEight.Proofs.Run.Starts
import ChipEight.Proofs.Step

/-!
# What the log says about the buzzer

A run writes to its log when the buzzer is switched on or off.  It looks at the buzzer
after every instruction that succeeds and at the end of every tick.  A run that ends
early, by a fault or by its greatest number of instructions, does not reach the end of
its last tick; so it misses what the beginning of this tick did to the buzzer, if no
instruction has succeeded since.  This is the only way in which the log can end out of
step with the buzzer (`execute_reportsBuzzer_iff`).

What the log says last is what the run remembers (`Reachable.remembers`).  `Listens`
follows a run between two ticks, and `EndsTick` adds the last tick.
-/

namespace ChipEight

/-- What a notice says about the buzzer, if anything. -/
def RunNotice.buzzer? : RunNotice → Option Bool
  | .buzzer on => some on
  | _ => none

/-- The last tick of a list of actions splits it in one way only. -/
theorem RunAction.eq_of_last_tick {before after other rest : List RunAction}
    (hsame : before ++ .tick :: after = other ++ .tick :: rest)
    (hafter : .tick ∉ after) (hrest : .tick ∉ rest) : before = other ∧ after = rest := by
  have hnil {first second middle : List RunAction} (hfirst : .tick ∉ first)
      (hsplit : .tick :: first = middle ++ .tick :: second) : middle = [] := by
    cases middle with
    | nil => rfl
    | cons action others =>
        obtain ⟨-, hlater⟩ := List.cons.inj hsplit
        rw [hlater] at hfirst
        exact absurd (List.mem_append_right _ List.mem_cons_self) hfirst
  rcases List.append_eq_append_iff.mp hsame with ⟨middle, rfl, hsplit⟩ | ⟨middle, rfl, hsplit⟩
  · have hmiddle := hnil hafter hsplit
    subst hmiddle
    exact ⟨(List.append_nil _).symm, (List.cons.inj hsplit).2⟩
  · have hmiddle := hnil hrest hsplit
    subst hmiddle
    exact ⟨List.append_nil _, (List.cons.inj hsplit).2.symm⟩

theorem Machine.buzzer_tick {machine : Machine} (hsound : machine.sound ≠ 1) :
    machine.tick.buzzer = machine.buzzer := by
  by_cases hzero : machine.sound = 0
  · simp [buzzer, tick, hzero]
  · have hleft : machine.sound - 1 ≠ 0 := fun h => hsound (sub_eq_zero.mp h)
    have hafter : machine.tick.sound = machine.sound - 1 := if_neg hzero
    rw [buzzer, buzzer, hafter, bne_iff_ne.mpr hleft, bne_iff_ne.mpr hzero]

theorem Interpreter.sound_actAll_keys {σ : Type} [RandomSource σ]
    (interpreter : Interpreter σ) (keys : List KeyEvent) :
    (interpreter.actAll (keys.map .key)).machine.sound = interpreter.machine.sound := by
  induction keys generalizing interpreter with
  | nil => rfl
  | cons event rest ih =>
      rw [List.map_cons, actAll_cons, ih]
      rfl

namespace Run

/-! ## What is remembered -/

section Log

variable {σ : Type} {run : Run σ}

/-- What the log says last about the buzzer; its latest notice comes first.  A log that
says nothing counts as saying that the buzzer is off. -/
def reportsBuzzer (run : Run σ) : Bool :=
  (run.log.findSome? RunNotice.buzzer?).getD false

theorem reportsBuzzer_note (run : Run σ) (notice : RunNotice) :
    (run.note notice).reportsBuzzer = notice.buzzer?.getD run.reportsBuzzer := by
  rw [reportsBuzzer, note, List.findSome?_cons]
  cases notice.buzzer? <;> rfl

/-- The run remembers what its log says last. -/
def Remembers (run : Run σ) : Prop :=
  run.reportsBuzzer = run.buzzer

theorem Remembers.note (hremembers : run.Remembers) {notice : RunNotice}
    (hsilent : notice.buzzer? = none) : (run.note notice).Remembers := by
  rw [Remembers, reportsBuzzer_note, hsilent]
  exact hremembers

theorem Remembers.noteBuzzer (hremembers : run.Remembers) : run.noteBuzzer.Remembers := by
  unfold Run.noteBuzzer
  by_cases hsame : run.interpreter.machine.buzzer = run.buzzer
  · rw [if_pos hsame]
    exact hremembers
  · rw [if_neg hsame, Remembers, reportsBuzzer_note]
    rfl

theorem Remembers.applyEvent (hremembers : run.Remembers) (event : KeyEvent) :
    (run.applyEvent event).Remembers := by
  rw [Remembers, Run.applyEvent, reportsBuzzer_note]
  exact hremembers

theorem Remembers.applyDueFrom (hremembers : run.Remembers) (events : List KeyEvent) :
    (run.applyDueFrom events).Remembers := by
  induction events generalizing run with
  | nil => exact hremembers
  | cons event rest ih =>
      rw [Run.applyDueFrom]
      by_cases hdue : event.atStep ≤ run.steps
      · rw [if_pos hdue]
        exact ih (hremembers.applyEvent event)
      · rw [if_neg hdue]
        exact hremembers

variable [RandomSource σ]

theorem Remembers.stepOnce (hremembers : run.Remembers) : run.stepOnce.Remembers := by
  have hskipped : run.noteSkipped.Remembers := by
    unfold noteSkipped
    split
    · exact hremembers
    · exact hremembers.note rfl
  rw [Run.stepOnce]
  cases run.noteSkipped.interpreter.step with
  | mk answer after =>
      cases answer with
      | ok flow => exact Remembers.noteBuzzer hskipped
      | error fault => exact Remembers.note hskipped rfl

theorem Remembers.instruction (hremembers : run.Remembers) (stepLimit : Nat) :
    (run.instruction stepLimit).Remembers := by
  rw [Run.instruction]
  by_cases hlimit : stepLimit ≤ run.steps
  · rw [if_pos hlimit]
    exact hremembers
  · rw [if_neg hlimit]
    exact (hremembers.applyDueFrom run.pending).stepOnce

theorem Reachable.remembers {interpreter : Interpreter σ} {config : RunConfig}
    {history : List RunAction} {left : Nat}
    (hreached : Reachable interpreter config history left run) : run.Remembers := by
  induction hreached with
  | start => rfl
  | beginTick _ _ _ ih => exact ih
  | instruction _ _ ih => exact ih.instruction _
  | endTick _ _ ih => exact ih.noteBuzzer

end Log

variable {σ : Type} [RandomSource σ]

/-! ## Between two ticks -/

/-- Some actions lead from one run in progress to another, and no tick is among them.
If an instruction has succeeded, the run has looked at the buzzer; otherwise nothing
has happened to the buzzer, nor to what the run remembers. -/
structure Listens (first : Run σ) (actions : List RunAction) (second : Run σ) : Prop where
  state : second.interpreter = first.interpreter.actAll actions
  noTick : .tick ∉ actions
  heard : (∃ flow : Flow, .ok flow ∈ first.interpreter.answers actions) →
    second.buzzer = second.interpreter.machine.buzzer
  idle : (∀ flow : Flow, .ok flow ∉ first.interpreter.answers actions) →
    second.buzzer = first.buzzer ∧
      second.interpreter.machine.buzzer = first.interpreter.machine.buzzer

theorem Listens.refl (run : Run σ) : Listens run [] run where
  state := rfl
  noTick := List.not_mem_nil
  heard := by
    rintro ⟨flow, hmem⟩
    cases hmem
  idle := fun _ => ⟨rfl, rfl⟩

theorem Listens.trans {first second third : Run σ} {actions others : List RunAction}
    (hfirst : Listens first actions second) (hsecond : Listens second others third) :
    Listens first (actions ++ others) third := by
  have hanswers : first.interpreter.answers (actions ++ others) =
      first.interpreter.answers actions ++ second.interpreter.answers others := by
    rw [Interpreter.answers_append, hfirst.state]
  constructor
  · rw [Interpreter.actAll_append, ← hfirst.state]
    exact hsecond.state
  · rw [List.mem_append]
    exact fun hmem => hmem.elim hfirst.noTick hsecond.noTick
  · rw [hanswers]
    rintro ⟨flow, hflow⟩
    by_cases hlater : ∃ flow : Flow, .ok flow ∈ second.interpreter.answers others
    · exact hsecond.heard hlater
    -- Then the instruction is an earlier one, and nothing has happened since.
    · push Not at hlater
      obtain ⟨hbuzzer, hmachine⟩ := hsecond.idle hlater
      rcases List.mem_append.mp hflow with hearlier | hmem
      · rw [hbuzzer, hmachine]
        exact hfirst.heard ⟨flow, hearlier⟩
      · exact absurd hmem (hlater flow)
  · rw [hanswers]
    intro hnone
    obtain ⟨hbuzzer, hmachine⟩ := hfirst.idle fun flow hmem =>
      hnone flow (List.mem_append_left _ hmem)
    obtain ⟨hbuzzer', hmachine'⟩ := hsecond.idle fun flow hmem =>
      hnone flow (List.mem_append_right _ hmem)
    exact ⟨hbuzzer'.trans hbuzzer, hmachine'.trans hmachine⟩

theorem listens_instruction (stepLimit : Nat) (run : Run σ) :
    Listens run (run.instructionActions stepLimit) (run.instruction stepLimit) := by
  have hnoTick : .tick ∉ run.stepActions := List.count_eq_zero.mp run.count_tick_stepActions
  rcases run.instruction_cases stepLimit with
    ⟨-, hactions, hrun⟩ | ⟨-, hactions, ⟨flow, log, hanswer, hrun⟩ | ⟨fault, log, hanswer, hrun⟩⟩
  · rw [hactions, hrun]
    exact { Listens.refl run with }
  · rw [hactions, hrun]
    exact {
      state := run.actAll_stepActions.symm
      noTick := hnoTick
      heard := fun _ => rfl
      idle := by
        intro hnone
        rw [run.answers_stepActions, hanswer] at hnone
        exact absurd List.mem_cons_self (hnone flow) }
  · rw [hactions, hrun]
    exact {
      state := run.actAll_stepActions.symm
      noTick := hnoTick
      heard := by
        rintro ⟨flow, hflow⟩
        rw [run.answers_stepActions, hanswer, List.mem_singleton] at hflow
        cases hflow
      idle := by
        intro _
        refine ⟨rfl, ?_⟩
        change run.ready.step.2.machine.buzzer = run.interpreter.machine.buzzer
        rw [Interpreter.machine_step_of_error hanswer, Machine.buzzer, Machine.buzzer]
        exact congrArg (· != 0) (run.interpreter.sound_actAll_keys _) }

theorem listens_burst (stepLimit count : Nat) (run : Run σ) :
    Listens run (burstActions stepLimit count run) (burst stepLimit count run) := by
  induction count generalizing run with
  | zero => exact .refl run
  | succ count ih =>
      rw [burstActions, burst]
      cases run.status with
      | running => exact (listens_instruction stepLimit run).trans (ih _)
      | exhausted => exact .refl run
      | failed fault => exact .refl run

/-! ## The last tick -/

/-- How the log stands when the last tick of some actions is followed by others: the
run has looked at the buzzer if it goes on or if an instruction has succeeded since;
otherwise it remembers how the buzzer was before the tick. -/
structure EndsTick (interpreter : Interpreter σ) (before after : List RunAction)
    (last : Run σ) : Prop where
  noTick : .tick ∉ after
  heard : (last.status = .running ∨
      ∃ flow : Flow, .ok flow ∈ (interpreter.actAll (before ++ [.tick])).answers after) →
    last.buzzer = last.interpreter.machine.buzzer
  missed : last.status ≠ .running →
    (∀ flow : Flow, .ok flow ∉ (interpreter.actAll (before ++ [.tick])).answers after) →
    last.buzzer = (interpreter.actAll before).machine.buzzer ∧
      last.interpreter.machine.buzzer = (interpreter.actAll before).machine.tick.buzzer

/-- The run is in step with the buzzer unless it has missed that the tick switched the
buzzer off.  Then it still takes the buzzer for on. -/
theorem EndsTick.agrees_iff {interpreter : Interpreter σ} {before after : List RunAction}
    {last : Run σ} (hends : EndsTick interpreter before after last) {missed : Prop}
    (hmissed : missed ↔ last.status ≠ .running ∧
      (∀ flow : Flow, .ok flow ∉ (interpreter.actAll (before ++ [.tick])).answers after) ∧
      (interpreter.actAll before).machine.sound = 1) :
    (last.buzzer = last.interpreter.machine.buzzer ↔ ¬ missed) ∧
      (missed → last.buzzer = true) := by
  have hstale : missed →
      last.buzzer = true ∧ last.interpreter.machine.buzzer = false := by
    intro h
    obtain ⟨hended, hnone, hone⟩ := hmissed.mp h
    obtain ⟨hbuzzer, hmachine⟩ := hends.missed hended hnone
    rw [hbuzzer, hmachine]
    simp [Machine.buzzer, Machine.tick, hone]
  refine ⟨⟨?_, ?_⟩, fun h => (hstale h).1⟩
  · intro hagree h
    obtain ⟨hon, hoff⟩ := hstale h
    rw [hon, hoff] at hagree
    cases hagree
  · intro hheard
    by_cases hlooked : last.status = .running ∨
        ∃ flow : Flow, .ok flow ∈ (interpreter.actAll (before ++ [.tick])).answers after
    · exact hends.heard hlooked
    · rw [not_or, not_exists] at hlooked
      obtain ⟨hended, hnone⟩ := hlooked
      obtain ⟨hbuzzer, hmachine⟩ := hends.missed hended hnone
      -- The tick has not switched the buzzer off.
      have hsound : (interpreter.actAll before).machine.sound ≠ 1 := fun hone =>
        hheard (hmissed.mpr ⟨hended, hnone, hone⟩)
      exact hbuzzer.trans ((Machine.buzzer_tick hsound).symm.trans hmachine.symm)

section Ticks

variable (stepLimit : Nat) {run : Run σ}

/-- A tick that comes to its end looks at the buzzer, and one that is cut short is over
with its instructions. -/
theorem tick_cases (run : Run σ) :
    ((burst stepLimit run.beginTick.1 run.beginTick.2).status = .running ∧
      ∃ log, run.tick stepLimit =
        { burst stepLimit run.beginTick.1 run.beginTick.2 with
          buzzer := (burst stepLimit run.beginTick.1 run.beginTick.2).interpreter.machine.buzzer,
          log := log }) ∨
    ((burst stepLimit run.beginTick.1 run.beginTick.2).status ≠ .running ∧
      run.tick stepLimit = burst stepLimit run.beginTick.1 run.beginTick.2) := by
  rw [tick_eq]
  by_cases hrunning : (burst stepLimit run.beginTick.1 run.beginTick.2).status = .running
  · rw [endTick_of_running hrunning]
    exact .inl ⟨hrunning, noteBuzzer_eq _⟩
  · rw [endTick_of_ne hrunning]
    exact .inr ⟨hrunning, rfl⟩

theorem endsTick_tick (hcurrent : run.buzzer = run.interpreter.machine.buzzer) :
    EndsTick run.interpreter [] (burstActions stepLimit run.beginTick.1 run.beginTick.2)
      (run.tick stepLimit) := by
  have hlistens := listens_burst stepLimit run.beginTick.1 run.beginTick.2
  rcases run.tick_cases stepLimit with ⟨hrunning, log, htick⟩ | ⟨hended, htick⟩
  · rw [htick]
    exact {
      noTick := hlistens.noTick
      heard := fun _ => rfl
      missed := fun hended => absurd hrunning hended }
  · rw [htick]
    exact {
      noTick := hlistens.noTick
      heard := fun hlooked => hlistens.heard (hlooked.resolve_left hended)
      missed := by
        intro _ hnone
        obtain ⟨hbuzzer, hmachine⟩ := hlistens.idle hnone
        exact ⟨hbuzzer.trans hcurrent, hmachine⟩ }

theorem advance_of_ne (count : Nat) (hended : run.status ≠ .running) :
    advance stepLimit count run = run ∧ advanceActions stepLimit count run = [] := by
  cases count with
  | zero => exact ⟨rfl, rfl⟩
  | succ count =>
      rw [advance, advanceActions]
      cases hstatus : run.status with
      | running => exact absurd hstatus hended
      | exhausted => exact ⟨rfl, rfl⟩
      | failed fault => exact ⟨rfl, rfl⟩

/-- A run with at least one tick ends with its last tick and what follows. -/
theorem exists_endsTick (run : Run σ) (count : Nat) (hrunning : run.status = .running)
    (hcurrent : run.buzzer = run.interpreter.machine.buzzer) : ∃ before after,
      advanceActions stepLimit (count + 1) run = before ++ .tick :: after ∧
      EndsTick run.interpreter before after (advance stepLimit (count + 1) run) := by
  induction count generalizing run with
  | zero =>
      refine ⟨[], burstActions stepLimit run.beginTick.1 run.beginTick.2, ?_, ?_⟩
      · rw [advanceActions, hrunning]
        exact List.append_nil _
      · rw [advance, hrunning]
        exact endsTick_tick stepLimit hcurrent
  | succ count ih =>
      have htick := endsTick_tick stepLimit hcurrent
      rw [advanceActions, advance, hrunning]
      by_cases hnext : (run.tick stepLimit).status = .running
      · obtain ⟨before, after, hactions, hends⟩ := ih (run.tick stepLimit) hnext (htick.heard (.inl hnext))
        have hmoved (actions : List RunAction) :
            run.interpreter.actAll (run.tickActions stepLimit ++ actions) =
              (run.tick stepLimit).interpreter.actAll actions := by
          rw [Interpreter.actAll_append, (run.replays_tick stepLimit).state]
        refine ⟨run.tickActions stepLimit ++ before, after, ?_, hends.noTick, ?_, ?_⟩
        · rw [List.append_assoc, ← hactions]
        · rw [List.append_assoc, hmoved]
          exact hends.heard
        · rw [List.append_assoc, hmoved, hmoved]
          exact hends.missed
      · obtain ⟨hlast, hnothing⟩ := advance_of_ne stepLimit (count + 1) hnext
        refine ⟨[], burstActions stepLimit run.beginTick.1 run.beginTick.2, ?_, ?_⟩
        · dsimp only
          rw [hnothing, List.append_nil]
          rfl
        · dsimp only
          rw [hlast]
          exact htick

end Ticks

/-! ## Whole runs -/

/-- A run that has ended early, in a tick that switched the buzzer off and in which no
instruction has succeeded. -/
structure CutOff (interpreter : Interpreter σ) (config : RunConfig) : Prop where
  ended : (execute interpreter config).status ≠ .running
  silenced : ∃ before after, actions interpreter config = before ++ .tick :: after ∧
    .tick ∉ after ∧
    (∀ flow : Flow, .ok flow ∉ (interpreter.actAll (before ++ [.tick])).answers after) ∧
    (interpreter.actAll before).machine.sound = 1

theorem cutOff_iff {interpreter : Interpreter σ} {config : RunConfig}
    {before after : List RunAction}
    (hactions : actions interpreter config = before ++ .tick :: after) (hafter : .tick ∉ after) :
    CutOff interpreter config ↔ (execute interpreter config).status ≠ .running ∧
      (∀ flow : Flow, .ok flow ∉ (interpreter.actAll (before ++ [.tick])).answers after) ∧
      (interpreter.actAll before).machine.sound = 1 := by
  constructor
  · rintro ⟨hended, other, rest, hother, hrest, hnone, hone⟩
    obtain ⟨rfl, rfl⟩ := RunAction.eq_of_last_tick (hactions.symm.trans hother) hafter hrest
    exact ⟨hended, hnone, hone⟩
  · rintro ⟨hended, hnone, hone⟩
    exact ⟨hended, before, after, hactions, hafter, hnone, hone⟩

/-- At the end of a run the log agrees with the buzzer, unless the run was cut off just
after the buzzer went off.  Then the log still says that it is on. -/
theorem execute_reportsBuzzer_iff (interpreter : Interpreter σ) (config : RunConfig)
    (hquiet : interpreter.machine.sound = 0) :
    ((execute interpreter config).reportsBuzzer =
        (execute interpreter config).interpreter.machine.buzzer ↔
      ¬ CutOff interpreter config) ∧
    (CutOff interpreter config → (execute interpreter config).reportsBuzzer = true) := by
  obtain ⟨left, hreached, -⟩ := reachable_execute interpreter config
  have hremembers : (execute interpreter config).reportsBuzzer =
      (execute interpreter config).buzzer := hreached.remembers
  have hcurrent : (start interpreter config).buzzer =
      (start interpreter config).interpreter.machine.buzzer := by
    rw [start, Machine.buzzer, hquiet]
    rfl
  rw [hremembers]
  cases hticks : config.tickCount with
  -- Without a tick nothing happens.
  | zero =>
      have hnothing : execute interpreter config = start interpreter config := by
        rw [execute, hticks, advance]
      have hwhole : ¬ CutOff interpreter config := by
        intro hcut
        apply hcut.ended
        rw [hnothing]
        rfl
      refine ⟨⟨fun _ => hwhole, fun _ => ?_⟩, fun hcut => absurd hcut hwhole⟩
      rw [hnothing]
      exact hcurrent
  | succ count =>
      obtain ⟨before, after, hactions, hends⟩ :=
        exists_endsTick config.stepLimit (start interpreter config) count rfl hcurrent
      rw [← hticks] at hactions hends
      exact hends.agrees_iff (cutOff_iff hactions hends.noTick)

/-- A short beep in a run that goes on to the end of its time. -/
theorem execute_reportsBuzzer_iff_beep :
    let config : RunConfig := {
      RunConfig.default with cpuFrequency := 120, durationMs := 100 }
    let interpreter : Interpreter CountingSource :=
      ((Interpreter.new ⟨0, 1⟩ none).perform (.load [0x6A, 0x01, 0xFA, 0x18, 0x12, 0x04])).2
    interpreter.machine.sound = 0 ∧
      (execute interpreter config).log.filterMap RunNotice.buzzer? = [false, true] ∧
      ¬ CutOff interpreter config := by
  intro config interpreter
  have hquiet : interpreter.machine.sound = 0 := by decide +kernel
  obtain ⟨hagrees, -⟩ := execute_reportsBuzzer_iff interpreter config hquiet
  exact ⟨hquiet, by decide +kernel, hagrees.mp (by decide +kernel)⟩

/-- The last tick switches the buzzer off, and then the run ends before anything else
can succeed: by its greatest number of instructions, or by a fault.  The log still says
that the buzzer is on. -/
theorem exists_reportsBuzzer_ne :
    let limited : RunConfig := {
      RunConfig.default with cpuFrequency := 120, durationMs := 100, maxSteps := some 2 }
    let unlimited : RunConfig := {
      RunConfig.default with cpuFrequency := 120, durationMs := 100 }
    let looping : Interpreter CountingSource :=
      ((Interpreter.new ⟨0, 1⟩ none).perform (.load [0x6A, 0x01, 0xFA, 0x18, 0x12, 0x04])).2
    let failing : Interpreter CountingSource :=
      ((Interpreter.new ⟨0, 1⟩ none).perform (.load [0x6A, 0x01, 0xFA, 0x18, 0x00, 0xEE])).2
    (limited.accept = .ok limited ∧
      (execute looping limited).status = .exhausted ∧
      (execute looping limited).reportsBuzzer = true ∧
      (execute looping limited).interpreter.machine.buzzer = false) ∧
    (unlimited.accept = .ok unlimited ∧
      (execute failing unlimited).fault? = some (.stackUnderflow 0x206) ∧
      (execute failing unlimited).reportsBuzzer = true ∧
      (execute failing unlimited).interpreter.machine.buzzer = false) := by
  intro limited unlimited looping failing
  constructor
  · exact ⟨by decide +kernel, by decide +kernel, by decide +kernel, by decide +kernel⟩
  · exact ⟨by decide +kernel, by decide +kernel, by decide +kernel, by decide +kernel⟩

end Run
end ChipEight
