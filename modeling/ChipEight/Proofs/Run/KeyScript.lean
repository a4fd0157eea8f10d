import Mathlib
import ChipEight.Proofs.Run.Starts
import ChipEight.Proofs.Run.Timetable
import ChipEight.Proofs.Step

/-!
# The key script of a run

The key events of a configuration may be written in any order.  They are sorted
when the configuration is accepted, and then taken off the front of the list
whenever an instruction is about to be executed.  Here the effect is stated
without the sorted list, of the interpreters on which the run itself executes its
instructions (`Run.starts`): before instruction `i` a key is in the state that the
last of its events asks for, where the events count up to moment `i` and a later
moment beats a later place in the file (`execute_followsScript`).

Two facts carry the proof.  Events of one moment keep their order when sorted,
so the last one is the same in both lists (`latest?_sortInput`).  And what has
been applied and what is pending are always the two parts of the sorted list,
with the number of executed instructions between them (`Scripted`).
-/

namespace ChipEight
namespace KeyEvent

/-! ## Scripts -/

/-- Events in the order of their moments. -/
def InOrder (events : List KeyEvent) : Prop :=
  events.Pairwise fun first second => first.atStep ≤ second.atStep

/-- Whether an event may stand before another. -/
def notAfter (first second : KeyEvent) : Bool :=
  first.atStep ≤ second.atStep

theorem notAfter_trans (first second third : KeyEvent) (hfirst : notAfter first second = true)
    (hsecond : notAfter second third = true) : notAfter first third = true :=
  decide_eq_true ((of_decide_eq_true hfirst).trans (of_decide_eq_true hsecond))

theorem notAfter_total (first second : KeyEvent) :
    (notAfter first second || notAfter second first) = true := by
  rw [Bool.or_eq_true, notAfter, notAfter, decide_eq_true_eq, decide_eq_true_eq]
  exact Nat.le_total _ _

/-- Whether an event concerns a key and counts at a given moment. -/
def counts (step : Nat) (key : Key) (event : KeyEvent) : Bool :=
  event.key = key ∧ event.atStep ≤ step

/-- The last event of a key that counts at a given moment: of those with the
latest moment, the last one in the list. -/
def latest? (script : List KeyEvent) (step : Nat) (key : Key) : Option KeyEvent :=
  let candidates := script.filter (counts step key)
  (candidates.filter fun event =>
    candidates.all fun other => other.atStep ≤ event.atStep).getLast?

/-- The state of a key that a script asks for at a given moment.  Without an
event the key is not down. -/
def heldAt (script : List KeyEvent) (step : Nat) (key : Key) : Bool :=
  ((latest? script step key).map (·.pressed)).getD false

section InOrder

variable {events : List KeyEvent}

/-- In a list that is in order, the last event that counts is the last in the
list. -/
theorem latest?_of_inOrder (horder : InOrder events) (step : Nat) (key : Key) :
    latest? events step key = (events.filter (counts step key)).getLast? := by
  have hcandidates : InOrder (events.filter (counts step key)) :=
    List.Pairwise.filter _ horder
  rw [latest?]
  -- Nothing in the list comes after its last event, so the last event is selected.
  rcases List.eq_nil_or_concat' (events.filter (counts step key)) with hnone | ⟨rest, last, hlast⟩
  · rw [hnone]
    rfl
  · rw [hlast] at hcandidates ⊢
    have hgreatest : (rest ++ [last]).all (fun other => other.atStep ≤ last.atStep) = true := by
      rw [List.all_eq_true]
      intro other hother
      rcases List.mem_append.mp hother with hrest | hsame
      · exact decide_eq_true ((List.pairwise_append.mp hcandidates).2.2 other hrest last (by simp))
      · rw [List.mem_singleton.mp hsame]
        exact decide_eq_true le_rfl
    simp only [List.filter_append, List.filter_cons, hgreatest, if_true, List.filter_nil,
      List.getLast?_concat]

/-- Up to a moment and after it, a list in order has two parts. -/
theorem lt_of_mem_dropWhile (horder : InOrder events) (step : Nat) :
    ∀ event ∈ events.dropWhile (·.atStep ≤ step), step < event.atStep := by
  induction events with
  | nil => simp
  | cons first rest ih =>
      obtain ⟨hfirst, hrest⟩ := List.pairwise_cons.mp horder
      rw [List.dropWhile_cons]
      by_cases hdue : first.atStep ≤ step
      · simp only [hdue, decide_true, if_true]
        exact ih hrest
      · simp only [hdue, decide_false, Bool.false_eq_true, if_false]
        intro event hevent
        rcases List.mem_cons.mp hevent with rfl | hlater
        · omega
        · have hle := hfirst event hlater
          omega

end InOrder

end KeyEvent

namespace RunConfig

open KeyEvent

/-! ## Sorting -/

theorem inOrder_sortInput (config : RunConfig) : InOrder config.sortInput.input :=
  (List.pairwise_mergeSort notAfter_trans notAfter_total config.input).imp of_decide_eq_true

theorem perm_sortInput (config : RunConfig) : config.sortInput.input.Perm config.input :=
  List.mergeSort_perm _ _

/-- Sorting keeps the order of events of one moment. -/
theorem filter_sortInput (config : RunConfig) {selects : KeyEvent → Bool}
    (hmoment : ∀ first ∈ config.input.filter selects, ∀ second ∈ config.input.filter selects,
      notAfter first second = true) :
    config.sortInput.input.filter selects = config.input.filter selects := by
  -- The selected events are in order already, so they are still in this order
  -- after sorting; and sorting adds none.
  have hchosen : (config.input.filter selects).Pairwise fun first second =>
      notAfter first second = true :=
    List.pairwise_of_forall_mem_list hmoment
  have hkept : (config.input.filter selects).Sublist config.sortInput.input :=
    List.sublist_mergeSort notAfter_trans notAfter_total hchosen List.filter_sublist
  have hfiltered := hkept.filter selects
  simp only [List.filter_filter, Bool.and_self] at hfiltered
  have hlength := (config.perm_sortInput.filter selects).length_eq
  exact (hfiltered.eq_of_length hlength.symm).symm

/-- The last event that counts can be found in the list as it is written. -/
theorem latest?_sortInput (config : RunConfig) (step : Nat) (key : Key) :
    latest? config.sortInput.input step key = latest? config.input step key := by
  have hcandidates := config.perm_sortInput.filter (counts step key)
  have hgreatest (event : KeyEvent) :
      (config.sortInput.input.filter (counts step key)).all
          (fun other => other.atStep ≤ event.atStep) =
        (config.input.filter (counts step key)).all fun other => other.atStep ≤ event.atStep :=
    hcandidates.all_eq
  simp only [latest?, hgreatest, List.filter_filter]
  -- The events selected in the end all have the same, latest moment.
  rw [config.filter_sortInput]
  intro first hfirst second hsecond
  rw [List.mem_filter, Bool.and_eq_true] at hfirst hsecond
  obtain ⟨hmem, -, hcounts⟩ := hfirst
  obtain ⟨-, hall, -⟩ := hsecond
  rw [List.all_eq_true] at hall
  exact hall first (List.mem_filter.mpr ⟨hmem, hcounts⟩)

end RunConfig

/-! ## Keys and actions -/

namespace Interpreter

variable {σ : Type} [RandomSource σ]

/-- Only key events change a key, and the last one decides. -/
theorem isDown_actAll (interpreter : Interpreter σ) (actions : List RunAction) (key : Key) :
    (interpreter.actAll actions).machine.keypad.isDown key.val =
      ((((RunAction.events actions).filter (·.key = key)).getLast?).map (·.pressed)).getD
        (interpreter.machine.keypad.isDown key.val) := by
  induction actions generalizing interpreter with
  | nil => rfl
  | cons action rest ih =>
      rw [actAll_cons, ih]
      cases action with
      | tick => rfl
      | step =>
          have hkeypad : (interpreter.act .step).machine.keypad = interpreter.machine.keypad :=
            interpreter.keypad_step
          rw [hkeypad]
          rfl
      | key event =>
          have hset : (interpreter.act (.key event)).machine.keypad.isDown key.val =
              if event.key = key then event.pressed
              else interpreter.machine.keypad.isDown key.val := by
            change (interpreter.machine.keypad.set event.key.val event.pressed).isDown key.val = _
            rw [Keypad.isDown_set]
            simp [Fin.ext_iff]
          have hevents : RunAction.events (.key event :: rest) = event :: RunAction.events rest :=
            rfl
          rw [hset, hevents, List.filter_cons]
          by_cases hkey : event.key = key
          · simp only [hkey, decide_true, if_true, List.getLast?_cons]
            cases ((RunAction.events rest).filter (·.key = key)).getLast? <;> rfl
          · simp only [hkey, decide_false, if_false, Bool.false_eq_true]

end Interpreter

namespace Run

open KeyEvent

variable {σ : Type}

/-- What is known about the events of a run in progress: applied and pending
events make up the script, and the number of executed instructions separates
them. -/
structure Scripted (config : RunConfig) (history : List RunAction) (run : Run σ) : Prop where
  split : config.input = RunAction.events history ++ run.pending
  applied : ∀ event ∈ RunAction.events history, event.atStep < history.count .step
  pending : ∀ event ∈ run.pending, history.count .step ≤ event.atStep
  onTime : RunAction.EveryStep history fun before =>
    RunAction.events before = config.input.filter (·.atStep ≤ before.count .step)

namespace Scripted

variable {config : RunConfig} {history : List RunAction} {run : Run σ}

/-- A condition that separates the two parts of a script selects the first. -/
theorem filter_eq {script first second : List KeyEvent} {selects : KeyEvent → Bool}
    (hsplit : script = first ++ second) (hfirst : ∀ event ∈ first, selects event = true)
    (hsecond : ∀ event ∈ second, selects event = false) : script.filter selects = first := by
  have hnone : second.filter selects = [] := by
    rw [List.filter_eq_nil_iff]
    intro event hevent
    rw [hsecond event hevent]
    exact Bool.false_ne_true
  rw [hsplit, List.filter_append, List.filter_eq_self.mpr hfirst, hnone, List.append_nil]

/-- Applied are the events of all moments up to the last instruction. -/
theorem events_eq (hscripted : Scripted config history run) :
    RunAction.events history = config.input.filter (·.atStep < history.count .step) :=
  (filter_eq hscripted.split (fun event hevent => decide_eq_true (hscripted.applied event hevent))
    (fun event hevent => decide_eq_false (hscripted.pending event hevent).not_gt)).symm

/-- All other events are pending. -/
theorem pending_eq (hscripted : Scripted config history run) :
    run.pending = config.input.filter (history.count .step ≤ ·.atStep) := by
  have hnone : (RunAction.events history).filter (history.count .step ≤ ·.atStep) = [] := by
    rw [List.filter_eq_nil_iff]
    intro event hevent hlater
    exact absurd (of_decide_eq_true hlater) (hscripted.applied event hevent).not_ge
  have hall : run.pending.filter (history.count .step ≤ ·.atStep) = run.pending :=
    List.filter_eq_self.mpr fun event hevent => decide_eq_true (hscripted.pending event hevent)
  rw [hscripted.split, List.filter_append, hnone, hall, List.nil_append]

theorem start (interpreter : Interpreter σ) (config : RunConfig) :
    Scripted config [] (Run.start interpreter config) where
  split := rfl
  applied := by simp [RunAction.events]
  pending := fun _ _ => Nat.zero_le _
  onTime := RunAction.everyStep_nil

/-- A tick touches neither the script nor the number of instructions. -/
theorem beginTick (hscripted : Scripted config history run) :
    Scripted config (history ++ [.tick]) run.beginTick.2 := by
  have hevents : RunAction.events (history ++ [.tick]) = RunAction.events history := by
    rw [RunAction.events_append]
    exact List.append_nil _
  have hcount : (history ++ [RunAction.tick]).count RunAction.step = history.count .step := by
    rw [List.count_append]
    rfl
  exact {
    split := by
      rw [hevents]
      exact hscripted.split
    applied := by
      rw [hevents, hcount]
      exact hscripted.applied
    pending := by
      rw [hcount]
      exact hscripted.pending
    onTime := hscripted.onTime.append_one _ (by simp) }

theorem noteBuzzer (hscripted : Scripted config history run) :
    Scripted config history run.noteBuzzer := by
  obtain ⟨log, hnoted⟩ := run.noteBuzzer_eq
  rw [hnoted]
  exact { hscripted with }

/-- An instruction takes the due events off the list. -/
theorem stepActions (hscripted : Scripted config history run) (horder : InOrder config.input)
    (hsteps : history.count .step = run.steps) {after : Run σ}
    (hpending : after.pending = run.pending.dropWhile (·.atStep ≤ run.steps)) :
    Scripted config (history ++ run.stepActions) after := by
  have hcount : (history ++ run.stepActions).count .step = run.steps + 1 := by
    rw [List.count_append, run.count_step_stepActions, hsteps]
  have hevents : RunAction.events (history ++ run.stepActions) =
      RunAction.events history ++ run.dueEvents := by
    rw [RunAction.events_append, run.events_stepActions]
  have hsplit : config.input =
      (RunAction.events history ++ run.dueEvents) ++ after.pending := by
    rw [List.append_assoc, hpending, dueEvents, List.takeWhile_append_dropWhile]
    exact hscripted.split
  -- The number of the instruction separates the events that have been applied
  -- now from those that are still pending.
  have happlied : ∀ event ∈ RunAction.events history ++ run.dueEvents,
      event.atStep ≤ run.steps := by
    intro event hevent
    rcases List.mem_append.mp hevent with hearlier | hdue
    · have hlt := hscripted.applied event hearlier
      omega
    · have hbound := List.mem_takeWhile_imp hdue
      exact of_decide_eq_true hbound
  have hlater : ∀ event ∈ after.pending, run.steps < event.atStep := by
    have hpart : InOrder run.pending :=
      List.Pairwise.sublist (hscripted.split ▸ List.sublist_append_right _ _) horder
    rw [hpending]
    exact lt_of_mem_dropWhile hpart run.steps
  exact {
    split := by rw [hevents, hsplit]
    applied := by
      intro event hevent
      rw [hcount]
      exact Nat.lt_succ_of_le (happlied event (hevents ▸ hevent))
    pending := by
      intro event hevent
      rw [hcount]
      exact hlater event hevent
    onTime := by
      refine everyStep_append_stepActions hscripted.onTime run ?_
      have hbefore : (history ++ run.dueEvents.map RunAction.key).count RunAction.step =
          run.steps := by
        rw [List.count_append, RunAction.count_step_map_key, hsteps]
        rfl
      rw [hbefore, RunAction.events_append, RunAction.events_map_key]
      exact (filter_eq hsplit (fun event hevent => decide_eq_true (happlied event hevent))
        (fun event hevent => decide_eq_false (hlater event hevent).not_ge)).symm }

variable [RandomSource σ]

theorem instruction (hscripted : Scripted config history run) (horder : InOrder config.input)
    (hsteps : history.count .step = run.steps) :
    Scripted config (history ++ run.instructionActions config.stepLimit)
      (run.instruction config.stepLimit) := by
  rcases run.instruction_cases config.stepLimit with
    ⟨-, hactions, hrun⟩ | ⟨-, hactions, ⟨flow, log, -, hrun⟩ | ⟨fault, log, -, hrun⟩⟩
  · rw [hactions, hrun, List.append_nil]
    exact { hscripted with }
  · rw [hactions]
    exact hscripted.stepActions horder hsteps (by rw [hrun])
  · rw [hactions]
    exact hscripted.stepActions horder hsteps (by rw [hrun])

end Scripted

variable [RandomSource σ]

/-- The invariant holds of every run in progress, if the script is in order. -/
theorem Reachable.scripted {interpreter : Interpreter σ} {config : RunConfig}
    {history : List RunAction} {left : Nat} {run : Run σ}
    (hreached : Reachable interpreter config history left run) (horder : InOrder config.input) :
    Scripted config history run := by
  induction hreached with
  | start => exact Scripted.start interpreter config
  | beginTick _ _ _ ih => exact ih.beginTick
  | instruction hreached hrunning ih =>
      exact ih.instruction horder (hreached.progress.count_step hrunning)
  | endTick _ _ ih => exact ih.noteBuzzer

/-! ## Whole runs -/

/-- What is promised about the keys during a run. -/
structure FollowsScript (interpreter : Interpreter σ) (config : RunConfig)
    (script : List KeyEvent) : Prop where
  /-- The run leaves the interpreter to which its actions lead. -/
  state : (execute interpreter config).interpreter =
    interpreter.actAll (actions interpreter config)
  /-- On the way it comes to the interpreters to which its actions lead. -/
  replayed : starts interpreter config = interpreter.starts (actions interpreter config)
  /-- An instruction that fails is executed but not counted. -/
  counted : (starts interpreter config).length =
    (execute interpreter config).steps +
      if (execute interpreter config).fault?.isSome then 1 else 0
  /-- When the run executes instruction `i`, every key is in the state that the
  script asks for at moment `i`. -/
  held : ∀ (i : Nat) (start : Interpreter σ), (starts interpreter config)[i]? = some start →
    ∀ key : Key, start.machine.keypad.isDown key.val = heldAt script i key
  /-- After the last instruction no key changes any more. -/
  heldAtEnd : ∀ last : Nat, (starts interpreter config).length = last + 1 → ∀ key : Key,
    (execute interpreter config).interpreter.machine.keypad.isDown key.val =
      heldAt script last key
  /-- The events of all moments up to the last instruction are applied, each of
  them once, and no others. -/
  applied : (RunAction.events (actions interpreter config)).Perm
    (script.filter (·.atStep < (starts interpreter config).length))
  /-- All other events are still pending. -/
  pending : (execute interpreter config).pending.Perm
    (script.filter ((starts interpreter config).length ≤ ·.atStep))

/-- With the events up to a moment, the keys are in the state that the script
asks for at that moment. -/
theorem isDown_actAll_of_events {interpreter : Interpreter σ} {given : RunConfig}
    (hreleased : interpreter.machine.keypad = Keypad.released) {before : List RunAction}
    {step : Nat} (hevents : RunAction.events before =
      given.sortInput.input.filter (·.atStep ≤ step)) (key : Key) :
    (interpreter.actAll before).machine.keypad.isDown key.val = heldAt given.input step key := by
  have hlatest := latest?_of_inOrder given.inOrder_sortInput step key
  rw [given.latest?_sortInput] at hlatest
  -- Of the events up to this moment, only those of the key matter.
  have hcounts : (given.sortInput.input.filter (·.atStep ≤ step)).filter (·.key = key) =
      given.sortInput.input.filter (counts step key) := by
    rw [List.filter_filter]
    refine List.filter_congr fun event _ => ?_
    rw [counts, ← Bool.decide_and]
  rw [interpreter.isDown_actAll, hevents, hcounts, hreleased, Keypad.isDown_released, heldAt,
    hlatest]

/-- Every run of an accepted configuration follows the script as it is written,
if no key is down at the start. -/
theorem execute_followsScript (interpreter : Interpreter σ) {given config : RunConfig}
    (haccept : given.accept = .ok config)
    (hreleased : interpreter.machine.keypad = Keypad.released) :
    FollowsScript interpreter config given.input := by
  obtain rfl : config = given.sortInput := by
    unfold RunConfig.accept at haccept
    split at haccept
    · contradiction
    · exact (Except.ok.inj haccept).symm
  obtain ⟨_, hreached, -⟩ := reachable_execute interpreter given.sortInput
  have hscripted := hreached.scripted given.inOrder_sortInput
  have hreplays := replays_execute interpreter given.sortInput
  have hlength : (starts interpreter given.sortInput).length =
      (actions interpreter given.sortInput).count .step := by
    rw [hreplays.starts]
    exact interpreter.length_starts _
  constructor
  case state => exact hreplays.state
  case replayed => exact hreplays.starts
  case counted => rw [hlength, hreached.progress.count_step_eq]
  case held =>
    intro i start hstart key
    rw [hreplays.starts] at hstart
    obtain ⟨before, after, hactions, rfl, rfl⟩ :=
      interpreter.exists_split_of_getElem?_starts hstart
    exact isDown_actAll_of_events hreleased (hscripted.onTime before after hactions) key
  case heldAtEnd =>
    intro last hlast key
    rw [hreplays.state]
    refine isDown_actAll_of_events hreleased ?_ key
    rw [hscripted.events_eq, ← hlength, hlast]
    exact List.filter_congr fun event _ => decide_eq_decide.mpr Nat.lt_succ_iff
  case applied =>
    rw [hscripted.events_eq, hlength]
    exact given.perm_sortInput.filter _
  case pending =>
    rw [hscripted.pending_eq, hlength]
    exact given.perm_sortInput.filter _

/-- A script out of order, with two events of one key at one moment: the later
one in the list wins.  The run executes five instructions. -/
theorem execute_followsScript_unordered :
    let given : RunConfig := {
      RunConfig.default with
      cpuFrequency := 300
      durationMs := 17
      input := [⟨3, 1, false⟩, ⟨0, 1, true⟩, ⟨3, 1, true⟩, ⟨2, 5, true⟩] }
    let interpreter : Interpreter CountingSource := Interpreter.new ⟨0, 1⟩ none
    given.accept = .ok given.sortInput ∧
      interpreter.machine.keypad = Keypad.released ∧
      heldAt given.input 3 1 = true ∧
      (starts interpreter given.sortInput).map
          (fun start => (start.machine.keypad.isDown 1, start.machine.keypad.isDown 5)) =
        [(true, false), (true, false), (true, true), (true, true), (true, true)] ∧
      FollowsScript interpreter given.sortInput given.input := by
  intro given interpreter
  have hbounds : given.refusal? = none := by
    rw [RunConfig.refusal?_eq_none_iff]
    norm_num [given, RunConfig.default, wordBound, Nat.shiftLeft_eq]
  have haccept : given.accept = .ok given.sortInput := by
    rw [RunConfig.accept, hbounds]
  have hreleased : interpreter.machine.keypad = Keypad.released := rfl
  have hsorted : given.sortInput = {
      given with
      input := [⟨0, 1, true⟩, ⟨2, 5, true⟩, ⟨3, 1, false⟩, ⟨3, 1, true⟩] } := by
    cbv
  refine ⟨haccept, hreleased, rfl, ?_, execute_followsScript interpreter haccept hreleased⟩
  rw [hsorted]
  decide +kernel

end Run
end ChipEight
