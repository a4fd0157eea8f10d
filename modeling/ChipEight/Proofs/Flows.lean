import Mathlib
import ChipEight.Proofs.Executed
import ChipEight.Proofs.StackLimit

/-!
# What a flow tells

The answer of a step bounds what the step may have changed.  Only a step that answers
`draw` changes the picture, and only one that answers `sound` sets the sound timer; a
step that waits for a key changes nothing, and a jump changes nothing but where the
machine is in its program.  The program counter passes one word or two unless there is
a jump or a wait.

`Change` says so of a single instruction, with one case for each kind of answer
(`change_execute`).  Everything else in this module rests on these cases and does not
look at the instructions again.

Whoever shows the picture may therefore copy it at the start and whenever a step has
answered `draw`, and has the current picture at any time (`flowIsTrusted`).  Only a
reset is left out, which clears the picture without being a step.  Several instructions
at once answer for the last of them alone, so the copies are made after the single
steps.
-/

namespace ChipEight
namespace Machine

/-- What an instruction may have changed behind the fetch, by what it answers. -/
inductive Change (before after : Machine) : Except Fault Flow → Prop where
  | plain (hcounter : after.counter = before.counter ∨ after.counter = before.counter + 2)
      (hscreen : after.screen = before.screen) (hsound : after.sound = before.sound) :
      Change before after (.ok .plain)
  | jump (counter : UInt16) (stack : Array UInt16)
      (hafter : after = { before with counter, stack }) : Change before after (.ok .jump)
  | draw (hcounter : after.counter = before.counter) (hsound : after.sound = before.sound) :
      Change before after (.ok .draw)
  | sound (hcounter : after.counter = before.counter) (hscreen : after.screen = before.screen) :
      Change before after (.ok .sound)
  /-- Stepping back undoes the fetch. -/
  | keyWait (hafter : after = { before with counter := before.counter - 2 }) :
      Change before after (.ok .keyWait)
  | fail (fault : Fault) (hafter : after = before) : Change before after (.error fault)

variable (machine : Machine)

theorem change_skipIf (condition : Bool) :
    Change machine (machine.skipIf condition) (.ok .plain) := by
  cases condition with
  | false => exact .plain (.inl rfl) rfl rfl
  | true => exact .plain (.inr rfl) rfl rfl

theorem change_returnFromCall :
    Change machine machine.returnFromCall.2 machine.returnFromCall.1 := by
  unfold returnFromCall
  cases machine.stack.back? with
  | none => exact .fail _ rfl
  | some address => exact .jump address machine.stack.pop rfl

theorem change_callAt (limit : Option Nat) (target : UInt16) :
    Change machine (machine.callAt limit target).2 (machine.callAt limit target).1 := by
  unfold callAt
  cases machine.atLimit limit with
  | true => exact .fail _ rfl
  | false => exact .jump target (machine.stack.push machine.counter) rfl

theorem change_readKey (x : Register) :
    Change machine (machine.readKey x).2 (machine.readKey x).1 := by
  unfold readKey
  cases machine.keypad.first? with
  | none => exact .keyWait rfl
  | some key => exact .plain (.inl rfl) rfl rfl

theorem change_loadRegisters (x : Register) :
    Change machine (machine.loadRegisters x) (.ok .plain) := by
  apply Change.plain
  · left
    simp only [loadRegisters, passRegisters]
  · simp only [loadRegisters, passRegisters]
  · simp only [loadRegisters, passRegisters]

/-- No instruction changes more than its answer admits. -/
theorem change_execute (limit : Option Nat) (noise : UInt8) (instruction : Instruction) :
    Change machine (machine.execute limit noise instruction).2
      (machine.execute limit noise instruction).1 := by
  cases instruction with
  | clearScreen => exact .draw rfl rfl
  | draw x y height => exact .draw rfl rfl
  | setSound x => exact .sound rfl rfl
  | ret => exact machine.change_returnFromCall
  | call target => exact machine.change_callAt limit _
  | jump target => exact .jump _ machine.stack rfl
  | jumpOffset target => exact .jump _ machine.stack rfl
  | awaitKey x => exact machine.change_readKey x
  | skipIfEqual x value => exact machine.change_skipIf _
  | skipUnlessEqual x value => exact machine.change_skipIf _
  | skipIfSame x y => exact machine.change_skipIf _
  | skipUnlessSame x y => exact machine.change_skipIf _
  | skipIfDown x => exact machine.change_skipIf _
  | skipUnlessDown x => exact machine.change_skipIf _
  | loadRegisters x => exact machine.change_loadRegisters x
  | _ => exact .plain (.inl rfl) rfl rfl

end Machine

namespace Interpreter

variable {σ : Type} [RandomSource σ] {interpreter : Interpreter σ}

/-! ## Steps -/

/-- A step is a fetch and a change that its answer admits. -/
theorem change_step (interpreter : Interpreter σ) :
    Machine.Change interpreter.machine.advance interpreter.step.2.machine interpreter.step.1 := by
  cases hword : interpreter.machine.currentWord.decode with
  | none =>
      rw [step_of_skipped hword]
      exact .plain (.inl rfl) rfl rfl
  | some instruction =>
      rw [step_of_instruction hword]
      exact interpreter.machine.advance.change_execute _ _ instruction

theorem screen_step (hanswer : interpreter.step.1 ≠ .ok .draw) :
    interpreter.step.2.machine.screen = interpreter.machine.screen := by
  have hchange := interpreter.change_step
  generalize interpreter.step.1 = answer at hanswer hchange
  cases hchange with
  | plain _ hscreen _ => exact hscreen
  | sound _ hscreen => exact hscreen
  | draw _ _ => contradiction
  | jump _ _ hafter => rw [hafter]; rfl
  | keyWait hafter => rw [hafter]; rfl
  | fail _ hafter => rw [hafter]; rfl

theorem sound_step (hanswer : interpreter.step.1 ≠ .ok .sound) :
    interpreter.step.2.machine.sound = interpreter.machine.sound := by
  have hchange := interpreter.change_step
  generalize interpreter.step.1 = answer at hanswer hchange
  cases hchange with
  | plain _ _ hsound => exact hsound
  | draw _ hsound => exact hsound
  | sound _ _ => contradiction
  | jump _ _ hafter => rw [hafter]; rfl
  | keyWait hafter => rw [hafter]; rfl
  | fail _ hafter => rw [hafter]; rfl

/-- The machine of a step that waits or jumps says everything about it. -/
theorem step_of_machine {flow : Flow} {machine : Machine} (hanswer : interpreter.step.1 = .ok flow)
    (hflow : flow ≠ .plain) (hmachine : interpreter.step.2.machine = machine) :
    interpreter.step.2 = { interpreter with machine } := by
  have hsource : interpreter.step.2.source = interpreter.source := by
    apply source_step_of_answer_ne
    rw [hanswer]
    exact fun hplain => hflow (Except.ok.inj hplain)
  have hlimit := interpreter.limit_step
  generalize interpreter.step.2 = after at hmachine hsource hlimit ⊢
  obtain ⟨_, _, _⟩ := after
  simp only at hmachine hsource hlimit
  rw [hmachine, hsource, hlimit]

theorem step_of_keyWait (hanswer : interpreter.step.1 = .ok .keyWait) :
    interpreter.step.2 = interpreter := by
  refine step_of_machine hanswer (by decide) ?_
  have hchange := interpreter.change_step
  rw [hanswer] at hchange
  cases hchange with
  | keyWait hafter =>
      have hback : interpreter.machine.counter + 2 - 2 = interpreter.machine.counter :=
        UInt16.add_sub_cancel _ _
      rw [hafter]
      change { interpreter.machine with counter := interpreter.machine.counter + 2 - 2 } = _
      rw [hback]

theorem step_of_jump (hanswer : interpreter.step.1 = .ok .jump) : ∃ counter stack,
    interpreter.step.2 =
      { interpreter with machine := { interpreter.machine with counter, stack } } := by
  have hchange := interpreter.change_step
  rw [hanswer] at hchange
  cases hchange with
  | jump counter stack hafter =>
      exact ⟨counter, stack, step_of_machine hanswer (by decide) hafter⟩

theorem counter_step_of_plain (hanswer : interpreter.step.1 = .ok .plain) :
    interpreter.step.2.machine.counter = interpreter.machine.counter + 2 ∨
      interpreter.step.2.machine.counter = interpreter.machine.counter + 4 := by
  have hchange := interpreter.change_step
  rw [hanswer] at hchange
  cases hchange with
  | plain hcounter _ _ =>
      have htwice : interpreter.machine.counter + 2 + 2 = interpreter.machine.counter + 4 := by
        rw [UInt16.add_assoc]
        rfl
      rwa [← htwice]

theorem counter_step_of_draw_or_sound
    (hanswer : interpreter.step.1 = .ok .draw ∨ interpreter.step.1 = .ok .sound) :
    interpreter.step.2.machine.counter = interpreter.machine.counter + 2 := by
  have hchange := interpreter.change_step
  rcases hanswer with hanswer | hanswer <;> rw [hanswer] at hchange
  · cases hchange with
    | draw hcounter _ => exact hcounter
  · cases hchange with
    | sound hcounter _ => exact hcounter

/-! ## Whoever shows the picture -/

/-- The picture that is held after a step, if it was `held` before and is copied when
the step has answered that something is drawn. -/
def refreshed (interpreter : Interpreter σ) (held : Screen) : Screen :=
  if interpreter.step.1 = .ok .draw then interpreter.step.2.machine.screen else held

/-- The picture that is held after a session by whoever copies the picture in front of
it, and again after every step that has answered that something is drawn. -/
def rendered (interpreter : Interpreter σ) (operations : List Operation) : Screen :=
  (interpreter.instants operations).foldl (fun held instant => instant.refreshed held)
    interpreter.machine.screen

theorem refreshed_screen (interpreter : Interpreter σ) :
    interpreter.refreshed interpreter.machine.screen = interpreter.step.2.machine.screen := by
  by_cases hanswer : interpreter.step.1 = .ok .draw
  · exact if_pos hanswer
  · rw [screen_step hanswer]
    exact if_neg hanswer

/-- Beside steps, only a reset changes the picture. -/
theorem screen_perform_of_idle (interpreter : Interpreter σ) {operation : Operation}
    (hidle : operation.executes = false) (hreset : operation ≠ .reset) :
    (interpreter.perform operation).2.machine.screen = interpreter.machine.screen := by
  cases operation with
  | step => cases hidle
  | run count => cases hidle
  | reset => contradiction
  | load program =>
      simp only [perform, load, Machine.load]
      split_ifs <;> rfl
  | tick => rfl
  | setKey key pressed => rfl
  | releaseKeys => rfl

theorem foldl_refreshed_of_passes {interpreter last : Interpreter σ}
    {instants : List (Interpreter σ)} (hpasses : Passes (· ≠ .reset) interpreter instants last) :
    instants.foldl (fun held instant => instant.refreshed held) interpreter.machine.screen =
      last.machine.screen := by
  induction hpasses with
  | refl => rfl
  | step _ ih => rw [List.foldl_cons, refreshed_screen, ih]
  | other hreset hidle _ ih => rw [← ih, screen_perform_of_idle _ hidle hreset]

/-- What is promised to whoever drives an interpreter and looks at the answers of steps. -/
structure FlowIsTrusted (interpreter : Interpreter σ) : Prop where
  /-- Only a step that answers `draw` changes the picture; a fault does not either. -/
  screen : interpreter.step.1 ≠ .ok .draw →
    interpreter.step.2.machine.screen = interpreter.machine.screen
  sound : interpreter.step.1 ≠ .ok .sound →
    interpreter.step.2.machine.sound = interpreter.machine.sound
  keyWait : interpreter.step.1 = .ok .keyWait → interpreter.step.2 = interpreter
  plain : interpreter.step.1 = .ok .plain →
    interpreter.step.2.machine.counter = interpreter.machine.counter + 2 ∨
      interpreter.step.2.machine.counter = interpreter.machine.counter + 4
  drawOrSound : interpreter.step.1 = .ok .draw ∨ interpreter.step.1 = .ok .sound →
    interpreter.step.2.machine.counter = interpreter.machine.counter + 2
  /-- A jump changes the program counter and the stack, and nothing else. -/
  jump : interpreter.step.1 = .ok .jump → ∃ counter stack,
    interpreter.step.2 =
      { interpreter with machine := { interpreter.machine with counter, stack } }
  /-- Copies of the picture after every `draw` are enough to have the current picture. -/
  renders : ∀ operations : List Operation, (∀ operation ∈ operations, operation ≠ .reset) →
    interpreter.rendered operations = (interpreter.performAll operations).2.machine.screen

/-- In every state the answer of a step says what the step may have changed. -/
theorem flowIsTrusted (interpreter : Interpreter σ) : FlowIsTrusted interpreter where
  screen := screen_step
  sound := sound_step
  keyWait := step_of_keyWait
  plain := counter_step_of_plain
  drawOrSound := counter_step_of_draw_or_sound
  jump := step_of_jump
  renders := fun _ hreset => foldl_refreshed_of_passes (interpreter.passes_performAll hreset)

/-- One step for each flow.  The drawing is the first of four instructions at once, which
together answer that the machine waits. -/
theorem flowIsTrusted_everyFlow :
    let start : Interpreter CountingSource :=
      ((new ⟨0, 1⟩ none).perform
        (.load [0xD0, 0x05, 0xF0, 0x18, 0x12, 0x06, 0xF1, 0x0A])).2
    let operations : List Operation := [.run 4, .tick, .setKey 3 true, .step]
    (start.instants operations).map (·.step.1) =
        [.ok .draw, .ok .sound, .ok .jump, .ok .keyWait, .ok .plain] ∧
      (start.performAll operations).1 = [.flow .keyWait, .done, .done, .flow .plain] ∧
      start.step.2.machine.counter = 0x202 ∧
      start.rendered operations = (start.performAll operations).2.machine.screen ∧
      start.rendered operations ≠ Screen.blank := by
  intro start operations
  have hdraw : start.step.1 = .ok .draw := by decide +kernel
  have hcounter := (flowIsTrusted start).drawOrSound (.inl hdraw)
  have hpicture := (flowIsTrusted start).renders operations (by decide)
  refine ⟨by decide +kernel, by decide +kernel, ?_, hpicture, ?_⟩
  · rw [hcounter]
    decide +kernel
  · rw [hpicture]
    decide +kernel

end Interpreter
end ChipEight
