import Mathlib
import ChipEight.Operation
import ChipEight.Proofs.Step

/-!
# The words that a session executes

Every step executes one word, namely the one at the program counter, whether it
has a meaning or not.  `executed` lists the words of a whole session in their
order.  It stops short in an operation of several instructions when one of them
fails, since the others are not executed.

The random source is moved by these words alone: each word of group `C` draws
from it once (`source_performAll`).

`instants` lists the interpreters in front of these words, which are the moments that
a statement about single steps speaks of.  Between two of them only operations happen
that execute nothing (`passes_performAll`), so what holds of a step and of such an
operation holds of a session, also inside an operation of several instructions.
-/

namespace ChipEight

open Register

namespace RandomSource

variable {σ : Type} [RandomSource σ]

theorem after_add (source : σ) (first second : Nat) :
    after source (first + second) = after (after source first) second := by
  induction first generalizing source with
  | zero => rw [Nat.zero_add, after]
  | succ first ih => rw [Nat.succ_add, after, after, ih]

end RandomSource

namespace Word

/-- How many of the words draw from the random source. -/
def draws (words : List Word) : Nat :=
  words.countP (·.group == 12)

theorem draws_append (first second : List Word) :
    draws (first ++ second) = draws first + draws second :=
  List.countP_append

theorem decode_of_group_random {word : Word} (hgroup : word.group = 12) :
    word.decode = some (.random word.x word.nn) := by
  rw [decode_eq_meaningOf, hgroup]
  rfl

end Word

namespace Operation

/-- Whether the operation executes instructions. -/
def executes : Operation → Bool
  | .step | .run _ => true
  | _ => false

end Operation

namespace Interpreter

variable {σ : Type} [RandomSource σ]

/-- The words of at most `count` instructions, up to one that fails. -/
def executedByRun (interpreter : Interpreter σ) : Nat → List Word
  | 0 => []
  | count + 1 =>
    interpreter.machine.currentWord ::
      match interpreter.step with
      | (.ok _, after) => after.executedByRun count
      | (.error _, _) => []

/-- The words of one operation. -/
def executedBy (interpreter : Interpreter σ) : Operation → List Word
  | .step => [interpreter.machine.currentWord]
  | .run count => interpreter.executedByRun count
  | _ => []

/-- The words of several operations. -/
def executed (interpreter : Interpreter σ) : List Operation → List Word
  | [] => []
  | operation :: rest =>
    interpreter.executedBy operation ++ (interpreter.perform operation).2.executed rest

theorem perform_step (interpreter : Interpreter σ) :
    interpreter.perform .step = (.ofStep interpreter.step.1, interpreter.step.2) :=
  rfl

theorem perform_tick (interpreter : Interpreter σ) :
    interpreter.perform .tick = (.done, interpreter.onMachine Machine.tick) :=
  rfl

theorem executed_step (interpreter : Interpreter σ) (rest : List Operation) :
    interpreter.executed (.step :: rest) =
      interpreter.machine.currentWord :: interpreter.step.2.executed rest :=
  rfl

theorem executed_tick (interpreter : Interpreter σ) (rest : List Operation) :
    interpreter.executed (.tick :: rest) = (interpreter.onMachine Machine.tick).executed rest :=
  rfl

/-! ## Instants -/

/-- The interpreters in front of at most `count` instructions, up to one that fails. -/
def instantsByRun (interpreter : Interpreter σ) : Nat → List (Interpreter σ)
  | 0 => []
  | count + 1 =>
    interpreter ::
      match interpreter.step with
      | (.ok _, after) => after.instantsByRun count
      | (.error _, _) => []

def instantsBy (interpreter : Interpreter σ) : Operation → List (Interpreter σ)
  | .step => [interpreter]
  | .run count => interpreter.instantsByRun count
  | _ => []

/-- The interpreters in front of the words of a session. -/
def instants (interpreter : Interpreter σ) : List Operation → List (Interpreter σ)
  | [] => []
  | operation :: rest =>
    interpreter.instantsBy operation ++ (interpreter.perform operation).2.instants rest

theorem instantsBy_of_idle (interpreter : Interpreter σ) {operation : Operation}
    (hidle : operation.executes = false) : interpreter.instantsBy operation = [] := by
  cases operation with
  | step => cases hidle
  | run count => cases hidle
  | _ => rfl

theorem map_currentWord_instantsByRun (interpreter : Interpreter σ) (count : Nat) :
    (interpreter.instantsByRun count).map (·.machine.currentWord) =
      interpreter.executedByRun count := by
  induction count generalizing interpreter with
  | zero => rfl
  | succ count ih =>
      rw [instantsByRun, executedByRun, List.map_cons]
      generalize interpreter.step = outcome
      obtain ⟨answer, after⟩ := outcome
      cases answer with
      | ok flow => simp [ih]
      | error fault => rfl

theorem map_currentWord_instantsBy (interpreter : Interpreter σ) (operation : Operation) :
    (interpreter.instantsBy operation).map (·.machine.currentWord) =
      interpreter.executedBy operation := by
  cases operation with
  | run count => exact interpreter.map_currentWord_instantsByRun count
  | _ => rfl

theorem map_currentWord_instants (interpreter : Interpreter σ) (operations : List Operation) :
    (interpreter.instants operations).map (·.machine.currentWord) =
      interpreter.executed operations := by
  induction operations generalizing interpreter with
  | nil => rfl
  | cons operation rest ih =>
      rw [instants, executed, List.map_append, map_currentWord_instantsBy, ih]

/-- From an interpreter a way leads to the last one.  At each of the instants one word is
executed; between them allowed operations happen that execute nothing. -/
inductive Passes (allowed : Operation → Prop) :
    Interpreter σ → List (Interpreter σ) → Interpreter σ → Prop where
  | refl (interpreter : Interpreter σ) : Passes allowed interpreter [] interpreter
  | step {interpreter last : Interpreter σ} {instants : List (Interpreter σ)}
      (hrest : Passes allowed interpreter.step.2 instants last) :
      Passes allowed interpreter (interpreter :: instants) last
  | other {interpreter last : Interpreter σ} {instants : List (Interpreter σ)}
      {operation : Operation} (hallowed : allowed operation)
      (hidle : operation.executes = false)
      (hrest : Passes allowed (interpreter.perform operation).2 instants last) :
      Passes allowed interpreter instants last

theorem Passes.trans {allowed : Operation → Prop} {first second third : Interpreter σ}
    {before after : List (Interpreter σ)} (hbefore : Passes allowed first before second)
    (hafter : Passes allowed second after third) :
    Passes allowed first (before ++ after) third := by
  induction hbefore with
  | refl => exact hafter
  | step _ ih => exact .step (ih hafter)
  | other hallowed hidle _ ih => exact .other hallowed hidle (ih hafter)

theorem passes_runOn (allowed : Operation → Prop) (interpreter : Interpreter σ) (last : Flow)
    (count : Nat) :
    Passes allowed interpreter (interpreter.instantsByRun count)
      (interpreter.runOn last count).2 := by
  induction count generalizing interpreter last with
  | zero => exact .refl _
  | succ count ih =>
      rw [instantsByRun, runOn]
      apply Passes.step
      generalize interpreter.step = outcome
      obtain ⟨answer, after⟩ := outcome
      cases answer with
      | ok flow => exact ih after flow
      | error fault => exact .refl after

/-- A session passes its instants. -/
theorem passes_performAll {allowed : Operation → Prop} (interpreter : Interpreter σ)
    {operations : List Operation} (hallowed : ∀ operation ∈ operations, allowed operation) :
    Passes allowed interpreter (interpreter.instants operations)
      (interpreter.performAll operations).2 := by
  induction operations generalizing interpreter with
  | nil => exact .refl _
  | cons operation rest ih =>
      obtain ⟨hfirst, hrest⟩ := List.forall_mem_cons.mp hallowed
      have hlater := ih (interpreter.perform operation).2 hrest
      cases hexecutes : operation.executes with
      | false =>
          rw [instants, instantsBy_of_idle interpreter hexecutes, List.nil_append]
          exact .other hfirst hexecutes hlater
      | true =>
          cases operation with
          | step => exact .step hlater
          | run count => exact (passes_runOn allowed interpreter .plain count).trans hlater
          | _ => cases hexecutes

/-! ## The random source -/

/-- A word of group `C` takes one output and keeps its low byte. -/
theorem step_of_random {interpreter : Interpreter σ}
    (hgroup : interpreter.machine.currentWord.group = 12) :
    let word := interpreter.machine.currentWord
    let output := RandomSource.next interpreter.source
    interpreter.step =
      (.ok .plain, { interpreter with
        machine := interpreter.machine.advance.setRegister word.x (word.nn &&& output.1.toUInt8)
        source := output.2 }) := by
  rw [step, Word.decode_of_group_random hgroup]
  rfl

/-- Any other word leaves the random source alone and does not depend on it. -/
theorem step_of_group_ne {interpreter : Interpreter σ}
    (hgroup : interpreter.machine.currentWord.group ≠ 12) :
    let outcome := interpreter.machine.advance.respond interpreter.limit 0
      interpreter.machine.currentWord.decode
    interpreter.step = (outcome.1, { interpreter with machine := outcome.2 }) := by
  have hdraws := interpreter.machine.currentWord.drawsRandom_decode
  rw [beq_eq_false_iff_ne.mpr hgroup] at hdraws
  rw [step_eq_respond, if_neg hgroup]
  cases hdecode : interpreter.machine.currentWord.decode with
  | none => rfl
  | some instruction =>
      rw [hdecode] at hdraws
      simp only [Machine.respond]
      rw [Machine.execute_noise _ _ _ 0 hdraws]

theorem source_step (interpreter : Interpreter σ) :
    interpreter.step.2.source =
      RandomSource.after interpreter.source (Word.draws [interpreter.machine.currentWord]) := by
  rw [step_eq_respond, Word.draws, List.countP_singleton]
  by_cases hgroup : interpreter.machine.currentWord.group = 12
  · simp only [hgroup, if_true, beq_self_eq_true]
    rfl
  · simp only [hgroup, if_false, beq_iff_eq]
    rfl

theorem source_step_of_group_ne {interpreter : Interpreter σ}
    (hgroup : interpreter.machine.currentWord.group ≠ 12) :
    interpreter.step.2.source = interpreter.source := by
  rw [step_of_group_ne hgroup]

/-- A word that draws answers nothing special. -/
theorem source_step_of_answer_ne {interpreter : Interpreter σ}
    (hanswer : interpreter.step.1 ≠ .ok .plain) :
    interpreter.step.2.source = interpreter.source := by
  apply source_step_of_group_ne
  intro hgroup
  rw [step_of_random hgroup] at hanswer
  exact hanswer rfl

theorem source_runOn (interpreter : Interpreter σ) (last : Flow) (count : Nat) :
    (interpreter.runOn last count).2.source =
      RandomSource.after interpreter.source (Word.draws (interpreter.executedByRun count)) := by
  induction count generalizing interpreter last with
  | zero => rfl
  | succ count ih =>
      have hsource := interpreter.source_step
      rw [runOn, executedByRun]
      generalize interpreter.step = outcome at hsource ⊢
      obtain ⟨answer, after⟩ := outcome
      cases answer with
      | ok flow =>
          rw [← List.singleton_append, Word.draws_append, RandomSource.after_add, ← hsource]
          exact ih after flow
      | error fault => exact hsource

theorem source_load (interpreter : Interpreter σ) (program : List UInt8) :
    (interpreter.perform (.load program)).2.source = interpreter.source := by
  simp only [perform, load, Machine.load]
  split_ifs <;> rfl

theorem source_perform (interpreter : Interpreter σ) (operation : Operation) :
    (interpreter.perform operation).2.source =
      RandomSource.after interpreter.source
        (Word.draws (interpreter.executedBy operation)) := by
  cases operation with
  | step => exact interpreter.source_step
  | run count => exact interpreter.source_runOn .plain count
  | load program => exact interpreter.source_load program
  | reset => exact interpreter.source_onMachine Machine.reset
  | tick => rfl
  | setKey key pressed => rfl
  | releaseKeys => rfl

/-- A session moves the random source by one output for every word of group `C`
that it executes, and not otherwise. -/
theorem source_performAll (interpreter : Interpreter σ) (operations : List Operation) :
    (interpreter.performAll operations).2.source =
      RandomSource.after interpreter.source (Word.draws (interpreter.executed operations)) := by
  induction operations generalizing interpreter with
  | nil => rfl
  | cons operation rest ih =>
      rw [executed, Word.draws_append, RandomSource.after_add, ← source_perform]
      exact ih _

end Interpreter
end ChipEight
