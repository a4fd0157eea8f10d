import Mathlib
import ChipEight.Proofs.Executed
import ChipEight.Proofs.StackLimit

/-!
# After a reset

A reset brings every component of the machine back to its state after power-on, and
touches nothing else.  What a session does after a reset therefore depends on what
came before only through the random source, which stays where the executed words have
moved it.  All answers and states from there on are those of a new interpreter with
the same limit and a source in that place (`performAll_append_reset`).
-/

namespace ChipEight
namespace Interpreter

variable {σ : Type}

/-- A reset leaves a new interpreter, but for the place of the random source. -/
theorem reset_eq_new (interpreter : Interpreter σ) :
    interpreter.reset = new interpreter.source interpreter.limit := by
  rw [reset, onMachine, Machine.reset_eq_initial, new]

variable [RandomSource σ]

/-- No operation touches the limit. -/
theorem limit_session (interpreter : Interpreter σ) (operations : List Operation) :
    (interpreter.performAll operations).2.limit = interpreter.limit := by
  induction operations generalizing interpreter with
  | nil => rfl
  | cons operation rest ih =>
      obtain ⟨singles, hsingle, hafter⟩ := interpreter.exists_single_of_perform operation
      rw [performAll_cons, ih, hafter, limit_performAll _ hsingle]

/-- A new interpreter like the one that a session began with, except that the random
source is where the session has moved it. -/
def renewed (interpreter : Interpreter σ) (operations : List Operation) : Interpreter σ :=
  new (RandomSource.after interpreter.source (Word.draws (interpreter.executed operations)))
    interpreter.limit

theorem reset_performAll (interpreter : Interpreter σ) (operations : List Operation) :
    (interpreter.performAll operations).2.reset = interpreter.renewed operations := by
  rw [reset_eq_new, source_performAll, limit_session, renewed]

/-- After a reset everything is as with a new interpreter whose random source is where
the old one was: all answers are the same, and so is the state after each operation. -/
theorem performAll_append_reset (interpreter : Interpreter σ) (before after : List Operation) :
    (interpreter.performAll (before ++ .reset :: after)).1 =
        (interpreter.performAll before).1 ++
          .done :: ((interpreter.renewed before).performAll after).1 ∧
      ∀ count, (interpreter.performAll (before ++ .reset :: after.take count)).2 =
        ((interpreter.renewed before).performAll (after.take count)).2 := by
  have hreset (rest : List Operation) :
      (interpreter.performAll before).2.performAll (.reset :: rest) =
        (.done :: ((interpreter.renewed before).performAll rest).1,
          ((interpreter.renewed before).performAll rest).2) := by
    rw [performAll_cons, perform, reset_performAll]
  constructor
  · rw [performAll_append, hreset]
  · intro count
    rw [performAll_append, hreset]

end Interpreter
end ChipEight
