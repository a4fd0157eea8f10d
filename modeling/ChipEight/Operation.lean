import ChipEight.Interpreter

/-!
# Operations

Everything that can be done to an interpreter from outside, as data, so that a
whole session is a list.  An operation answers something and leaves an
interpreter behind; it also has notices for the log.

No operation touches the limit of the stack, and only steps touch the random
source.
-/

namespace ChipEight

/-- What can be done to an interpreter. -/
inductive Operation where
  | load (program : List UInt8)
  /-- Bring the machine back to its state after power-on. -/
  | reset
  | step
  /-- Execute instructions until one fails, at most the given number. -/
  | run (count : Nat)
  /-- Count the timers down. -/
  | tick
  | setKey (key : Key) (pressed : Bool)
  | releaseKeys
deriving DecidableEq

/-- What an operation answers. -/
inductive Outcome where
  | done
  | refused (error : LoadError)
  | flow (flow : Flow)
  | fault (fault : Fault)
deriving DecidableEq

namespace Outcome

/-- The answer of a step. -/
def ofStep : Except Fault Flow → Outcome
  | .ok last => .flow last
  | .error cause => .fault cause

end Outcome

namespace Interpreter

variable {σ : Type} [RandomSource σ]

/-- Do one thing to an interpreter. -/
def perform (interpreter : Interpreter σ) : Operation → Outcome × Interpreter σ
  | .load program =>
    match interpreter.load program with
    | .ok after => (.done, after)
    | .error error => (.refused error, interpreter)
  | .reset => (.done, interpreter.reset)
  | .step =>
    let (result, after) := interpreter.step
    (.ofStep result, after)
  | .run count =>
    let (result, after) := interpreter.run count
    (.ofStep result, after)
  | .tick => (.done, interpreter.onMachine Machine.tick)
  | .setKey key pressed => (.done, interpreter.onMachine (·.setKey key.val pressed))
  | .releaseKeys => (.done, interpreter.onMachine Machine.releaseKeys)

/-- Do several things, one after the other. -/
def performAll (interpreter : Interpreter σ) : List Operation → List Outcome × Interpreter σ
  | [] => ([], interpreter)
  | operation :: rest =>
    let (outcome, after) := interpreter.perform operation
    let (outcomes, last) := after.performAll rest
    (outcome :: outcomes, last)

/-- What an operation writes to the log.  A program that is refused is not
mentioned. -/
def notices (interpreter : Interpreter σ) : Operation → List Notice
  | .load program =>
    match interpreter.load program with
    | .ok _ => [.loaded program.length]
    | .error _ => []
  | .reset => [.reset]
  | .step => interpreter.runNotices 1
  | .run count => interpreter.runNotices count
  | _ => []

@[simp]
theorem performAll_nil (interpreter : Interpreter σ) :
    interpreter.performAll [] = ([], interpreter) :=
  rfl

/-- Operations in two parts are done one part after the other. -/
theorem performAll_append (interpreter : Interpreter σ) (first second : List Operation) :
    interpreter.performAll (first ++ second) =
      ((interpreter.performAll first).1 ++ ((interpreter.performAll first).2.performAll second).1,
        ((interpreter.performAll first).2.performAll second).2) := by
  induction first generalizing interpreter with
  | nil => rfl
  | cons operation rest ih => simp [performAll, ih]

/-- Every operation has an answer. -/
theorem length_performAll (interpreter : Interpreter σ) (operations : List Operation) :
    (interpreter.performAll operations).1.length = operations.length := by
  induction operations generalizing interpreter with
  | nil => rfl
  | cons operation rest ih => simp [performAll, ih]

end Interpreter
end ChipEight
