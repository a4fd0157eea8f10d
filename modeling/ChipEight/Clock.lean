/-!
# The clock

The timers count down a fixed number of times per second of emulated time, and
instructions run at a rate of their own.  Each tick of the timers comes with a
budget of instructions.  The fraction of an instruction that does not fit into
a tick is carried over, so that the first `k` budgets together are the whole
number of instructions due after `k` ticks.
-/

namespace ChipEight

/-- Nanoseconds in a second. -/
def nanosPerSecond : Nat := 1000000000

/-- Whole nanoseconds of one cycle at the given frequency in hertz.  A
frequency of zero has cycles of length zero. -/
def cycleNanos (frequency : Nat) : Nat :=
  nanosPerSecond / frequency

/-- Rates in hertz, and what is owed from earlier ticks. -/
structure Clock where
  /-- Instructions per second. -/
  cpu : Nat
  /-- Ticks per second. -/
  timer : Nat
  /-- What is owed, in instructions divided by the tick rate. -/
  remainder : Nat
deriving DecidableEq

namespace Clock

/-- A clock that owes nothing. -/
def new (cpu timer : Nat) : Clock :=
  ⟨cpu, timer, 0⟩

/-- The number of instructions of the next tick, and the clock after it. -/
def budget (clock : Clock) : Nat × Clock :=
  let owed := clock.remainder + clock.cpu
  (owed / clock.timer, { clock with remainder := owed % clock.timer })

/-- The budgets of the next `count` ticks. -/
def budgets (clock : Clock) : Nat → List Nat
  | 0 => []
  | count + 1 =>
    let (instructions, after) := clock.budget
    instructions :: after.budgets count

/-- What a budget takes and what it leaves make up what was owed. -/
theorem budget_mul_add_remainder (clock : Clock) :
    clock.timer * clock.budget.1 + clock.budget.2.remainder = clock.remainder + clock.cpu := by
  simp [budget, Nat.div_add_mod]

theorem length_budgets (clock : Clock) (count : Nat) : (clock.budgets count).length = count := by
  induction count generalizing clock with
  | zero => rfl
  | succ count ih => simp [budgets, ih]

end Clock
end ChipEight
