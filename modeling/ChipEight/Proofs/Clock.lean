import Mathlib
import ChipEight.Clock

/-!
# What is due

Carrying the fraction of an instruction from tick to tick is the same as
rounding the exact number of instructions down once: after `k` ticks the clock
has given out `k * cpu / timer` instructions and owes the remainder of that
division (`due_add_budget`, `afterTicks_budget`).
-/

namespace ChipEight
namespace Clock

/-- Whole instructions due after a number of ticks. -/
def due (cpu timer ticks : Nat) : Nat :=
  ticks * cpu / timer

/-- The clock after a number of ticks. -/
def afterTicks (cpu timer ticks : Nat) : Clock :=
  ⟨cpu, timer, ticks * cpu % timer⟩

theorem new_eq_afterTicks (cpu timer : Nat) : new cpu timer = afterTicks cpu timer 0 := by
  simp [new, afterTicks]

theorem due_zero (cpu timer : Nat) : due cpu timer 0 = 0 := by
  simp [due]

theorem due_mono (cpu timer : Nat) {first second : Nat} (hle : first ≤ second) :
    due cpu timer first ≤ due cpu timer second :=
  Nat.div_le_div_right (Nat.mul_le_mul_right cpu hle)

variable (cpu timer ticks : Nat)

/-- The budget of a tick is what becomes due with it. -/
theorem due_add_budget :
    due cpu timer ticks + (afterTicks cpu timer ticks).budget.1 = due cpu timer (ticks + 1) := by
  rcases Nat.eq_zero_or_pos timer with rfl | htimer
  · simp [due, budget, afterTicks]
  · calc
      ticks * cpu / timer + (ticks * cpu % timer + cpu) / timer =
          (timer * (ticks * cpu / timer) + (ticks * cpu % timer + cpu)) / timer :=
        (Nat.mul_add_div htimer _ _).symm
      _ = (ticks * cpu + cpu) / timer := by
        rw [← Nat.add_assoc, Nat.div_add_mod]
      _ = (ticks + 1) * cpu / timer := by
        rw [Nat.succ_mul]

theorem budget_afterTicks :
    (afterTicks cpu timer ticks).budget.2 = afterTicks cpu timer (ticks + 1) := by
  change (⟨cpu, timer, (ticks * cpu % timer + cpu) % timer⟩ : Clock) =
    ⟨cpu, timer, (ticks + 1) * cpu % timer⟩
  rw [Nat.mod_add_mod, Nat.succ_mul]

end Clock
end ChipEight
