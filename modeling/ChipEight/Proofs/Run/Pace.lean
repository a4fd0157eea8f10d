import Mathlib
import ChipEight.Proofs.Run.Checked

/-!
# The pace of a clock

A clock gives out whole instructions at a rate that need not be whole.  What it has given
out after some ticks is the exact number rounded down, so it does not drift; and any
consecutive ticks come with the exact number for that many ticks, rounded down or one
more, so it does not burst (`keepsPace`).  Over the duration of a run the ticks are
rounded down first and the instructions after them.  Both roundings together lose less
than the instructions of one tick and one more.

The budgets are also drawn with checked arithmetic, of which none fails however many
ticks there are, as long as the sum of both rates is within bounds.
-/

namespace ChipEight
namespace Clock

/-- The budgets of the next ticks, with checked arithmetic, and the clock after them. -/
def budgets? (clock : Clock) : Nat → Option (List Nat × Clock)
  | 0 => some ([], clock)
  | count + 1 => do
    let (instructions, next) ← clock.budget?
    let (rest, last) ← next.budgets? count
    return (instructions :: rest, last)

variable (cpu timer start ticks : Nat)

/-! ## Consecutive budgets -/

theorem budgets_afterTicks_succ :
    (afterTicks cpu timer start).budgets (ticks + 1) =
      (afterTicks cpu timer start).budget.1 :: (afterTicks cpu timer (start + 1)).budgets ticks := by
  rw [budgets, ← budget_afterTicks]

/-- The budgets of some ticks make up what becomes due in them. -/
theorem due_add_sum_budgets :
    due cpu timer start + ((afterTicks cpu timer start).budgets ticks).sum =
      due cpu timer (start + ticks) := by
  induction ticks generalizing start with
  | zero => simp [budgets]
  | succ ticks ih =>
      rw [budgets_afterTicks_succ, List.sum_cons, ← Nat.add_assoc, due_add_budget, ih,
        Nat.add_assoc, Nat.add_comm 1]

/-- Later budgets are those of a clock that begins later. -/
theorem drop_budgets (skipped : Nat) :
    ((afterTicks cpu timer start).budgets (skipped + ticks)).drop skipped =
      (afterTicks cpu timer (start + skipped)).budgets ticks := by
  induction skipped generalizing start with
  | zero => simp
  | succ skipped ih =>
      rw [Nat.add_right_comm, budgets_afterTicks_succ, List.drop_succ_cons, ih, Nat.add_assoc,
        Nat.add_comm 1]

variable {cpu timer}

/-- However many ticks there are, no sum of a remainder and the rate overflows. -/
theorem budgets?_afterTicks (htimer : 0 < timer) (hfits : cpu + timer < wordBound) :
    (afterTicks cpu timer start).budgets? ticks =
      some ((afterTicks cpu timer start).budgets ticks, afterTicks cpu timer (start + ticks)) := by
  induction ticks generalizing start with
  | zero => rfl
  | succ ticks ih =>
      have howed : (afterTicks cpu timer start).remainder < timer :=
        remainder_afterTicks_lt cpu start htimer
      have hbudget : (afterTicks cpu timer start).budget? =
          some (afterTicks cpu timer start).budget :=
        budget?_eq_some htimer (by change (afterTicks cpu timer start).remainder + cpu < _; omega)
      rw [budgets?, hbudget, budgets_afterTicks_succ]
      simp only [Option.bind_eq_bind, Option.bind_some, budget_afterTicks, ih]
      rw [Nat.add_assoc, Nat.add_comm 1]
      rfl

/-! ## Rounding -/

/-- What becomes due in some ticks is what is due after that many, or one more. -/
theorem due_add (htimer : 0 < timer) :
    due cpu timer (start + ticks) = due cpu timer start + due cpu timer ticks ∨
      due cpu timer (start + ticks) = due cpu timer start + (due cpu timer ticks + 1) := by
  rw [due, Nat.add_mul, Nat.add_div htimer]
  split
  · right
    rfl
  · left
    rfl

/-- The ticks of a duration do not come with more instructions than the duration. -/
theorem due_le_of_duration (durationMs : Nat) (htimer : 0 < timer) :
    due cpu timer (durationMs * timer / 1000) ≤ durationMs * cpu / 1000 := by
  rw [Nat.le_div_iff_mul_le (by decide)]
  apply Nat.le_of_mul_le_mul_right _ htimer
  calc
    due cpu timer (durationMs * timer / 1000) * 1000 * timer =
        due cpu timer (durationMs * timer / 1000) * timer * 1000 := Nat.mul_right_comm _ _ _
    _ ≤ durationMs * timer / 1000 * cpu * 1000 :=
      Nat.mul_le_mul_right _ (Nat.div_mul_le_self _ _)
    _ = durationMs * timer / 1000 * 1000 * cpu := Nat.mul_right_comm _ _ _
    _ ≤ durationMs * timer * cpu := Nat.mul_le_mul_right _ (Nat.div_mul_le_self _ _)
    _ = durationMs * cpu * timer := Nat.mul_right_comm _ _ _

/-- Rounding the ticks down loses less than one tick, and rounding the instructions down
less than one instruction. -/
theorem duration_sub_due_lt (durationMs : Nat) (htimer : 0 < timer) :
    (durationMs * cpu : ℚ) / 1000 - due cpu timer (durationMs * timer / 1000) <
      (cpu : ℚ) / timer + 1 := by
  have hpos : (0 : ℚ) < timer := by exact_mod_cast htimer
  have hticks : (durationMs * timer : ℚ) / 1000 ≤ (durationMs * timer / 1000 : ℕ) + 1 := by
    rw [div_le_iff₀ (by norm_num)]
    exact_mod_cast (by omega :
      durationMs * timer ≤ (durationMs * timer / 1000 + 1) * 1000)
  have hdue : ((durationMs * timer / 1000 : ℕ) * cpu : ℚ) / timer <
      due cpu timer (durationMs * timer / 1000) + 1 := by
    have hquotient : durationMs * timer / 1000 * cpu <
        (due cpu timer (durationMs * timer / 1000) + 1) * timer := by
      rw [Nat.mul_comm (_ + 1)]
      exact Nat.lt_mul_div_succ _ htimer
    rw [div_lt_iff₀ hpos]
    exact_mod_cast hquotient
  calc
    (durationMs * cpu : ℚ) / 1000 - due cpu timer (durationMs * timer / 1000) =
        (durationMs * timer : ℚ) / 1000 * (cpu / timer) -
          due cpu timer (durationMs * timer / 1000) := by
      field_simp
    _ ≤ ((durationMs * timer / 1000 : ℕ) + 1) * (cpu / timer) -
          due cpu timer (durationMs * timer / 1000) := by
      gcongr
    _ = (durationMs * timer / 1000 : ℕ) * cpu / timer -
          due cpu timer (durationMs * timer / 1000) + cpu / timer := by
      ring
    _ < (cpu : ℚ) / timer + 1 := by
      linarith

/-! ## The pace -/

/-- How a new clock with the given rates gives out instructions. -/
structure KeepsPace (cpu timer : Nat) : Prop where
  /-- The budgets from the first tick on are drawn without an overflow.  Together they are
  the exact number of instructions rounded down, and the clock owes the rest. -/
  fromStart : ∀ ticks,
    (new cpu timer).budgets? ticks =
        some ((new cpu timer).budgets ticks, ⟨cpu, timer, ticks * cpu % timer⟩) ∧
      ((new cpu timer).budgets ticks).sum = ticks * cpu / timer
  /-- So are the budgets of any ticks that follow each other, except that the fraction
  from earlier ticks may complete one more instruction. -/
  anywhere : ∀ start ticks,
    (((new cpu timer).budgets (start + ticks)).drop start).sum = ticks * cpu / timer ∨
      (((new cpu timer).budgets (start + ticks)).drop start).sum = ticks * cpu / timer + 1
  notAbove : ∀ config : RunConfig, config.cpuFrequency = cpu → config.timerFrequency = timer →
    ((new cpu timer).budgets config.tickCount).sum ≤ config.durationMs * cpu / 1000
  notFarBelow : ∀ config : RunConfig,
    config.cpuFrequency = cpu → config.timerFrequency = timer →
      (config.durationMs * cpu : ℚ) / 1000 - ((new cpu timer).budgets config.tickCount).sum <
        (cpu : ℚ) / timer + 1

theorem sum_budgets_new : ((new cpu timer).budgets ticks).sum = due cpu timer ticks := by
  have hsum := due_add_sum_budgets cpu timer 0 ticks
  rwa [due_zero, Nat.zero_add, Nat.zero_add, ← new_eq_afterTicks] at hsum

/-- Clocks with accepted rates neither drift nor burst, over any number of ticks. -/
theorem keepsPace (htimer : 0 < timer) (hfits : cpu + timer < wordBound) :
    KeepsPace cpu timer where
  fromStart := by
    intro ticks
    refine ⟨?_, sum_budgets_new ticks⟩
    have hbudgets := budgets?_afterTicks 0 ticks htimer hfits
    rwa [← new_eq_afterTicks, Nat.zero_add] at hbudgets
  anywhere := by
    intro start ticks
    have hsum := due_add_sum_budgets cpu timer start ticks
    rw [new_eq_afterTicks, drop_budgets, Nat.zero_add]
    rcases due_add start ticks htimer with hdue | hdue
    · left
      exact Nat.add_left_cancel (hsum.trans hdue)
    · right
      exact Nat.add_left_cancel (hsum.trans hdue)
  notAbove := by
    rintro config rfl rfl
    rw [sum_budgets_new]
    exact due_le_of_duration config.durationMs htimer
  notFarBelow := by
    rintro config rfl rfl
    rw [sum_budgets_new]
    exact duration_sub_due_lt config.durationMs htimer

/-- Rates whose sum is the greatest that is accepted.  Every tick leaves a seventh of an
instruction, and the seventh tick has one instruction more than the others. -/
theorem keepsPace_nearBound :
    let cpu := wordBound - 8
    0 < 7 ∧ cpu + 7 < wordBound ∧
      (new cpu 7).budgets? 7 = some ((new cpu 7).budgets 7, new cpu 7) ∧
      ((new cpu 7).budgets 7).sum = cpu ∧
      (((new cpu 7).budgets 7).drop 6).sum = 1 * cpu / 7 + 1 := by
  intro cpu
  have htimer : 0 < 7 := by decide
  have hfits : cpu + 7 < wordBound := by decide
  have hpace := keepsPace htimer hfits
  obtain ⟨hbudgets, hsum⟩ := hpace.fromStart 7
  rw [Nat.mul_mod_right] at hbudgets
  rw [Nat.mul_div_cancel_left _ htimer] at hsum
  refine ⟨htimer, hfits, hbudgets, hsum, ?_⟩
  rcases hpace.anywhere 6 1 with hfloor | hmore
  · have hdiffers : (((new cpu 7).budgets (6 + 1)).drop 6).sum ≠ 1 * cpu / 7 := by
      decide +kernel
    exact absurd hfloor hdiffers
  · exact hmore

end Clock
end ChipEight
