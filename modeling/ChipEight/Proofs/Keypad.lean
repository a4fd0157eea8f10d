import Mathlib
import ChipEight.Keypad

/-!
# The keypad as a set of keys

A keypad is determined by which of the sixteen keys are down, and the lowest key that
is down is the least one of this set.
-/

namespace ChipEight
namespace Keypad

variable {keypad other : Keypad} {key : Key}

theorem eq_of_isDown_eq (hsame : ∀ key : Key, keypad.isDown key.val = other.isDown key.val) :
    keypad = other := by
  have hbits : keypad.bits = other.bits :=
    BitVec.eq_of_getLsbD_eq fun number hnumber => hsame ⟨number, hnumber⟩
  cases keypad
  cases other
  exact congrArg mk hbits

theorem eq_released_of_isDown (hnone : ∀ key : Key, keypad.isDown key.val = false) :
    keypad = released :=
  eq_of_isDown_eq fun key => (hnone key).trans (isDown_released key.val).symm

/-- Releasing a key has no effect when no key is down. -/
theorem set_released (number : Nat) : released.set number false = released :=
  eq_released_of_isDown fun key => by
    rw [isDown_set, isDown_released, ite_self]

theorem anyDown_eq_true_iff :
    keypad.anyDown = true ↔ ∃ key : Key, keypad.isDown key.val = true := by
  constructor
  · intro hany
    by_contra hnone
    push Not at hnone
    have hreleased := eq_released_of_isDown fun key => Bool.eq_false_of_not_eq_true (hnone key)
    rw [hreleased] at hany
    cases hany
  · rintro ⟨key, hdown⟩
    rw [anyDown, bne_iff_ne]
    intro hbits
    rw [isDown, hbits] at hdown
    simp at hdown

/-- The lowest key that is down is the least element of the set of keys that are down. -/
theorem first?_eq_some_iff :
    keypad.first? = some key ↔ IsLeast {key : Key | keypad.isDown key.val = true} key := by
  have hplace (place : Nat) (hplace : place < (List.finRange 16).length) :
      ((List.finRange 16)[place]).val = place := by
    rw [List.getElem_finRange]
    rfl
  rw [first?, List.find?_eq_some_iff_getElem]
  constructor
  · rintro ⟨hdown, place, hlength, hkey, hbelow⟩
    refine ⟨hdown, fun other hother => ?_⟩
    by_contra hless
    have hearlier : other.val < place := by
      rw [← hplace place hlength, hkey]
      exact Fin.lt_def.mp (not_le.mp hless)
    have hup := hbelow other.val hearlier
    rw [hplace other.val (by rw [List.length_finRange]; exact other.isLt), hother] at hup
    cases hup
  · rintro ⟨hdown, hleast⟩
    have hlength : key.val < (List.finRange 16).length := by
      rw [List.length_finRange]
      exact key.isLt
    refine ⟨hdown, key.val, hlength, Fin.ext (hplace key.val hlength), fun place hearlier => ?_⟩
    rw [hplace place (hearlier.trans hlength), Bool.not_eq_true']
    by_contra hother
    have hle : key ≤ ⟨place, hearlier.trans key.isLt⟩ :=
      hleast (Bool.eq_true_of_not_eq_false hother)
    exact absurd (Fin.le_def.mp hle) (Nat.not_le.mpr hearlier)

theorem first?_eq_none_iff :
    keypad.first? = none ↔ ∀ key : Key, keypad.isDown key.val = false := by
  rw [first?, List.find?_eq_none]
  simp

end Keypad
end ChipEight
