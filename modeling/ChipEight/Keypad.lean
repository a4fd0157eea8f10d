/-!
# Keypad

The pad has the sixteen keys `0` to `F`.  Which of them are down is kept as a
word of sixteen bits, with key `k` at bit `k`.  Numbers from sixteen on name no
key: such a key is never down, and pressing or releasing it does nothing.
-/

namespace ChipEight

/-- One of the sixteen keys. -/
abbrev Key := Fin 16

namespace Key

/-- The key with the given number, if there is one. -/
def ofNat? (number : Nat) : Option Key :=
  if h : number < 16 then some ⟨number, h⟩ else none

/-- The message for a number that names no key. -/
def rangeMessage : String :=
  "keycode must be in range 0 <= keycode < 16"

theorem ofNat?_eq_some_iff (number : Nat) (key : Key) :
    ofNat? number = some key ↔ number = key.val := by
  unfold ofNat?
  split
  · simp [Fin.ext_iff]
  · have := key.isLt
    simp only [reduceCtorEq, false_iff]
    omega

theorem ofNat?_eq_none_iff (number : Nat) : ofNat? number = none ↔ 16 ≤ number := by
  unfold ofNat?
  split
  · simp only [reduceCtorEq, false_iff]
    omega
  · simp only [true_iff]
    omega

/-- The digit on the key, in small letters. -/
def digit (key : Key) : Char :=
  Nat.digitChar key.val

/-- A key in text is written as `k` and its digit. -/
def text (key : Key) : String :=
  String.ofList ['k', key.digit]

/-- The long name of a key, with its digit in capital letters. -/
def longName (key : Key) : String :=
  "Key" ++ String.singleton key.digit.toUpper

end Key

/-- Which keys are down. -/
structure Keypad where
  /-- Bit `k` is set when key `k` is down. -/
  bits : BitVec 16
deriving DecidableEq

namespace Keypad

/-- No key is down. -/
def released : Keypad :=
  ⟨0⟩

/-- Whether the key with the given number is down. -/
def isDown (keypad : Keypad) (number : Nat) : Bool :=
  keypad.bits.getLsbD number

/-- Press or release the key with the given number. -/
def set (keypad : Keypad) (number : Nat) (pressed : Bool) : Keypad :=
  if number < 16 then
    if pressed then ⟨keypad.bits ||| 1#16 <<< number⟩
    else ⟨keypad.bits &&& ~~~(1#16 <<< number)⟩
  else keypad

/-- Whether any key is down. -/
def anyDown (keypad : Keypad) : Bool :=
  keypad.bits != 0

/-- The keys that are down, in ascending order. -/
def down (keypad : Keypad) : List Key :=
  (List.finRange 16).filter fun key => keypad.isDown key.val

/-- The lowest key that is down. -/
def first? (keypad : Keypad) : Option Key :=
  (List.finRange 16).find? fun key => keypad.isDown key.val

/-- Numbers that name no key are never down. -/
theorem isDown_of_le {keypad : Keypad} {number : Nat} (h : 16 ≤ number) :
    keypad.isDown number = false := by
  simp [isDown, BitVec.getLsbD_of_ge _ _ h]

@[simp]
theorem isDown_released (number : Nat) : released.isDown number = false := by
  simp [isDown, released]

/-- Setting a key changes that key only. -/
theorem isDown_set (keypad : Keypad) (number other : Nat) (pressed : Bool) :
    (keypad.set number pressed).isDown other =
      if number = other ∧ number < 16 then pressed else keypad.isDown other := by
  unfold set isDown
  by_cases h : number < 16
  · by_cases e : number = other
    · subst e
      cases pressed <;> simp [h]
    · by_cases o : other < 16
      · cases pressed <;>
          simp [h, e, o] <;> omega
      · cases pressed <;> simp [h, e, BitVec.getLsbD_of_ge _ _ (Nat.le_of_not_lt o)]
  · simp [h]

end Keypad
end ChipEight
