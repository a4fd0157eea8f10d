import Mathlib
import ChipEight.Machine.Report
import ChipEight.Proofs.Keypad

/-!
# Held keys

Pressing and releasing, in any order and also of numbers that name no key, leaves those
keys down whose last event was a press, where all keys are forgotten when all are released
together.  This set of keys is said here with the list of events and not with the bits of
the keypad (`KeyAction.held`), and everything that can be asked about the keys is answered
by it (`showsKeys`).

One event decides about the keys it touches and about no others (`mem_held_concat`,
`isDown_actOn`), and the events of a list follow by induction on its end.
-/

namespace ChipEight

/-- What happens to the keys of a machine. -/
inductive KeyAction where
  /-- Press or release the key with a number, if there is one. -/
  | set (number : UInt8) (pressed : Bool)
  | releaseAll
deriving DecidableEq

namespace KeyAction

/-- Whether an event decides if a key is down. -/
def touches (key : Key) : KeyAction → Bool
  | .set number _ => number.toNat == key.val
  | .releaseAll => true

/-- Whether an event is a press, of whichever key. -/
def presses : KeyAction → Bool
  | .set _ pressed => pressed
  | .releaseAll => false

/-- The keys that were pressed, and that nothing has touched since. -/
def held (actions : List KeyAction) : Set Key :=
  {key | ∃ earlier number later, actions = earlier ++ .set number true :: later ∧
    number.toNat = key.val ∧ ∀ action ∈ later, action.touches key = false}

variable {key : Key}

@[simp]
theorem not_mem_held_nil : key ∉ held [] := by
  rintro ⟨earlier, number, later, hactions, -, -⟩
  simp at hactions

/-- A key that the last event touches is held if this was a press, and any other key if it
was held before. -/
theorem mem_held_concat (actions : List KeyAction) (action : KeyAction) :
    key ∈ held (actions ++ [action]) ↔
      if action.touches key then action.presses = true else key ∈ held actions := by
  constructor
  · rintro ⟨earlier, number, later, hactions, hnumber, hlater⟩
    -- The press is the last event, or the last event is behind it.
    rcases List.eq_nil_or_concat' later with rfl | ⟨between, last, rfl⟩
    · obtain ⟨-, rfl⟩ := List.append_singleton_inj.mp hactions
      simp [touches, hnumber, presses]
    · rw [← List.cons_append, ← List.append_assoc] at hactions
      obtain ⟨rfl, rfl⟩ := List.append_singleton_inj.mp hactions
      have hlast : action.touches key = false := hlater action (by simp)
      rw [hlast]
      exact ⟨earlier, number, between, rfl, hnumber,
        fun other hother => hlater other (List.mem_append_left _ hother)⟩
  · cases htouches : action.touches key with
    | true =>
        intro hpresses
        cases action with
        | set number pressed =>
            have hpressed : pressed = true := hpresses
            subst hpressed
            exact ⟨actions, number, [], rfl, beq_iff_eq.mp htouches, by simp⟩
        | releaseAll => cases hpresses
    | false =>
        rintro ⟨earlier, number, later, rfl, hnumber, hlater⟩
        refine ⟨earlier, number, later ++ [action], by simp, hnumber, ?_⟩
        intro other hother
        rcases List.mem_append.mp hother with hmem | hmem
        · exact hlater other hmem
        · rw [List.mem_singleton.mp hmem, htouches]

end KeyAction

/-! ## Machines -/

namespace Machine

/-- Let something happen to the keys. -/
def actOn (machine : Machine) : KeyAction → Machine
  | .set number pressed => machine.setKey number.toNat pressed
  | .releaseAll => machine.releaseKeys

theorem isDown_actOn (machine : Machine) (action : KeyAction) (key : Key) :
    (machine.actOn action).keypad.isDown key.val =
      if action.touches key then action.presses else machine.keypad.isDown key.val := by
  cases action with
  | set number pressed =>
      have hkey := key.isLt
      simp only [actOn, setKey, Keypad.isDown_set, KeyAction.touches, KeyAction.presses,
        beq_iff_eq]
      exact if_congr (by omega) rfl rfl
  | releaseAll => exact Keypad.isDown_released key.val

/-- After any events on a machine that has just been switched on, the held keys are down. -/
theorem isDown_foldl_actOn (actions : List KeyAction) (key : Key) :
    (actions.foldl actOn initial).keypad.isDown key.val = true ↔
      key ∈ KeyAction.held actions := by
  induction actions using List.reverseRecOn with
  | nil => simp [initial]
  | append_singleton actions action ih =>
      rw [List.foldl_append, List.foldl_cons, List.foldl_nil, isDown_actOn,
        KeyAction.mem_held_concat]
      split
      next => rfl
      next => exact ih

end Machine

/-! ## Answers -/

theorem Keypad.mem_down_iff {keypad : Keypad} {key : Key} :
    key ∈ keypad.down ↔ keypad.isDown key.val = true := by
  simp [down]

theorem Keypad.pairwise_down (keypad : Keypad) : keypad.down.Pairwise (· < ·) :=
  (List.sortedLT_finRange 16).pairwise.filter _

/-- A key in text is `k` and its digit in base sixteen. -/
theorem Key.text_eq (key : Key) : key.text = "k" ++ Numeral.smallHex 1 key.val := by
  revert key
  decide +kernel

/-- Everything that can be asked about the keys of a machine is answered by a set of
keys. -/
structure ShowsKeys (machine : Machine) (keys : Set Key) : Prop where
  /-- A number that names no key is not down. -/
  down : ∀ number : UInt8,
    machine.keypad.isDown number.toNat = true ↔ ∃ key ∈ keys, key.val = number.toNat
  any : machine.keypad.anyDown = true ↔ keys.Nonempty
  first : ∀ key, machine.keypad.first? = some key ↔ IsLeast keys key
  noFirst : machine.keypad.first? = none ↔ keys = ∅
  noReport : keys = ∅ → machine.keyReport = ""
  report : keys.Nonempty → ∃ ascending : List Key, ascending.Pairwise (· < ·) ∧
    (∀ key, key ∈ ascending ↔ key ∈ keys) ∧
    machine.keyReport =
      "keys: " ++ String.join (ascending.map fun key => "k" ++ Numeral.smallHex 1 key.val)

namespace Machine

/-- It is enough to know which of the sixteen keys are down. -/
theorem showsKeys_of_isDown {machine : Machine} {keys : Set Key}
    (hkeys : ∀ key : Key, machine.keypad.isDown key.val = true ↔ key ∈ keys) :
    ShowsKeys machine keys := by
  have hset : {key : Key | machine.keypad.isDown key.val = true} = keys := Set.ext hkeys
  have hany : machine.keypad.anyDown = true ↔ keys.Nonempty := by
    rw [Keypad.anyDown_eq_true_iff, ← hset]
    rfl
  constructor
  case down =>
    intro number
    constructor
    · intro hdown
      have hnumber : number.toNat < 16 := by
        by_contra hlarge
        rw [Keypad.isDown_of_le (Nat.le_of_not_lt hlarge)] at hdown
        cases hdown
      exact ⟨⟨number.toNat, hnumber⟩, (hkeys _).mp hdown, rfl⟩
    · rintro ⟨key, hkey, hnumber⟩
      rw [← hnumber]
      exact (hkeys key).mpr hkey
  case any => exact hany
  case first =>
    intro key
    rw [Keypad.first?_eq_some_iff, hset]
  case noFirst =>
    rw [Keypad.first?_eq_none_iff, Set.eq_empty_iff_forall_notMem]
    exact forall_congr' fun key => by rw [← hkeys key, Bool.not_eq_true]
  case noReport =>
    intro hnone
    rw [keyReport, if_neg]
    rw [hany, hnone]
    exact Set.not_nonempty_empty
  case report =>
    intro hsome
    refine ⟨machine.keypad.down, machine.keypad.pairwise_down,
      fun key => Keypad.mem_down_iff.trans (hkeys key), ?_⟩
    rw [keyReport, if_pos (hany.mpr hsome), List.map_congr_left fun key _ => key.text_eq]

/-- Pressing, releasing and releasing all, in any order on a machine that has just been
switched on, shows the held keys. -/
theorem showsKeys (actions : List KeyAction) :
    ShowsKeys (actions.foldl actOn initial) (KeyAction.held actions) :=
  showsKeys_of_isDown (isDown_foldl_actOn actions)

/-- A key that is pressed again, one that was pressed before all were released, a number
that names no key, and the last key. -/
example : ([.set 5 true, .releaseAll, .set 12 true, .set 3 true, .set 3 false, .set 16 true,
    .set 3 true, .set 15 true].foldl actOn initial).keyReport = "keys: k3kckf" := by
  decide +kernel

end Machine
end ChipEight
