import Mathlib
import ChipEight.Machine
import ChipEight.Proofs.Screen

/-!
# A machine without guarantees

The sizes of memory, screen and register file are part of their types, so that an access
to them cannot go wrong.  Here the state is written a second time on plain arrays, which
may have any size, and with numbers that have a width.  An access outside of an array, a
sum that is too wide, a difference below zero and a shift by too much have no result; a
name with a question mark is the definition without it, with these checks.

Every access below is reduced, bounded or added up by itself, and nothing is taken over
from the types of the machine.  A loose machine whose arrays have the right sizes is the
loose form of a machine (`exists_loose_eq`), and on such a form every access has the
result that it has on the machine.
-/

namespace ChipEight

/-! ## Arithmetic with a width -/

namespace Loose

/-- A number that fits into so many bits. -/
def fit? (bits number : Nat) : Option Nat :=
  if number < 2 ^ bits then some number else none

def sum? (bits a b : Nat) : Option Nat :=
  fit? bits (a + b)

def product? (bits a b : Nat) : Option Nat :=
  fit? bits (a * b)

def difference? (a b : Nat) : Option Nat :=
  if b ≤ a then some (a - b) else none

/-- What is shifted out is lost, but the amount must be less than the width. -/
def shiftLeft? (bits a amount : Nat) : Option Nat :=
  if amount < bits then some ((a <<< amount) % 2 ^ bits) else none

def shiftRight? (bits a amount : Nat) : Option Nat :=
  if amount < bits then some (a >>> amount) else none

/-- Replace an entry of an array. -/
def put? {α : Type} (cells : Array α) (place : Nat) (value : α) : Option (Array α) :=
  if hplace : place < cells.size then some (cells.set place value) else none

/-- Replace entries one after the other. -/
def putAll? {α : Type} (cells : Array α) (place : Nat) : List α → Option (Array α)
  | [] => some cells
  | value :: rest => do putAll? (← put? cells place value) (place + 1) rest

/-- Copy a list over a part of an array, which must be inside the array. -/
def copy? {α : Type} (cells : Array α) (place : Nat) (values : List α) : Option (Array α) := do
  let stop ← sum? 64 place values.length
  if stop ≤ cells.size then putAll? cells place values else none

section Arithmetic

variable {bits a b amount : Nat}

theorem sum?_of_lt (hfits : a + b < 2 ^ bits) : sum? bits a b = some (a + b) :=
  if_pos hfits

theorem product?_of_lt (hfits : a * b < 2 ^ bits) : product? bits a b = some (a * b) :=
  if_pos hfits

theorem difference?_of_le (hle : b ≤ a) : difference? a b = some (a - b) :=
  if_pos hle

theorem shiftLeft?_of_lt (hamount : amount < bits) :
    shiftLeft? bits a amount = some ((a <<< amount) % 2 ^ bits) :=
  if_pos hamount

theorem shiftRight?_of_lt (hamount : amount < bits) :
    shiftRight? bits a amount = some (a >>> amount) :=
  if_pos hamount

theorem toNat_ofNat_nibble (nibble : Fin 16) : (UInt8.ofNat nibble.val).toNat = nibble.val := by
  have hnibble := nibble.isLt
  rw [UInt8.toNat_ofNat']
  omega

theorem put?_of_lt {α : Type} {cells : Array α} {place : Nat} (hplace : place < cells.size)
    (value : α) : put? cells place value = some (cells.set place value) :=
  dif_pos hplace

/-- A loop whose steps have results has a result. -/
theorem foldlM_eq_some {α β γ : Type} {step : β → α → Option β} {update : γ → α → γ}
    {view : γ → β} {entries : List α}
    (hstep : ∀ state, ∀ entry ∈ entries,
      step (view state) entry = some (view (update state entry))) (state : γ) :
    entries.foldlM step (view state) = some (view (entries.foldl update state)) := by
  induction entries generalizing state with
  | nil => rfl
  | cons entry rest ih =>
      obtain ⟨hfirst, hrest⟩ := List.forall_mem_cons.mp (hstep state)
      rw [List.foldlM_cons, hfirst]
      exact ih (fun state entry hentry => hstep state entry (List.mem_cons_of_mem _ hentry)) _

theorem mapM_eq_some {α β : Type} {read : α → Option β} {value : α → β} {entries : List α}
    (hread : ∀ entry ∈ entries, read entry = some (value entry)) :
    entries.mapM read = some (entries.map value) := by
  induction entries with
  | nil => rfl
  | cons entry rest ih =>
      obtain ⟨hfirst, hrest⟩ := List.forall_mem_cons.mp hread
      rw [List.mapM_cons, hfirst, ih hrest]
      rfl

end Arithmetic

end Loose

open Loose

/-! ## The state -/

/-- The state of the machine on arrays of any size. -/
structure LooseMachine where
  ram : Array UInt8
  /-- The pixels, one row after the other. -/
  display : Array Bool
  registers : Array UInt8
  keys : UInt16
  index : UInt16
  counter : UInt16
  delay : UInt8
  sound : UInt8
  stack : Array UInt16
deriving DecidableEq

namespace LooseMachine

/-- The arrays have the sizes of the machine. -/
structure Sized (loose : LooseMachine) : Prop where
  ram : loose.ram.size = 4096
  display : loose.display.size = 2048
  registers : loose.registers.size = 16

end LooseMachine

/-- The pixels in one array, row by row. -/
def Screen.display (screen : Screen) : Array Bool :=
  Array.ofFn fun place : Fin 2048 => screen.pixel (place.val % 64) (place.val / 64)

namespace Screen

variable (screen : Screen)

theorem size_display : screen.display.size = 2048 := by
  rw [display, Array.size_ofFn]

/-- Where pixels stand in the array. -/
theorem getElem?_display {x y : Nat} (hx : x < 64) (hy : y < 32) :
    screen.display[x + y * 64]? = some (screen.pixel x y) := by
  have hplace : x + y * 64 < 2048 := by omega
  have hcolumn : (x + y * 64) % 64 = x := by omega
  have hrow : (x + y * 64) / 64 = y := by omega
  simp [display, hplace, hcolumn, hrow]

theorem getElem_display {place : Nat} (hplace : place < screen.display.size) :
    screen.display[place] = screen.pixel (place % 64) (place / 64) := by
  rw [size_display] at hplace
  simp [display]

/-- Toggling a pixel replaces its entry. -/
theorem display_toggle (x y : Nat)
    (hplace : x % 64 + y % 32 * 64 < screen.display.size) :
    (screen.toggle x y).display =
      screen.display.set (x % 64 + y % 32 * 64) (!screen.pixel x y) := by
  apply Array.ext
  · rw [Array.size_set, size_display, size_display]
  · intro place hfirst hsecond
    rw [Array.getElem_set, getElem_display, getElem_display, pixel_toggle]
    rw [size_display] at hfirst
    by_cases hhere : x % 64 + y % 32 * 64 = place
    · have hcolumn : place % 64 = x % 64 := by omega
      have hrow : place / 64 = y % 32 := by omega
      rw [if_pos hhere, hcolumn, hrow, pixel_mod]
      simp
    · have hother : ¬ (place % 64 % 64 = x % 64 ∧ place / 64 % 32 = y % 32) := by omega
      rw [if_neg hhere, decide_eq_false hother, Bool.xor_false]

theorem display_blank : blank.display = Array.replicate 2048 false := by
  apply Array.ext
  · rw [size_display, Array.size_replicate]
  · intro place _ _
    rw [getElem_display, Array.getElem_replicate, blank_eq_ofPixels, pixel_ofPixels]

attribute [irreducible] display

end Screen

/-- The state of the machine on plain arrays. -/
def Machine.loose (machine : Machine) : LooseMachine where
  ram := machine.memory.cells.toArray
  display := machine.screen.display
  registers := machine.registers.toArray
  keys := UInt16.ofBitVec machine.keypad.bits
  index := machine.index
  counter := machine.counter
  delay := machine.delay
  sound := machine.sound
  stack := machine.stack

theorem Machine.display_loose (machine : Machine) :
    machine.loose.display = machine.screen.display := by
  rw [loose]

theorem Machine.sized_loose (machine : Machine) : machine.loose.Sized where
  ram := machine.memory.cells.size_toArray
  display := by rw [display_loose, Screen.size_display]
  registers := machine.registers.size_toArray

namespace LooseMachine

/-- Arrays of the right sizes hold a machine. -/
theorem exists_loose_eq {loose : LooseMachine} (hsized : loose.Sized) :
    ∃ machine : Machine, machine.loose = loose := by
  refine ⟨{
    memory := ⟨⟨loose.ram, hsized.ram⟩⟩
    screen := Screen.ofPixels fun x y => loose.display.getD (x + y * 64) false
    keypad := ⟨loose.keys.toBitVec⟩
    registers := ⟨loose.registers, hsized.registers⟩
    index := loose.index
    counter := loose.counter
    delay := loose.delay
    sound := loose.sound
    stack := loose.stack }, ?_⟩
  have hdisplay : (Screen.ofPixels fun x y => loose.display.getD (x + y * 64) false).display =
      loose.display := by
    apply Array.ext
    · rw [hsized.display, Screen.size_display]
    · intro place _ hplace
      have hsmall : place < 2048 := by rwa [hsized.display] at hplace
      have hsplit : place % 64 + place / 64 % 32 * 64 = place := by omega
      simp [Screen.display, hsplit, hplace]
  rw [Machine.loose, hdisplay]

/-! ## Accesses -/

variable (loose : LooseMachine)

def read? (address : Nat) : Option UInt8 :=
  loose.ram[address &&& 4095]?

def write? (address : Nat) (value : UInt8) : Option LooseMachine := do
  return { loose with ram := ← put? loose.ram (address &&& 4095) value }

def register? (x : Nat) : Option UInt8 :=
  loose.registers[x]?

def setRegister? (x : Nat) (value : UInt8) : Option LooseMachine := do
  return { loose with registers := ← put? loose.registers x value }

def setFlag? (flag : Bool) : Option LooseMachine :=
  loose.setRegister? 15 (if flag then 1 else 0)

def advance : LooseMachine :=
  { loose with counter := loose.counter + 2 }

def skipIf (condition : Bool) : LooseMachine :=
  if condition then loose.advance else loose

/-- The place of a pixel in the array, wrapping around both edges. -/
def pixelPlace? (x y : Nat) : Option Nat := do
  sum? 64 (x &&& 63) (← product? 64 (y &&& 31) 64)

def pixel? (x y : Nat) : Option Bool := do
  loose.display[← pixelPlace? x y]?

/-- The bit of a key. -/
def keyBit? (number : UInt8) : Option UInt16 := do
  return UInt16.ofNat (← shiftLeft? 16 1 number.toNat)

def isDown? (number : UInt8) : Option Bool :=
  if number < 16 then do
    return loose.keys &&& (← keyBit? number) > 0
  else some false

def setKey? (number : UInt8) (pressed : Bool) : Option LooseMachine :=
  if number < 16 then do
    let bit ← keyBit? number
    return { loose with keys := if pressed then loose.keys ||| bit else loose.keys &&& ~~~bit }
  else some loose

/-- The lowest bit that is set. -/
def firstDown : Option UInt8 :=
  if loose.keys > 0 then
    ((List.range 16).find? fun place => loose.keys.toNat.testBit place).map UInt8.ofNat
  else none

end LooseMachine

/-! ## The accesses of a machine -/

namespace Machine

variable (machine : Machine)

theorem mask_eq_mod (address : Nat) : address &&& 4095 = address % 4096 :=
  Nat.and_two_pow_sub_one_eq_mod address 12

@[simp]
theorem read?_loose (address : Nat) :
    machine.loose.read? address = some (machine.memory.read address) := by
  have hplace : address % 4096 < 4096 := Nat.mod_lt _ (by decide)
  rw [LooseMachine.read?, mask_eq_mod]
  simp [loose, Memory.read, hplace]

@[simp]
theorem write?_loose (address : Nat) (value : UInt8) :
    machine.loose.write? address value =
      some { machine with memory := machine.memory.write address value }.loose := by
  have hplace : address % 4096 < machine.loose.ram.size := by
    rw [machine.sized_loose.ram]
    exact Nat.mod_lt _ (by decide)
  rw [LooseMachine.write?, mask_eq_mod, put?_of_lt hplace]
  simp [loose, Memory.write]

@[simp]
theorem register?_loose (x : Register) :
    machine.loose.register? x.val = some (machine.register x) := by
  simp [LooseMachine.register?, loose, register]

@[simp]
theorem setRegister?_loose (x : Register) (value : UInt8) :
    machine.loose.setRegister? x.val value = some (machine.setRegister x value).loose := by
  have hplace : x.val < machine.loose.registers.size := by
    rw [machine.sized_loose.registers]
    exact x.isLt
  rw [LooseMachine.setRegister?, put?_of_lt hplace]
  simp [loose, setRegister]

@[simp]
theorem setFlag?_loose (flag : Bool) :
    machine.loose.setFlag? flag = some (machine.setFlag flag).loose :=
  machine.setRegister?_loose flagRegister _

/-- A register file that is too small is noticed. -/
example (small : LooseMachine) (hsize : small.registers.size = 15) :
    small.setFlag? true = none := by
  simp [LooseMachine.setFlag?, LooseMachine.setRegister?, put?, hsize]

@[simp]
theorem advance_loose : machine.loose.advance = machine.advance.loose := by
  simp only [LooseMachine.advance, advance, loose]

@[simp]
theorem skipIf_loose (condition : Bool) :
    machine.loose.skipIf condition = (machine.skipIf condition).loose := by
  cases condition with
  | false => rfl
  | true => simp only [skipIf, LooseMachine.skipIf, if_true, advance_loose]

/-- Coordinates wrap around both edges, and the place of a pixel is in the array. -/
theorem pixelPlace?_eq_some (x y : Nat) :
    LooseMachine.pixelPlace? x y = some (x % 64 + y % 32 * 64) := by
  have hx : x &&& 63 = x % 64 := Nat.and_two_pow_sub_one_eq_mod x 6
  have hy : y &&& 31 = y % 32 := Nat.and_two_pow_sub_one_eq_mod y 5
  have hproduct : y % 32 * 64 < 2 ^ 64 := by omega
  have hsum : x % 64 + y % 32 * 64 < 2 ^ 64 := by omega
  rw [LooseMachine.pixelPlace?, hx, hy, product?_of_lt hproduct, Option.bind_eq_bind,
    Option.bind_some, sum?_of_lt hsum]

@[simp]
theorem pixel?_loose (x y : Nat) :
    machine.loose.pixel? x y = some (machine.screen.pixel x y) := by
  have hx : x % 64 < 64 := Nat.mod_lt _ (by decide)
  have hy : y % 32 < 32 := Nat.mod_lt _ (by decide)
  rw [LooseMachine.pixel?, pixelPlace?_eq_some, Option.bind_eq_bind, Option.bind_some,
    display_loose, Screen.getElem?_display _ hx hy, Screen.pixel_mod]

end Machine

/-! ## Keys -/

theorem LooseMachine.keyBit?_eq_some {number : UInt8} (hnumber : number < 16) :
    keyBit? number = some (UInt16.ofBitVec (1#16 <<< number.toNat)) := by
  have hamount : number.toNat < 16 := UInt8.lt_iff_toNat_lt.mp hnumber
  rw [keyBit?, shiftLeft?_of_lt hamount]
  simp only [Option.pure_def, Option.bind_eq_bind, Option.bind_some, Option.some.injEq]
  apply UInt16.toNat_inj.mp
  simp

namespace Machine

variable (machine : Machine)

@[simp]
theorem isDown?_loose (number : UInt8) :
    machine.loose.isDown? number = some (machine.keypad.isDown number.toNat) := by
  by_cases hnumber : number < 16
  · have hamount : number.toNat < 16 := UInt8.lt_iff_toNat_lt.mp hnumber
    rw [LooseMachine.isDown?, if_pos hnumber, LooseMachine.keyBit?_eq_some hnumber]
    simp only [Option.pure_def, Option.bind_eq_bind, Option.bind_some, Option.some.injEq,
      Keypad.isDown]
    have hkeys : machine.loose.keys &&& UInt16.ofBitVec (1#16 <<< number.toNat) =
        UInt16.ofBitVec (machine.keypad.bits &&& BitVec.twoPow 16 number.toNat) := by
      rfl
    rw [hkeys, BitVec.and_twoPow]
    cases machine.keypad.bits.getLsbD number.toNat with
    | true =>
        have hpower : 2 ^ number.toNat % 65536 = 2 ^ number.toNat :=
          Nat.mod_eq_of_lt (Nat.pow_lt_pow_right (by decide) hamount)
        simp [UInt16.lt_iff_toNat_lt, hpower]
    | false => rfl
  · have hlarge : 16 ≤ number.toNat := by
      simpa [UInt8.lt_iff_toNat_lt] using hnumber
    rw [LooseMachine.isDown?, if_neg hnumber, Keypad.isDown_of_le hlarge]

@[simp]
theorem setKey?_loose (number : UInt8) (pressed : Bool) :
    machine.loose.setKey? number pressed = some (machine.setKey number.toNat pressed).loose := by
  by_cases hnumber : number < 16
  · have hamount : number.toNat < 16 := UInt8.lt_iff_toNat_lt.mp hnumber
    rw [LooseMachine.setKey?, if_pos hnumber, LooseMachine.keyBit?_eq_some hnumber]
    cases pressed with
    | true => simp [setKey, Keypad.set, hamount, loose]
    | false => simp [setKey, Keypad.set, hamount, loose]
  · have hlarge : ¬ number.toNat < 16 := by
      simpa [UInt8.lt_iff_toNat_lt] using hnumber
    rw [LooseMachine.setKey?, if_neg hnumber]
    simp [setKey, Keypad.set, hlarge]

theorem keys_pos_iff : machine.loose.keys > 0 ↔ machine.keypad.anyDown = true := by
  have hkeys : machine.loose.keys = 0 ↔ machine.keypad.bits = 0 :=
    ⟨congrArg UInt16.toBitVec, congrArg UInt16.ofBitVec⟩
  rw [gt_iff_lt, UInt16.pos_iff_ne_zero, Keypad.anyDown, bne_iff_ne, ne_eq, ne_eq, hkeys]

@[simp]
theorem firstDown_loose :
    machine.loose.firstDown = machine.keypad.first?.map fun key => UInt8.ofNat key.val := by
  have hfirst : (List.range 16).find? (fun place => machine.loose.keys.toNat.testBit place) =
      machine.keypad.first?.map (·.val) := by
    rw [Keypad.first?, ← List.map_coe_finRange_eq_range, List.find?_map]
    rfl
  rw [LooseMachine.firstDown, hfirst]
  by_cases hdown : machine.loose.keys > 0
  · rw [if_pos hdown, Option.map_map]
    rfl
  · have hbits : machine.keypad.bits = 0 := by
      simpa [keys_pos_iff, Keypad.anyDown] using hdown
    have hnone : machine.keypad.first? = none := by
      rw [Keypad.first?, List.find?_eq_none]
      intro key _
      simp [Keypad.isDown, hbits]
    rw [if_neg hdown, hnone, Option.map_none]

end Machine
end ChipEight
