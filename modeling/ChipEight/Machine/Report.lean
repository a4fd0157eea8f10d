import ChipEight.Machine
import ChipEight.Text.Numeral

/-!
# Machine reports

Texts that show the machine: program memory as words with their addresses, the
registers on two lines, the picture with one character for each pixel, and the
keys that are down.
-/

namespace ChipEight

/-- Every second entry, from the first one on. -/
def everySecond {α : Type} : List α → List α
  | [] => []
  | [first] => [first]
  | first :: _ :: rest => first :: everySecond rest

theorem getElem?_everySecond {α : Type} (entries : List α) (place : Nat) :
    (everySecond entries)[place]? = entries[2 * place]? := by
  fun_induction everySecond entries generalizing place with
  | case1 => simp
  | case2 first =>
      cases place with
      | zero => rfl
      | succ place => simp [Nat.mul_succ]
  | case3 first second rest ih =>
      cases place with
      | zero => rfl
      | succ place => simp [Nat.mul_succ, ih]

theorem length_everySecond {α : Type} (entries : List α) :
    (everySecond entries).length = (entries.length + 1) / 2 := by
  fun_induction everySecond entries with
  | case1 => simp
  | case2 => simp
  | case3 first second rest ih => simp [ih]; omega

theorem mem_of_mem_everySecond {α : Type} {entries : List α} {entry : α}
    (hentry : entry ∈ everySecond entries) : entry ∈ entries := by
  obtain ⟨place, hplace⟩ := List.mem_iff_getElem?.mp hentry
  rw [getElem?_everySecond] at hplace
  exact List.mem_of_getElem? hplace

namespace Machine

/-- Program memory up to a count of bytes: every second byte, with its address. -/
def reportedBytes (machine : Machine) (count : Nat) : List (UInt8 × Nat) :=
  everySecond ((machine.memory.toList.zipIdx.drop programStart).take count)

/-- One line of the memory report: an address, the byte there, and the byte
behind it. -/
def memoryLine (machine : Machine) (byte : UInt8) (address : Nat) : String :=
  Numeral.hex 4 address ++ ": " ++ Numeral.hex 2 byte.toNat
    ++ Numeral.hex 2 (machine.memory.read (address + 1)).toNat ++ "\n"

/-- The words that begin in the first `count` bytes of program memory. -/
def memoryReport (machine : Machine) (count : Nat) : String :=
  String.join ((machine.reportedBytes count).map fun (byte, address) =>
    machine.memoryLine byte address)

/-- A general register and its value, followed by a blank. -/
def registerEntry (machine : Machine) (register : Register) : String :=
  "V" ++ Numeral.hex 1 register.val ++ "="
    ++ Numeral.hex 2 (machine.register register).toNat ++ " "

/-- The general registers on one line; the other registers and the depth of the
stack on a second one. -/
def registerReport (machine : Machine) : String :=
  String.join ((List.finRange 16).map machine.registerEntry) ++ "\n"
    ++ "PC=" ++ Numeral.hex 4 machine.counter.toNat
    ++ " I=" ++ Numeral.hex 4 machine.index.toNat
    ++ " DT=" ++ Numeral.hex 2 machine.delay.toNat
    ++ " ST=" ++ Numeral.hex 2 machine.sound.toNat
    ++ " SP=" ++ Numeral.decimal machine.stack.size ++ "\n"

/-- The character of a pixel. -/
def pixelChar (on : Bool) : Char :=
  if on then '#' else '.'

/-- The characters of one row of the picture. -/
def screenLine (machine : Machine) (y : Nat) : String :=
  String.ofList ((List.range 64).map fun x => pixelChar (machine.screen.pixel x y))

/-- The picture, one line for each row. -/
def screenReport (machine : Machine) : String :=
  String.join ((List.range 32).map fun y => machine.screenLine y ++ "\n")

/-- The keys that are down, or nothing if there are none. -/
def keyReport (machine : Machine) : String :=
  if machine.keypad.anyDown then
    "keys: " ++ String.join (machine.keypad.down.map Key.text)
  else ""

end Machine
end ChipEight
