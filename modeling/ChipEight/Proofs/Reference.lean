import Mathlib
import ChipEight.Proofs.Memory
import ChipEight.Proofs.Screen
import ChipEight.Proofs.Step

/-!
# The reference interpreter

The instruction set as it is documented: one case split on the four digits of
the word, with numbers instead of machine words, and every loop written out
over single bytes and single pixels.  Nothing here goes through the instruction
table or through the operations of the machine; what is shared are the state
and the kinds of answers.

`step_eq_reference` says that the interpreter does exactly what is documented,
for every state, limit and random source.  The one exception is a defect of
the table: it finds the rows of `00E0` and `00EE` by the low byte alone, so that
words `0XE0` and `0XEE` clear the screen or return instead of being skipped.
-/

namespace ChipEight

open Register

namespace Reference

/-! ## Numbers in the machine -/

/-- The byte of memory at an address, modulo 4096. -/
def byteAt (machine : Machine) (address : Nat) : UInt8 :=
  machine.memory.cells[address % 4096]!

/-- The word at the program counter, the high byte first. -/
def wordAt (machine : Machine) : Nat :=
  256 * (byteAt machine machine.counter.toNat).toNat
    + (byteAt machine (machine.counter.toNat + 1)).toNat

/-- A digit of a word; the last digit has the place `0`. -/
def digit (word place : Nat) : Fin 16 :=
  Fin.ofNat 16 (word / 16 ^ place)

/-- The number in a general register. -/
def v (machine : Machine) (x : Register) : Nat :=
  machine.registers[x.val]!.toNat

/-- Put a number, modulo 256, into a general register. -/
def put (machine : Machine) (x : Register) (number : Nat) : Machine :=
  { machine with registers := machine.registers.set! x.val (UInt8.ofNat (number % 256)) }

/-- Put a number, modulo 65536, into the program counter. -/
def goTo (machine : Machine) (number : Nat) : Machine :=
  { machine with counter := UInt16.ofNat (number % 65536) }

/-- Put a number, modulo 65536, into the index register. -/
def point (machine : Machine) (number : Nat) : Machine :=
  { machine with index := UInt16.ofNat (number % 65536) }

/-- Put a number, modulo 256, into the byte of memory at an address, modulo
4096. -/
def poke (machine : Machine) (address number : Nat) : Machine :=
  { machine with
    memory := ⟨machine.memory.cells.set! (address % 4096) (UInt8.ofNat (number % 256))⟩ }

/-! ## Loops -/

/-- The registers `V0` to `Vx` to consecutive addresses, the first to
`address`. -/
def pokeRegisters (machine : Machine) (address : Nat) (x : Register) : Machine :=
  (List.range (x.val + 1)).foldl
    (fun machine k => poke machine (address + k) (v machine (Fin.ofNat 16 k))) machine

/-- Consecutive bytes, the first at `address`, to the registers `V0` to `Vx`. -/
def peekRegisters (machine : Machine) (address : Nat) (x : Register) : Machine :=
  (List.range (x.val + 1)).foldl
    (fun machine k => put machine (Fin.ofNat 16 k) (byteAt machine (address + k)).toNat) machine

/-- The pixels below the set bits of a sprite, row by row, each row from its
highest bit on. -/
def targets (machine : Machine) (address x y height : Nat) : List (Nat × Nat) :=
  (List.range height).flatMap fun line =>
    ((List.range 8).filter fun column =>
      (byteAt machine (address + line)).toNat.testBit (7 - column)).map
        fun column => ((x + column) % 64, (y + line) % 32)

/-- Toggle the pixels of a sprite one by one.  `VF` is one if a pixel went off,
and zero otherwise. -/
def blit (machine : Machine) (address x y height : Nat) : Machine :=
  let (screen, erased) := machine.screen.toggleAll (targets machine address x y height)
  put { machine with screen } 15 (if erased then 1 else 0)

/-- The lowest key that is down. -/
def lowestKey? (machine : Machine) : Option Nat :=
  (List.range 16).find? fun key => machine.keypad.bits.getLsbD key

/-! ## Patterns -/

/-- What the word with the digits `a`, `x`, `y` and `n` does once the program
counter has passed it; `random` is what the random source has to offer.  A word
that fits no pattern does nothing. -/
def effect (limit : Option Nat) (random : Nat) (machine : Machine) (a x y n : Fin 16) :
    Except Fault Flow × Machine :=
  let nn := 16 * y.val + n.val
  let nnn := 256 * x.val + nn
  let pc := machine.counter.toNat
  let i := machine.index.toNat
  let vx := v machine x
  let vy := v machine y
  let skip := goTo machine (pc + 2)
  match a, x, y, n with
  | 0x0, 0x0, 0xE, 0x0 => (.ok .draw, { machine with screen := Screen.ofPixels fun _ _ => false })
  | 0x0, 0x0, 0xE, 0xE =>
    match machine.stack.back? with
    | some address => (.ok .jump, { machine with counter := address, stack := machine.stack.pop })
    | none => (.error (.stackUnderflow machine.counter), machine)
  | 0x1, _, _, _ => (.ok .jump, goTo machine nnn)
  | 0x2, _, _, _ =>
    if ∃ most ∈ limit, most ≤ machine.stack.size then
      (.error (.stackOverflow machine.counter), machine)
    else (.ok .jump, goTo { machine with stack := machine.stack.push machine.counter } nnn)
  | 0x3, _, _, _ => (.ok .plain, if vx = nn then skip else machine)
  | 0x4, _, _, _ => (.ok .plain, if vx ≠ nn then skip else machine)
  | 0x5, _, _, _ => (.ok .plain, if vx = vy then skip else machine)
  | 0x6, _, _, _ => (.ok .plain, put machine x nn)
  | 0x7, _, _, _ => (.ok .plain, put machine x (vx + nn))
  | 0x8, _, _, 0x0 => (.ok .plain, put machine x vy)
  | 0x8, _, _, 0x1 => (.ok .plain, put machine x (vx ||| vy))
  | 0x8, _, _, 0x2 => (.ok .plain, put machine x (vx &&& vy))
  | 0x8, _, _, 0x3 => (.ok .plain, put machine x (vx ^^^ vy))
  | 0x8, _, _, 0x4 => (.ok .plain, put (put machine 15 ((vx + vy) / 256)) x (vx + vy))
  | 0x8, _, _, 0x5 =>
    (.ok .plain, put (put machine 15 (if vy ≤ vx then 1 else 0)) x (256 + vx - vy))
  | 0x8, _, _, 0x6 => (.ok .plain, put (put machine 15 (vx % 2)) x (vx / 2))
  | 0x8, _, _, 0x7 =>
    (.ok .plain, put (put machine 15 (if vx ≤ vy then 1 else 0)) x (256 + vy - vx))
  | 0x8, _, _, 0xE => (.ok .plain, put (put machine 15 (vx / 128)) x (2 * vx))
  | 0x9, _, _, _ => (.ok .plain, if vx ≠ vy then skip else machine)
  | 0xA, _, _, _ => (.ok .plain, point machine nnn)
  | 0xB, _, _, _ => (.ok .jump, goTo machine (v machine 0 + nnn))
  | 0xC, _, _, _ => (.ok .plain, put machine x (nn &&& random))
  | 0xD, _, _, _ => (.ok .draw, blit machine i vx vy n.val)
  | 0xE, _, 0x9, 0xE => (.ok .plain, if machine.keypad.bits.getLsbD vx then skip else machine)
  | 0xE, _, 0xA, 0x1 => (.ok .plain, if machine.keypad.bits.getLsbD vx then machine else skip)
  | 0xF, _, 0x0, 0x7 => (.ok .plain, put machine x machine.delay.toNat)
  | 0xF, _, 0x0, 0xA =>
    match lowestKey? machine with
    | some key => (.ok .plain, put machine x key)
    | none => (.ok .keyWait, goTo machine (pc + 65536 - 2))
  | 0xF, _, 0x1, 0x5 => (.ok .plain, { machine with delay := UInt8.ofNat vx })
  | 0xF, _, 0x1, 0x8 => (.ok .sound, { machine with sound := UInt8.ofNat vx })
  | 0xF, _, 0x1, 0xE => (.ok .plain, point machine (i + vx))
  | 0xF, _, 0x2, 0x9 => (.ok .plain, point machine (vx * 5))
  | 0xF, _, 0x3, 0x3 =>
    (.ok .plain, poke (poke (poke machine i (vx / 100)) (i + 1) (vx / 10 % 10)) (i + 2) (vx % 10))
  | 0xF, _, 0x5, 0x5 => (.ok .plain, point (pokeRegisters machine i x) (i + x.val + 1))
  | 0xF, _, 0x6, 0x5 => (.ok .plain, point (peekRegisters machine i x) (i + x.val + 1))
  | _, _, _, _ => (.ok .plain, machine)

variable {σ : Type} [RandomSource σ]

/-- Execute a given word: the program counter passes two bytes, and then the
pattern of the word has its effect.  Only words `CXNN` draw a random number, of
which they use the low byte. -/
def stepWord (interpreter : Interpreter σ) (word : Nat) : Except Fault Flow × Interpreter σ :=
  let (output, later) := RandomSource.next interpreter.source
  let passed := goTo interpreter.machine (interpreter.machine.counter.toNat + 2)
  let (result, machine) := effect interpreter.limit (output.toNat % 256) passed
    (digit word 3) (digit word 2) (digit word 1) (digit word 0)
  (result, {
    machine
    source := if digit word 3 = 0xC then later else interpreter.source
    limit := interpreter.limit })

/-- Execute the word at the program counter. -/
def step (interpreter : Interpreter σ) : Except Fault Flow × Interpreter σ :=
  stepWord interpreter (wordAt interpreter.machine)

/-! ## Numbers and machine words -/

theorem byteAt_eq (machine : Machine) (address : Nat) :
    byteAt machine address = machine.memory.read address := by
  have hbound : address % 4096 < 4096 := Nat.mod_lt _ (by decide)
  rw [byteAt, getElem!_pos machine.memory.cells _ hbound, Memory.read]

theorem v_eq (machine : Machine) (x : Register) : v machine x = (machine.register x).toNat := by
  rw [v, getElem!_pos machine.registers _ x.isLt]
  rfl

theorem put_eq (machine : Machine) (x : Register) (number : Nat) :
    put machine x number = machine.setRegister x (UInt8.ofNat number) := by
  have hwrap : UInt8.ofNat (number % 256) = UInt8.ofNat number := by
    simp [← UInt8.toNat_inj]
  have hset : machine.registers.set! x.val (UInt8.ofNat number) =
      machine.registers.set x (UInt8.ofNat number) := by
    ext k hk
    simp [Vector.getElem_set, Vector.getElem_set!]
  rw [put, hwrap, hset, Machine.setRegister]

theorem put_toNat (machine : Machine) (x : Register) (value : UInt8) :
    put machine x value.toNat = machine.setRegister x value := by
  rw [put_eq, UInt8.ofNat_toNat]

theorem put_flag (machine : Machine) (flag : Bool) :
    put machine 15 flag.toNat = machine.setFlag flag := by
  rw [put_eq]
  cases flag <;> rfl

theorem goTo_eq (machine : Machine) (number : Nat) :
    goTo machine number = { machine with counter := UInt16.ofNat number } := by
  have hwrap : UInt16.ofNat (number % 65536) = UInt16.ofNat number := by
    simp [← UInt16.toNat_inj]
  rw [goTo, hwrap]

theorem goTo_next (machine : Machine) :
    goTo machine (machine.counter.toNat + 2) = machine.advance := by
  rw [goTo_eq, Machine.advance, UInt16.ofNat_add, UInt16.ofNat_toNat]
  rfl

theorem goTo_back (machine : Machine) :
    goTo machine (machine.counter.toNat + 65536 - 2) =
      { machine with counter := machine.counter - 2 } := by
  have hback : UInt16.ofNat (machine.counter.toNat + 65536 - 2) = machine.counter - 2 := by
    have hbound := machine.counter.toNat_lt
    have htwo : (2 : UInt16).toNat = 2 := rfl
    rw [← UInt16.toNat_inj, UInt16.toNat_ofNat', UInt16.toNat_sub, htwo]
    omega
  rw [goTo_eq, hback]

theorem point_eq (machine : Machine) (number : Nat) :
    point machine number = { machine with index := UInt16.ofNat number } := by
  have hwrap : UInt16.ofNat (number % 65536) = UInt16.ofNat number := by
    simp [← UInt16.toNat_inj]
  rw [point, hwrap]

theorem poke_eq (machine : Machine) (address number : Nat) :
    poke machine address number =
      { machine with memory := machine.memory.write address (UInt8.ofNat number) } := by
  have hwrap : UInt8.ofNat (number % 256) = UInt8.ofNat number := by
    simp [← UInt8.toNat_inj]
  have hset : machine.memory.cells.set! (address % 4096) (UInt8.ofNat number) =
      machine.memory.cells.set (address % 4096) (UInt8.ofNat number) := by
    ext k hk
    simp [Vector.getElem_set, Vector.getElem_set!]
  rw [poke, hwrap, hset, Memory.write]

/-- A condition of the machine decides between going on and skipping. -/
theorem skipIf_eq (machine : Machine) {condition : Bool} {documented : Prop}
    [Decidable documented] (hcondition : condition = true ↔ documented) :
    machine.skipIf condition =
      if documented then goTo machine (machine.counter.toNat + 2) else machine := by
  rw [goTo_next, Machine.skipIf]
  exact if_congr hcondition rfl rfl

/-- The flag first and the result second, as numbers. -/
theorem setWithFlag_eq (machine : Machine) (x : Register) {result : UInt8} {flag : Bool}
    {number flagNumber : Nat} (hresult : UInt8.ofNat number = result)
    (hflag : flagNumber = flag.toNat) :
    machine.setWithFlag x result flag = put (put machine 15 flagNumber) x number := by
  rw [hflag, put_flag, put_eq, hresult, Machine.setWithFlag]

theorem carry_eq (a b : UInt8) : (a.toNat + b.toNat) / 256 = (decide (a + b < a)).toNat := by
  have ha := a.toNat_lt
  have hb := b.toNat_lt
  simp only [UInt8.lt_iff_toNat_lt, UInt8.toNat_add]
  by_cases hcarry : (a.toNat + b.toNat) % 2 ^ 8 < a.toNat
  · simp only [hcarry, decide_true, Bool.toNat_true]
    omega
  · simp only [hcarry, decide_false, Bool.toNat_false]
    omega

theorem noBorrow_eq (a b : UInt8) :
    (if a.toNat ≤ b.toNat then 1 else 0) = (decide (a ≤ b)).toNat := by
  simp only [UInt8.le_iff_toNat_le]
  by_cases hle : a.toNat ≤ b.toNat <;> simp [hle]

theorem lowBit_eq (a : UInt8) : a.toNat % 2 = (a % 2 == 1).toNat := by
  have hbit : (a % 2 == 1) = decide (a.toNat % 2 = 1) := by
    rw [Bool.eq_iff_iff, beq_iff_eq, decide_eq_true_eq, ← UInt8.toNat_inj, UInt8.toNat_mod]
    rfl
  rw [hbit]
  rcases Nat.mod_two_eq_zero_or_one a.toNat with h | h <;> simp [h]

theorem highBit_eq (a : UInt8) : a.toNat / 128 = (decide (128 ≤ a)).toNat := by
  have ha := a.toNat_lt
  have hbound : 128 ≤ a ↔ 128 ≤ a.toNat := UInt8.le_iff_toNat_le
  by_cases h : 128 ≤ a.toNat
  · simp only [hbound, h, decide_true, Bool.toNat_true]
    omega
  · simp only [hbound, h, decide_false, Bool.toNat_false]
    omega

theorem ofNat_difference (a b : UInt8) : UInt8.ofNat (256 + a.toNat - b.toNat) = a - b := by
  have hb := b.toNat_lt
  rw [← UInt8.toNat_inj, UInt8.toNat_ofNat', UInt8.toNat_sub]
  omega

theorem ofNat_half (a : UInt8) : UInt8.ofNat (a.toNat / 2) = a >>> 1 := by
  have ha := a.toNat_lt
  rw [← UInt8.toNat_inj, UInt8.toNat_ofNat', UInt8.toNat_shiftRight]
  simp only [UInt8.toNat_one, Nat.one_mod, Nat.shiftRight_eq_div_pow, Nat.pow_one]
  omega

theorem ofNat_double (a : UInt8) : UInt8.ofNat (2 * a.toNat) = a <<< 1 := by
  rw [← UInt8.toNat_inj, UInt8.toNat_ofNat', UInt8.toNat_shiftLeft]
  simp [Nat.shiftLeft_eq, Nat.mul_comm]

theorem decimalDigits_eq (a : UInt8) :
    Machine.decimalDigits a =
      [UInt8.ofNat (a.toNat / 100), UInt8.ofNat (a.toNat / 10 % 10),
        UInt8.ofNat (a.toNat % 10)] := by
  have ha := a.toNat_lt
  have hhundreds : a / 100 % 10 = UInt8.ofNat (a.toNat / 100) := by
    rw [← UInt8.toNat_inj, UInt8.toNat_mod, UInt8.toNat_div, UInt8.toNat_ofNat']
    change a.toNat / 100 % 10 = a.toNat / 100 % 2 ^ 8
    omega
  have htens : a / 10 % 10 = UInt8.ofNat (a.toNat / 10 % 10) := by
    rw [← UInt8.toNat_inj, UInt8.toNat_mod, UInt8.toNat_div, UInt8.toNat_ofNat']
    change a.toNat / 10 % 10 = a.toNat / 10 % 10 % 2 ^ 8
    omega
  have hones : a % 10 = UInt8.ofNat (a.toNat % 10) := by
    rw [← UInt8.toNat_inj, UInt8.toNat_mod, UInt8.toNat_ofNat']
    change a.toNat % 10 = a.toNat % 10 % 2 ^ 8
    omega
  rw [Machine.decimalDigits, hhundreds, htens, hones]

/-! ## Loops and runs of bytes -/

theorem lowestKey?_eq (machine : Machine) :
    lowestKey? machine = machine.keypad.first?.map (·.val) := by
  rw [lowestKey?, Keypad.first?, ← List.map_coe_finRange_eq_range, List.find?_map]
  rfl

/-- The loop over the registers writes the first registers in one run of bytes. -/
theorem foldl_poke (machine : Machine) (address count : Nat) (hcount : count ≤ 16) :
    (List.range count).foldl
        (fun machine k => poke machine (address + k) (v machine (Fin.ofNat 16 k))) machine =
      { machine with
        memory := machine.memory.writeAll address (machine.registers.toList.take count) } := by
  induction count with
  | zero => rfl
  | succ count ih =>
      have hlength : count < machine.registers.toList.length := by
        rw [Vector.length_toList]
        exact hcount
      have hlast : machine.registers.toList.take (count + 1) =
          machine.registers.toList.take count ++ [machine.registers[count]] := by
        rw [List.take_succ_eq_append_getElem hlength, Vector.getElem_toList]
      have hwritten : (machine.registers.toList.take count).length = count :=
        List.length_take_of_le hlength.le
      have hregister : count % 16 = count := Nat.mod_eq_of_lt hcount
      rw [List.range_succ, List.foldl_append, ih (by omega), List.foldl_cons, List.foldl_nil,
        poke_eq, hlast, Memory.writeAll_append]
      simp [v_eq, Machine.register, Memory.writeAll, hregister, hwritten]

/-- The loop over addresses loads the first registers. -/
theorem foldl_put (machine : Machine) (address count : Nat) (hcount : count ≤ 16) :
    (List.range count).foldl
        (fun machine k => put machine (Fin.ofNat 16 k) (byteAt machine (address + k)).toNat)
        machine =
      { machine with
        registers := Vector.ofFn fun register : Register =>
          if register.val < count then machine.memory.read (address + register.val)
          else machine.register register } := by
  induction count with
  | zero =>
      have hsame : machine.registers =
          Vector.ofFn fun register : Register => machine.register register := by
        ext k hk
        simp [Machine.register]
      simp only [List.range_zero, List.foldl_nil, Nat.not_lt_zero, if_false, ← hsame]
  | succ count ih =>
      have hregister : count % 16 = count := Nat.mod_eq_of_lt hcount
      rw [List.range_succ, List.foldl_append, ih (by omega), List.foldl_cons, List.foldl_nil,
        put_toNat, Machine.setRegister]
      congr 1
      ext k hk
      -- Registers that are loaded already, the one that is loaded now, and the others.
      rcases Nat.lt_trichotomy k count with hless | rfl | hmore
      · simp [byteAt_eq, hregister, hless, hless.le, hless.ne']
      · simp [byteAt_eq, hregister]
      · simp [byteAt_eq, hregister, hmore.ne, hmore.not_gt, hmore.not_ge]

theorem pokeRegisters_eq (machine : Machine) (x : Register) :
    point (pokeRegisters machine machine.index.toNat x) (machine.index.toNat + x.val + 1) =
      machine.storeRegisters x := by
  rw [pokeRegisters, foldl_poke _ _ _ x.isLt, point_eq, Nat.add_assoc, UInt16.ofNat_add,
    UInt16.ofNat_toNat]
  rfl

theorem peekRegisters_eq (machine : Machine) (x : Register) :
    point (peekRegisters machine machine.index.toNat x) (machine.index.toNat + x.val + 1) =
      machine.loadRegisters x := by
  rw [peekRegisters, foldl_put _ _ _ x.isLt, point_eq, Nat.add_assoc, UInt16.ofNat_add,
    UInt16.ofNat_toNat, Machine.loadRegisters, Machine.passRegisters]
  simp only [Nat.lt_succ_iff, Fin.le_def]

/-- The row-wise drawing of the machine is the documented pixel by pixel
drawing. -/
theorem blit_eq (machine : Machine) (x y : UInt8) (height : Nat) :
    blit machine machine.index.toNat x.toNat y.toNat height =
      machine.drawSprite x y height := by
  have hbytes : machine.memory.readAll machine.index.toNat height =
      (List.range height).map fun line => byteAt machine (machine.index.toNat + line) := by
    simp only [Memory.readAll, byteAt_eq]
  have htargets : Screen.spritePixels x.toNat y.toNat
      (machine.memory.readAll machine.index.toNat height) =
        targets machine machine.index.toNat x.toNat y.toNat height := by
    rw [hbytes]
    exact Screen.spritePixels_map_range x.toNat y.toNat height _
  rw [blit, Machine.drawSprite, Screen.draw_eq_toggleAll, htargets]
  cases hdrawn : machine.screen.toggleAll
      (targets machine machine.index.toNat x.toNat y.toNat height) with
  | mk screen erased =>
      cases erased with
      | false => exact put_flag { machine with screen } false
      | true => exact put_flag { machine with screen } true

/-- Storing three digits one by one writes them in one run of bytes. -/
theorem poke_digits (machine : Machine) (address : Nat) (value : UInt8) :
    poke (poke (poke machine address (value.toNat / 100)) (address + 1) (value.toNat / 10 % 10))
        (address + 2) (value.toNat % 10) =
      { machine with
        memory := machine.memory.writeAll address (Machine.decimalDigits value) } := by
  rw [poke_eq, poke_eq, poke_eq, decimalDigits_eq]
  rfl

/-- Waiting for a key. -/
theorem readKey_eq (machine : Machine) (x : Register) :
    machine.readKey x =
      match lowestKey? machine with
      | some key => (.ok .plain, put machine x key)
      | none => (.ok .keyWait, goTo machine (machine.counter.toNat + 65536 - 2)) := by
  rw [lowestKey?_eq, Machine.readKey, goTo_back]
  cases machine.keypad.first? with
  | none => rfl
  | some key =>
      simp only [Option.map_some]
      rw [put_eq]

/-! ## Agreement -/

/-- The pattern of a word has the effect that the table gives to the word.  The
hypothesis leaves out the words of group `0` that the table takes for others. -/
theorem effect_eq_respond (word : Word) (limit : Option Nat) (noise : UInt8) (machine : Machine)
    (hplain : word.group = 0 → word.x = 0 ∨ ¬ (word.y = 14 ∧ (word.n = 0 ∨ word.n = 14))) :
    effect limit noise.toNat machine word.group word.x word.y word.n =
      machine.respond limit noise word.decode := by
  rw [Word.decode_eq_meaningOf]
  unfold effect
  simp only [← Word.nn_toNat, ← Word.nnn_val, v_eq]
  -- One case for each pattern, in the order of the documentation, and the words
  -- without a pattern last.
  split
  case h_1 hgroup _ hy hn =>
    rw [hgroup, hy, hn, ← Screen.blank_eq_ofPixels]
    rfl
  case h_2 hgroup _ hy hn =>
    rw [hgroup, hy, hn]
    rfl
  case h_3 hgroup =>
    rw [hgroup, goTo_eq]
    rfl
  case h_4 hgroup =>
    rw [hgroup, goTo_eq]
    refine Eq.symm (if_congr ?_ rfl rfl)
    cases limit <;> simp [Machine.atLimit]
  case h_5 hgroup =>
    rw [hgroup]
    refine congrArg _ (skipIf_eq machine ?_).symm
    rw [beq_iff_eq, UInt8.toNat_inj]
  case h_6 hgroup =>
    rw [hgroup]
    refine congrArg _ (skipIf_eq machine ?_).symm
    rw [bne_iff_ne, ne_eq, ne_eq, UInt8.toNat_inj]
  case h_7 hgroup =>
    rw [hgroup]
    refine congrArg _ (skipIf_eq machine ?_).symm
    rw [beq_iff_eq, UInt8.toNat_inj]
  case h_8 hgroup =>
    rw [hgroup, put_toNat]
    rfl
  case h_9 hgroup =>
    rw [hgroup, put_eq, UInt8.ofNat_add, UInt8.ofNat_toNat, UInt8.ofNat_toNat]
    rfl
  case h_10 hgroup hn =>
    rw [hgroup, hn, put_toNat]
    rfl
  case h_11 hgroup hn =>
    rw [hgroup, hn, ← UInt8.toNat_or, put_toNat]
    rfl
  case h_12 hgroup hn =>
    rw [hgroup, hn, ← UInt8.toNat_and, put_toNat]
    rfl
  case h_13 hgroup hn =>
    rw [hgroup, hn, ← UInt8.toNat_xor, put_toNat]
    rfl
  case h_14 hgroup hn =>
    rw [hgroup, hn]
    refine congrArg _ (setWithFlag_eq machine word.x ?_ (carry_eq _ _)).symm
    rw [UInt8.ofNat_add, UInt8.ofNat_toNat, UInt8.ofNat_toNat]
  case h_15 hgroup hn =>
    rw [hgroup, hn]
    exact congrArg _
      (setWithFlag_eq machine word.x (ofNat_difference _ _) (noBorrow_eq _ _)).symm
  case h_16 hgroup hn =>
    rw [hgroup, hn]
    exact congrArg _ (setWithFlag_eq machine word.x (ofNat_half _) (lowBit_eq _)).symm
  case h_17 hgroup hn =>
    rw [hgroup, hn]
    exact congrArg _
      (setWithFlag_eq machine word.x (ofNat_difference _ _) (noBorrow_eq _ _)).symm
  case h_18 hgroup hn =>
    rw [hgroup, hn]
    exact congrArg _ (setWithFlag_eq machine word.x (ofNat_double _) (highBit_eq _)).symm
  case h_19 hgroup =>
    rw [hgroup]
    refine congrArg _ (skipIf_eq machine ?_).symm
    rw [bne_iff_ne, ne_eq, ne_eq, UInt8.toNat_inj]
  case h_20 hgroup =>
    rw [hgroup, point_eq]
    rfl
  case h_21 hgroup =>
    rw [hgroup, goTo_eq, Nat.add_comm]
    rfl
  case h_22 hgroup =>
    rw [hgroup, ← UInt8.toNat_and, put_toNat]
    rfl
  case h_23 hgroup =>
    rw [hgroup, blit_eq]
    rfl
  case h_24 hgroup hy hn =>
    rw [hgroup, hy, hn]
    exact congrArg _ (skipIf_eq machine Iff.rfl).symm
  case h_25 hgroup hy hn =>
    rw [hgroup, hy, hn, ← ite_not]
    refine congrArg _ (skipIf_eq machine ?_).symm
    rw [Bool.not_eq_true', Bool.not_eq_true]
    rfl
  case h_26 hgroup hy hn =>
    rw [hgroup, hy, hn, put_toNat]
    rfl
  case h_27 hgroup hy hn =>
    rw [hgroup, hy, hn]
    exact (readKey_eq machine word.x).symm
  case h_28 hgroup hy hn =>
    rw [hgroup, hy, hn, UInt8.ofNat_toNat]
    rfl
  case h_29 hgroup hy hn =>
    rw [hgroup, hy, hn, UInt8.ofNat_toNat]
    rfl
  case h_30 hgroup hy hn =>
    rw [hgroup, hy, hn, point_eq, UInt16.ofNat_add, UInt16.ofNat_toNat]
    have hvalue : UInt16.ofNat (machine.register word.x).toNat =
        (machine.register word.x).toUInt16 := by
      simp
    rw [hvalue]
    rfl
  case h_31 hgroup hy hn =>
    rw [hgroup, hy, hn, point_eq]
    rfl
  case h_32 hgroup hy hn =>
    rw [hgroup, hy, hn, poke_digits]
    rfl
  case h_33 hgroup hy hn =>
    rw [hgroup, hy, hn, pokeRegisters_eq]
    rfl
  case h_34 hgroup hy hn =>
    rw [hgroup, hy, hn, peekRegisters_eq]
    rfl
  case h_35 =>
    -- No pattern applies, and the case split of the table has no other ones.
    have hnone : word.meaningOf word.group word.y word.n = none := by
      rw [Word.meaningOf] <;> grind
    rw [hnone]
    rfl

/-- The words that the table takes for `00E0` or `00EE`, although their second
digit is not zero. -/
def Shadowed (word : Nat) : Prop :=
  digit word 3 = 0 ∧ digit word 2 ≠ 0 ∧ digit word 1 = 0xE ∧
    (digit word 0 = 0 ∨ digit word 0 = 0xE)

theorem wordAt_lt (machine : Machine) : wordAt machine < 65536 := by
  have hhigh := (byteAt machine machine.counter.toNat).toNat_lt
  have hlow := (byteAt machine (machine.counter.toNat + 1)).toNat_lt
  rw [wordAt]
  omega

/-- The word that a step fetches. -/
theorem currentWord_eq (machine : Machine) :
    machine.currentWord = ⟨UInt16.ofNat (wordAt machine)⟩ := by
  rw [wordAt, byteAt_eq, byteAt_eq]
  rfl

section Digits

variable {number : Nat}

theorem group_ofNat (hnumber : number < 65536) :
    (⟨UInt16.ofNat number⟩ : Word).group = digit number 3 := by
  rw [Word.group, UInt16.toNat_ofNat_of_lt' hnumber]
  rfl

theorem x_ofNat (hnumber : number < 65536) :
    (⟨UInt16.ofNat number⟩ : Word).x = digit number 2 := by
  rw [Word.x, UInt16.toNat_ofNat_of_lt' hnumber]
  rfl

theorem y_ofNat (hnumber : number < 65536) :
    (⟨UInt16.ofNat number⟩ : Word).y = digit number 1 := by
  rw [Word.y, UInt16.toNat_ofNat_of_lt' hnumber]
  rfl

theorem n_ofNat (hnumber : number < 65536) :
    (⟨UInt16.ofNat number⟩ : Word).n = digit number 0 := by
  rw [Word.n, UInt16.toNat_ofNat_of_lt' hnumber, digit, Nat.pow_zero, Nat.div_one]

end Digits

/-- The first two digits of a number below 256 are zero. -/
theorem digit_low_byte (word : Nat) :
    digit (word % 256) 3 = 0 ∧ digit (word % 256) 2 = 0 ∧
      digit (word % 256) 1 = digit word 1 ∧ digit (word % 256) 0 = digit word 0 := by
  simp only [digit, Fin.ext_iff, Fin.val_ofNat, Fin.val_zero]
  omega

/-- A documented step gives the answer of the machine to a word that stands for
the same instruction and is not shadowed itself. -/
theorem stepWord_eq_of_decode (interpreter : Interpreter σ) {number : Nat}
    (hnumber : number < 65536) (hplain : ¬ Shadowed number)
    (hgroup : digit number 3 = interpreter.machine.currentWord.group)
    (hdecode : (⟨UInt16.ofNat number⟩ : Word).decode = interpreter.machine.currentWord.decode) :
    stepWord interpreter number = interpreter.step := by
  have hoffered : (RandomSource.next interpreter.source).1.toNat % 256 =
      (RandomSource.nextByte interpreter.source).1.toNat := by
    simp [RandomSource.nextByte]
  have hagree := effect_eq_respond ⟨UInt16.ofNat number⟩ interpreter.limit
    (RandomSource.nextByte interpreter.source).1 interpreter.machine.advance
  rw [group_ofNat hnumber, x_ofNat hnumber, y_ofNat hnumber, n_ofNat hnumber, hdecode] at hagree
  -- A word of group `0` whose second digit is not zero would be shadowed.
  have heffect := hagree fun hzero => by
    by_contra hshadow
    push Not at hshadow
    exact hplain ⟨hzero, hshadow.1, hshadow.2.1, hshadow.2.2⟩
  rw [hgroup] at heffect
  simp only [stepWord, Interpreter.step_eq_respond, goTo_next, hoffered, hgroup, heffect]

/-- In every state, under every limit and with every random source, a step is
the documented one, unless the word is shadowed.  For a shadowed word it is the
documented step for the low byte of the word: it clears the screen or returns. -/
theorem step_eq_reference (interpreter : Interpreter σ) :
    (¬ Shadowed (wordAt interpreter.machine) → interpreter.step = step interpreter) ∧
      (Shadowed (wordAt interpreter.machine) →
        interpreter.step = stepWord interpreter (wordAt interpreter.machine % 256)) := by
  have hword := wordAt_lt interpreter.machine
  have hcurrent := currentWord_eq interpreter.machine
  have hgroup : interpreter.machine.currentWord.group = digit (wordAt interpreter.machine) 3 := by
    rw [hcurrent, group_ofNat hword]
  constructor
  · intro hplain
    have hdecode : (⟨UInt16.ofNat (wordAt interpreter.machine)⟩ : Word).decode =
        interpreter.machine.currentWord.decode := by
      rw [hcurrent]
    exact (stepWord_eq_of_decode interpreter hword hplain hgroup.symm hdecode).symm
  · intro hshadow
    obtain ⟨hzero, -, hy, hn⟩ := hshadow
    obtain ⟨hlow3, hlow2, hlow1, hlow0⟩ := digit_low_byte (wordAt interpreter.machine)
    have hlow : wordAt interpreter.machine % 256 < 65536 := by
      omega
    have hdecode : (⟨UInt16.ofNat (wordAt interpreter.machine % 256)⟩ : Word).decode =
        interpreter.machine.currentWord.decode := by
      rw [hcurrent, Word.decode_eq_meaningOf, Word.decode_eq_meaningOf, group_ofNat hlow,
        y_ofNat hlow, n_ofNat hlow, group_ofNat hword, y_ofNat hword, n_ofNat hword, hlow3, hlow1,
        hlow0, hzero, hy]
      rcases hn with hn | hn
      · rw [hn]
        rfl
      · rw [hn]
        rfl
    have hplain : ¬ Shadowed (wordAt interpreter.machine % 256) :=
      fun h => h.2.1 hlow2
    have hsame : digit (wordAt interpreter.machine % 256) 3 =
        interpreter.machine.currentWord.group := by
      rw [hlow3, hgroup, hzero]
    exact (stepWord_eq_of_decode interpreter hlow hplain hsame hdecode).symm

end Reference
end ChipEight
