import Mathlib
import ChipEight.Interpreter
import ChipEight.Proofs.Loose.Machine
import ChipEight.Proofs.Reference

/-!
# Steps of a loose machine

A step cuts the word into fields of one byte, looks for it in a table with a place for
every group and selector, and hands the fields to what the table says.  That a register
is one of sixteen, or that an address is below 4096, is nowhere assumed: it follows from
how the fields are cut out, and is used only where an array is accessed.

On the loose form of a machine every step has a result, and it is that of the machine
(`step?_loose`), also where the program counter or the index register is far outside of
memory.
-/

namespace ChipEight

open Register Loose

/-! ## Fields -/

/-- A word with its fields cut out, each in a byte of its own. -/
structure Fields where
  word : Word
  group : UInt8
  x : UInt8
  y : UInt8
  n : UInt8
  nn : UInt8
  nnn : UInt16

/-- Cut a word into its fields. -/
def Word.fields (word : Word) : Fields :=
  let high := (word.value >>> 8).toUInt8
  let low := word.value.toUInt8
  { word
    group := high >>> 4
    x := high &&& 0xF
    y := low >>> 4
    n := low &&& 0xF
    nn := low
    nnn := word.value &&& 0xFFF }

/-- What tells the instructions of one group apart. -/
def Fields.selector (fields : Fields) : UInt8 :=
  if fields.group = 0x0 ∨ fields.group = 0xE ∨ fields.group = 0xF then fields.nn
  else if fields.group = 0x8 then fields.n
  else 0

section Fields

variable (word : Word)

theorem toNat_high : (word.value >>> 8).toUInt8.toNat = word.value.toNat / 256 := by
  have hword := word.value.toNat_lt
  simp [Nat.shiftRight_eq_div_pow]
  omega

theorem group_fields : word.fields.group.toNat = word.group.val := by
  have hword := word.value.toNat_lt
  simp only [Word.fields, Word.group, UInt8.toNat_shiftRight, toNat_high, Fin.val_ofNat]
  simp [Nat.shiftRight_eq_div_pow]
  omega

theorem x_fields : word.fields.x.toNat = word.x.val := by
  have hmask : word.value.toNat / 256 &&& 15 = word.value.toNat / 256 % 16 :=
    Nat.and_two_pow_sub_one_eq_mod _ 4
  simp only [Word.fields, Word.x, UInt8.toNat_and, toNat_high, Fin.val_ofNat]
  exact hmask

theorem y_fields : word.fields.y.toNat = word.y.val := by
  simp [Word.fields, Word.y, Nat.shiftRight_eq_div_pow]
  omega

theorem n_fields : word.fields.n.toNat = word.n.val := by
  have hmask : word.value.toNat % 256 &&& 15 = word.value.toNat % 256 % 16 :=
    Nat.and_two_pow_sub_one_eq_mod _ 4
  simp [Word.fields, Word.n, hmask]

theorem nn_fields : word.fields.nn = word.nn := by
  simp [Word.fields, Word.nn]

theorem nnn_fields : word.fields.nnn.toNat = word.nnn.val := by
  have hmask : word.value.toNat &&& 4095 = word.value.toNat % 4096 :=
    Nat.and_two_pow_sub_one_eq_mod _ 12
  simpa [Word.fields, Word.nnn] using hmask

theorem selector_fields : word.fields.selector = word.selector := by
  have hgroup : word.fields.group = UInt8.ofNat word.group.val := by
    rw [← group_fields, UInt8.ofNat_toNat]
  have hn : word.fields.n = UInt8.ofNat word.n.val := by
    rw [← n_fields, UInt8.ofNat_toNat]
  rw [Fields.selector, Word.selector, hgroup, hn, nn_fields]
  generalize word.group = group
  fin_cases group <;> rfl

end Fields

/-! ## The table -/

/-- The place of a group and a selector in the table. -/
def tablePlace? (group selector : UInt8) : Option Nat := do
  return (← product? 64 (group.toNat &&& 0xF) 0x100) ||| selector.toNat

/-- Enter a form into the table.  Two forms for one place would be a defect. -/
def enterForm? (table : Array (Option Form)) (form : Form) : Option (Array (Option Form)) := do
  let place ← tablePlace? (UInt8.ofNat form.group.val) form.selector
  match ← table[place]? with
  | some _ => none
  | none => put? table place (some form)

/-- The table of all forms. -/
def formTable? : Option (Array (Option Form)) :=
  Form.table.foldlM enterForm? (Array.replicate (16 * 256) none)

/-- The place of a form. -/
def Form.place (form : Form) : Nat :=
  256 * form.group.val + form.selector.toNat

theorem tablePlace?_eq_some {group : UInt8} (hgroup : group.toNat < 16) (selector : UInt8) :
    tablePlace? group selector = some (256 * group.toNat + selector.toNat) := by
  have hmask : group.toNat &&& 0xF = group.toNat := by
    rw [Nat.and_two_pow_sub_one_eq_mod _ 4, Nat.mod_eq_of_lt hgroup]
  have hproduct : group.toNat * 0x100 < 2 ^ 64 := by omega
  have hor : group.toNat * 0x100 ||| selector.toNat = 256 * group.toNat + selector.toNat := by
    rw [Nat.mul_comm]
    exact (Nat.two_pow_add_eq_or_of_lt selector.toNat_lt group.toNat).symm
  rw [tablePlace?, hmask, product?_of_lt hproduct]
  simp only [Option.pure_def, Option.bind_eq_bind, Option.bind_some, hor]

theorem Form.place_lt (form : Form) : form.place < 4096 := by
  have hgroup := form.group.isLt
  have hselector := form.selector.toNat_lt
  rw [place]
  omega

/-- A form is entered where nothing is yet. -/
theorem enterForm?_eq_some {table : Array (Option Form)} (hsize : table.size = 4096) {form : Form}
    (hfree : table[form.place]? = some none) : ∃ after, enterForm? table form = some after ∧
      after.size = 4096 ∧ ∀ place : Nat, after[place]? =
        if form.place = place then some (some form) else table[place]? := by
  have hplace : form.place < table.size := by
    rw [hsize]
    exact form.place_lt
  have hgroup := toNat_ofNat_nibble form.group
  refine ⟨table.set form.place (some form), ?_, ?_, fun place => ?_⟩
  · have hfound := tablePlace?_eq_some (hgroup ▸ form.group.isLt) form.selector
    rw [hgroup] at hfound
    rw [enterForm?, hfound]
    simp only [Option.bind_eq_bind, Option.bind_some]
    rw [← Form.place, hfree]
    exact put?_of_lt hplace _
  · rw [Array.size_set, hsize]
  · rw [Array.getElem?_set]

/-- Forms with places of their own are all entered, and found again there. -/
theorem foldlM_enterForm? {forms : List Form} (hdistinct : (forms.map Form.place).Nodup)
    {table : Array (Option Form)} (hsize : table.size = 4096)
    (hfree : ∀ form ∈ forms, table[form.place]? = some none) :
    ∃ after, forms.foldlM enterForm? table = some after ∧ ∀ place : Nat,
      after[place]? =
        match forms.find? (·.place = place) with
        | some form => some (some form)
        | none => table[place]? := by
  induction forms generalizing table with
  | nil => exact ⟨table, rfl, fun _ => rfl⟩
  | cons form rest ih =>
      obtain ⟨hnew, hrest⟩ := List.nodup_cons.mp hdistinct
      obtain ⟨hhere, hlater⟩ := List.forall_mem_cons.mp hfree
      obtain ⟨between, hentered, hbetween, hlookup⟩ := enterForm?_eq_some hsize hhere
      have hstill : ∀ other ∈ rest, between[other.place]? = some none := by
        intro other hother
        have hne : form.place ≠ other.place := fun hsame =>
          hnew (List.mem_map.mpr ⟨other, hother, hsame.symm⟩)
        rw [hlookup, if_neg hne, hlater other hother]
      obtain ⟨after, hafter, hfound⟩ := ih hrest hbetween hstill
      refine ⟨after, ?_, fun place => ?_⟩
      · rw [List.foldlM_cons, hentered]
        exact hafter
      · rw [hfound, hlookup, List.find?_cons]
        by_cases hplace : form.place = place
        · have hnone : rest.find? (·.place = place) = none := by
            rw [List.find?_eq_none]
            intro other hother
            have hne : other.place ≠ form.place := fun hsame =>
              hnew (List.mem_map.mpr ⟨other, hother, hsame⟩)
            simpa [hplace] using hne
          simp [hnone, hplace]
        · simp [hplace]

/-- A form covers the words whose group and selector lead to its place. -/
theorem Form.covers_iff (form : Form) (word : Word) :
    form.covers word = decide (form.place = 256 * word.group.val + word.selector.toNat) := by
  have hform := form.selector.toNat_lt
  have hword := word.selector.toNat_lt
  rw [Bool.eq_iff_iff, covers, Bool.and_eq_true, beq_iff_eq, beq_iff_eq, decide_eq_true_eq, place,
    Fin.ext_iff, ← UInt8.toNat_inj]
  omega

theorem nodup_place : (Form.table.map Form.place).Nodup := by
  decide +kernel

/-- The table has the form of every word in the place of the word. -/
theorem formTable?_eq_some : ∃ table, formTable? = some table ∧ ∀ word : Word, ∃ place,
    tablePlace? word.fields.group word.fields.selector = some place ∧
      table[place]? = some word.form? := by
  have hempty (place : Nat) (hplace : place < 4096) :
      (Array.replicate (16 * 256) (none : Option Form))[place]? = some none := by
    simp [hplace]
  obtain ⟨table, htable, hlookup⟩ := foldlM_enterForm? nodup_place Array.size_replicate
    fun form _ => hempty form.place form.place_lt
  refine ⟨table, htable, fun word => ⟨256 * word.group.val + word.selector.toNat, ?_, ?_⟩⟩
  · have hgroup : word.fields.group.toNat < 16 := by
      rw [group_fields]
      exact word.group.isLt
    rw [tablePlace?_eq_some hgroup, group_fields, selector_fields]
  · have hfind : Form.table.find? (·.place = 256 * word.group.val + word.selector.toNat) =
        word.form? := by
      simp only [Word.form?, Form.covers_iff]
    rw [hlookup, hfind]
    cases word.form? with
    | some form => rfl
    | none =>
        apply hempty
        have hgroup := word.group.isLt
        have hselector := word.selector.toNat_lt
        omega

/-! ## Instructions -/

namespace LooseMachine

variable (loose : LooseMachine) (fields : Fields)

/-- Put what two registers give into the first of them. -/
def combine? (result : UInt8 → UInt8 → UInt8) : Option LooseMachine := do
  let a ← loose.register? fields.x.toNat
  let b ← loose.register? fields.y.toNat
  loose.setRegister? fields.x.toNat (result a b)

/-- The same with a flag, which is written first. -/
def combineWithFlag? (result : UInt8 → UInt8 → UInt8) (flag : UInt8 → UInt8 → Bool) :
    Option LooseMachine := do
  let a ← loose.register? fields.x.toNat
  let b ← loose.register? fields.y.toNat
  (← loose.setFlag? (flag a b)).setRegister? fields.x.toNat (result a b)

/-- Shift a register; the flag register takes the bit that is shifted out. -/
def shift? (result bit : UInt8 → UInt8) : Option LooseMachine := do
  let a ← loose.register? fields.x.toNat
  (← loose.setRegister? 15 (bit a)).setRegister? fields.x.toNat (result a)

/-- Skip the next word if a register passes a test. -/
def skipOn? (test : UInt8 → Bool) : Option LooseMachine := do
  return loose.skipIf (test (← loose.register? fields.x.toNat))

/-- Skip the next word if two registers pass a test. -/
def skipOnPair? (test : UInt8 → UInt8 → Bool) : Option LooseMachine := do
  let a ← loose.register? fields.x.toNat
  let b ← loose.register? fields.y.toNat
  return loose.skipIf (test a b)

/-- Toggle a pixel, and remember whether one went off. -/
def togglePixel? (x y : Nat) (drawn : Array Bool × Bool) : Option (Array Bool × Bool) := do
  let place ← pixelPlace? x y
  let old ← drawn.1[place]?
  return (← put? drawn.1 place (!old), drawn.2 || old)

/-- Toggle a pixel of a row of a sprite if its bit is set. -/
def drawPixel? (row : UInt8) (x y line : Nat) (drawn : Array Bool × Bool) (column : Nat) :
    Option (Array Bool × Bool) := do
  let bits ← shiftRight? 8 row.toNat (← difference? 7 column)
  if bits &&& 1 = 0 then return drawn
  togglePixel? (← sum? 64 x column) (← sum? 64 y line) drawn

def drawRow? (x y : Nat) (drawn : Array Bool × Bool) (line : Nat) :
    Option (Array Bool × Bool) := do
  let row ← loose.read? (← sum? 64 loose.index.toNat line)
  (List.range 8).foldlM (drawPixel? row x y line) drawn

def drawSprite? (x y : UInt8) (height : Nat) : Option LooseMachine := do
  let loose ← loose.setFlag? false
  let (display, erased) ←
    (List.range height).foldlM (loose.drawRow? x.toNat y.toNat) (loose.display, false)
  { loose with display }.setFlag? erased

def storeRegister? (address : Nat) (loose : LooseMachine) (place : Nat) : Option LooseMachine := do
  let value ← loose.register? place
  loose.write? (← sum? 64 address place) value

def loadRegister? (address : Nat) (loose : LooseMachine) (place : Nat) : Option LooseMachine := do
  loose.setRegister? place (← loose.read? (← sum? 64 address place))

/-- Transfer the registers up to `x`, and pass them with the index register. -/
def transfer? (move : Nat → LooseMachine → Nat → Option LooseMachine) : Option LooseMachine := do
  let after ← (List.range (fields.x.toNat + 1)).foldlM (move loose.index.toNat) loose
  let passed ← sum? 16 fields.x.toNat 1
  return { after with index := after.index + UInt16.ofNat passed }

def storeDecimal? : Option LooseMachine := do
  let address := loose.index.toNat
  let value ← loose.register? fields.x.toNat
  let loose ← loose.write? address (value / 100 % 10)
  let loose ← loose.write? (← sum? 64 address 1) (value / 10 % 10)
  loose.write? (← sum? 64 address 2) (value % 10)

/-- The instruction did nothing that others need to know. -/
def plain (after : Option LooseMachine) : Option (Except Fault Flow × LooseMachine) :=
  after.map fun loose => (.ok .plain, loose)

/-- What an instruction does.  Only its kind is taken from the table; its operands are the
fields of the word. -/
def execute? (limit : Option Nat) (noise : UInt8) :
    Instruction → Option (Except Fault Flow × LooseMachine)
  | .clearScreen =>
    some (.ok .draw, { loose with display := Array.replicate loose.display.size false })
  | .ret =>
    match loose.stack.back? with
    | some address => some (.ok .jump, { loose with counter := address, stack := loose.stack.pop })
    | none => some (.error (.stackUnderflow loose.counter), loose)
  | .jump _ => some (.ok .jump, { loose with counter := fields.nnn })
  | .call _ =>
    if limit.any (· ≤ loose.stack.size) then some (.error (.stackOverflow loose.counter), loose)
    else
      some (.ok .jump, { loose with
        counter := fields.nnn
        stack := loose.stack.push loose.counter })
  | .skipIfEqual _ _ => plain (loose.skipOn? fields (· == fields.nn))
  | .skipUnlessEqual _ _ => plain (loose.skipOn? fields (· != fields.nn))
  | .skipIfSame _ _ => plain (loose.skipOnPair? fields (· == ·))
  | .skipUnlessSame _ _ => plain (loose.skipOnPair? fields (· != ·))
  | .load _ _ => plain (loose.setRegister? fields.x.toNat fields.nn)
  | .add _ _ => plain do
    let a ← loose.register? fields.x.toNat
    loose.setRegister? fields.x.toNat (a + fields.nn)
  | .copy _ _ => plain (loose.combine? fields fun _ b => b)
  | .orWith _ _ => plain (loose.combine? fields (· ||| ·))
  | .andWith _ _ => plain (loose.combine? fields (· &&& ·))
  | .xorWith _ _ => plain (loose.combine? fields (· ^^^ ·))
  | .addRegister _ _ =>
    plain (loose.combineWithFlag? fields (· + ·) fun a b => 256 ≤ a.toNat + b.toNat)
  | .subtract _ _ => plain (loose.combineWithFlag? fields (· - ·) fun a b => b ≤ a)
  | .subtractFrom _ _ => plain (loose.combineWithFlag? fields (fun a b => b - a) fun a b => a ≤ b)
  | .shiftRight _ => plain (loose.shift? fields (· >>> 1) (· &&& 1))
  | .shiftLeft _ => plain (loose.shift? fields (· <<< 1) fun a => (a >>> 7) &&& 1)
  | .setIndex _ => plain (some { loose with index := fields.nnn })
  | .jumpOffset _ => do
    let offset ← loose.register? 0
    let target ← sum? 16 fields.nnn.toNat offset.toNat
    return (.ok .jump, { loose with counter := UInt16.ofNat target })
  | .random _ _ => plain (loose.setRegister? fields.x.toNat (fields.nn &&& noise))
  | .draw _ _ _ => do
    let x ← loose.register? fields.x.toNat
    let y ← loose.register? fields.y.toNat
    return (.ok .draw, ← loose.drawSprite? x y fields.n.toNat)
  | .skipIfDown _ => plain do
    let number ← loose.register? fields.x.toNat
    return loose.skipIf (← loose.isDown? number)
  | .skipUnlessDown _ => plain do
    let number ← loose.register? fields.x.toNat
    return loose.skipIf (!(← loose.isDown? number))
  | .readDelay _ => plain (loose.setRegister? fields.x.toNat loose.delay)
  | .awaitKey _ =>
    match loose.firstDown with
    | some number => plain (loose.setRegister? fields.x.toNat number)
    | none => some (.ok .keyWait, { loose with counter := loose.counter - 2 })
  | .setDelay _ => plain do
    return { loose with delay := ← loose.register? fields.x.toNat }
  | .setSound _ => do
    return (.ok .sound, { loose with sound := ← loose.register? fields.x.toNat })
  | .addIndex _ => plain do
    let a ← loose.register? fields.x.toNat
    return { loose with index := loose.index + a.toUInt16 }
  | .pointAtGlyph _ => plain do
    let a ← loose.register? fields.x.toNat
    let place ← sum? 64 0 (← product? 64 a.toNat Memory.glyphHeight)
    return { loose with index := UInt16.ofNat place }
  | .storeDecimal _ => plain (loose.storeDecimal? fields)
  | .storeRegisters _ => plain (loose.transfer? fields storeRegister?)
  | .loadRegisters _ => plain (loose.transfer? fields loadRegister?)

/-- Read the word at the program counter and move past it. -/
def fetch? : Option (Fields × LooseMachine) := do
  let cursor := loose.counter.toNat
  let high ← loose.read? cursor
  let low ← loose.read? (← sum? 64 cursor 1)
  return ((Word.ofBytes high low).fields, loose.advance)

end LooseMachine

/-- An interpreter whose machine has arrays of any size. -/
structure LooseInterpreter (σ : Type) where
  machine : LooseMachine
  source : σ
  limit : Option Nat

def Interpreter.loose {σ : Type} (interpreter : Interpreter σ) : LooseInterpreter σ :=
  ⟨interpreter.machine.loose, interpreter.source, interpreter.limit⟩

namespace LooseInterpreter

variable {σ : Type} [RandomSource σ]

/-- Fetch a word, look it up and execute it. -/
def step? (loose : LooseInterpreter σ) : Option (Except Fault Flow × LooseInterpreter σ) := do
  let (fields, passed) ← loose.machine.fetch?
  let table ← formTable?
  match ← table[← tablePlace? fields.group fields.selector]? with
  | none => return (.ok .plain, { loose with machine := passed })
  | some form =>
    let instruction := form.meaning fields.word
    let (noise, source) := Interpreter.noiseFor loose.source instruction
    let (answer, machine) ← passed.execute? fields loose.limit noise instruction
    return (answer, { loose with machine, source })

end LooseInterpreter

/-! ## Instructions on the loose form of a machine -/

section Handlers

variable (machine : Machine) (word : Word)

theorem combine?_loose (result : UInt8 → UInt8 → UInt8) :
    machine.loose.combine? word.fields result =
      some (machine.setRegister word.x
        (result (machine.register word.x) (machine.register word.y))).loose := by
  simp [LooseMachine.combine?, x_fields, y_fields]

theorem combineWithFlag?_loose (result : UInt8 → UInt8 → UInt8) (flag : UInt8 → UInt8 → Bool) :
    machine.loose.combineWithFlag? word.fields result flag =
      some (machine.setWithFlag word.x (result (machine.register word.x) (machine.register word.y))
        (flag (machine.register word.x) (machine.register word.y))).loose := by
  simp [LooseMachine.combineWithFlag?, x_fields, y_fields, Machine.setWithFlag]

theorem shift?_loose {result bit : UInt8 → UInt8} {flag : UInt8 → Bool}
    (hbit : ∀ a, bit a = if flag a then 1 else 0) :
    machine.loose.shift? word.fields result bit =
      some (machine.setWithFlag word.x (result (machine.register word.x))
        (flag (machine.register word.x))).loose := by
  have hflag (value : UInt8) : machine.loose.setRegister? 15 value =
      some (machine.setRegister flagRegister value).loose :=
    machine.setRegister?_loose flagRegister value
  simp [LooseMachine.shift?, x_fields, hflag, hbit, Machine.setWithFlag, Machine.setFlag]

theorem skipOn?_loose (test : UInt8 → Bool) :
    machine.loose.skipOn? word.fields test =
      some (machine.skipIf (test (machine.register word.x))).loose := by
  simp [LooseMachine.skipOn?, x_fields]

theorem skipOnPair?_loose (test : UInt8 → UInt8 → Bool) :
    machine.loose.skipOnPair? word.fields test =
      some (machine.skipIf (test (machine.register word.x) (machine.register word.y))).loose := by
  simp [LooseMachine.skipOnPair?, x_fields, y_fields]

theorem storeDecimal?_loose :
    machine.loose.storeDecimal? word.fields =
      some { machine with
        memory := machine.memory.writeAll machine.index.toNat
          (Machine.decimalDigits (machine.register word.x)) }.loose := by
  have hindex := machine.index.toNat_lt
  have hsum (offset : Nat) (hoffset : offset < 256) :
      sum? 64 machine.index.toNat offset = some (machine.index.toNat + offset) :=
    sum?_of_lt (by omega)
  have hloose : machine.loose.index = machine.index := rfl
  simp [LooseMachine.storeDecimal?, x_fields, hloose, hsum, Memory.writeAll,
    Machine.decimalDigits]

theorem val_ofNat_of_lt {place : Nat} (hplace : place < 16) :
    (Fin.ofNat 16 place : Register).val = place :=
  Nat.mod_eq_of_lt hplace

theorem storeRegister?_loose {address place : Nat} (haddress : address < 65536)
    (hplace : place < 16) :
    LooseMachine.storeRegister? address machine.loose place =
      some (Reference.poke machine (address + place)
        (Reference.v machine (Fin.ofNat 16 place))).loose := by
  have hregister := machine.register?_loose (Fin.ofNat 16 place)
  rw [val_ofNat_of_lt hplace] at hregister
  have hsum : sum? 64 address place = some (address + place) := sum?_of_lt (by omega)
  rw [LooseMachine.storeRegister?, hregister, Reference.poke_eq, Reference.v_eq]
  simp [hsum]

theorem loadRegister?_loose {address place : Nat} (haddress : address < 65536)
    (hplace : place < 16) :
    LooseMachine.loadRegister? address machine.loose place =
      some (Reference.put machine (Fin.ofNat 16 place)
        (Reference.byteAt machine (address + place)).toNat).loose := by
  have hset (value : UInt8) := machine.setRegister?_loose (Fin.ofNat 16 place) value
  rw [val_ofNat_of_lt hplace] at hset
  have hsum : sum? 64 address place = some (address + place) := sum?_of_lt (by omega)
  rw [LooseMachine.loadRegister?, Reference.put_toNat, Reference.byteAt_eq]
  simp [hsum, hset]

/-- A transfer moves register after register. -/
theorem transfer?_loose {move : Nat → LooseMachine → Nat → Option LooseMachine}
    {update : Machine → Nat → Machine}
    (hmove : ∀ (later : Machine) (place : Nat), place < 16 →
      move machine.index.toNat later.loose place = some (update later place).loose) :
    machine.loose.transfer? word.fields move =
      some (((List.range (word.x.val + 1)).foldl update machine).passRegisters word.x).loose := by
  have hx := word.x.isLt
  have hloop : (List.range (word.x.val + 1)).foldlM (move machine.index.toNat) machine.loose =
      some ((List.range (word.x.val + 1)).foldl update machine).loose := by
    apply foldlM_eq_some
    intro later place hplace
    have hbound := List.mem_range.mp hplace
    exact hmove later place (by omega)
  have hindex : machine.loose.index = machine.index := rfl
  have hsum : sum? 16 word.x.val 1 = some (word.x.val + 1) := sum?_of_lt (by omega)
  rw [LooseMachine.transfer?, x_fields, hindex, hloop]
  simp [hsum, Machine.passRegisters, Machine.loose]

theorem storeRegisters?_loose :
    machine.loose.transfer? word.fields LooseMachine.storeRegister? =
      some (machine.storeRegisters word.x).loose := by
  rw [transfer?_loose machine word fun later place =>
    storeRegister?_loose later machine.index.toNat_lt, Reference.foldl_poke _ _ _ word.x.isLt]
  rfl

theorem loadRegisters?_loose :
    machine.loose.transfer? word.fields LooseMachine.loadRegister? =
      some (machine.loadRegisters word.x).loose := by
  rw [transfer?_loose machine word fun later place =>
    loadRegister?_loose later machine.index.toNat_lt, Reference.foldl_put _ _ _ word.x.isLt]
  simp only [Machine.loadRegisters, Fin.le_def, Nat.lt_succ_iff]

end Handlers

/-! ## Drawing -/

section Drawing

theorem togglePixel?_display (screen : Screen) (erased : Bool) (x y : Nat) :
    LooseMachine.togglePixel? x y (screen.display, erased) =
      some ((screen.toggle x y).display, erased || screen.pixel x y) := by
  have hplace : x % 64 + y % 32 * 64 < screen.display.size := by
    rw [Screen.size_display]
    omega
  have hold : screen.display[x % 64 + y % 32 * 64]? = some (screen.pixel x y) := by
    rw [Screen.getElem?_display _ (Nat.mod_lt _ (by decide)) (Nat.mod_lt _ (by decide)),
      Screen.pixel_mod]
  rw [LooseMachine.togglePixel?, Machine.pixelPlace?_eq_some, Option.bind_eq_bind,
    Option.bind_some]
  simp only [Option.bind_eq_bind, Option.bind_some, Option.pure_def, hold, put?_of_lt hplace,
    Screen.display_toggle _ _ _ hplace]

theorem bit_eq_zero_iff (row : UInt8) (column : Nat) :
    row.toNat >>> (7 - column) &&& 1 = 0 ↔ row.toNat.testBit (7 - column) = false := by
  rw [Nat.testBit, Nat.and_comm]
  simp

variable {x y line : Nat} (hx : x < 256) (hy : y < 256) (hline : line < 16)

include hx hy hline in
theorem drawPixel?_display (row : UInt8) {column : Nat} (hcolumn : column < 8) (screen : Screen)
    (erased : Bool) :
    LooseMachine.drawPixel? row x y line (screen.display, erased) column =
      some (if row.toNat.testBit (7 - column) then
        ((screen.toggle (x + column) (y + line)).display,
          erased || screen.pixel (x + column) (y + line))
      else (screen.display, erased)) := by
  have hshift : shiftRight? 8 row.toNat (7 - column) = some (row.toNat >>> (7 - column)) :=
    shiftRight?_of_lt (by omega)
  have hcolumnSum : sum? 64 x column = some (x + column) := sum?_of_lt (by omega)
  have hlineSum : sum? 64 y line = some (y + line) := sum?_of_lt (by omega)
  have hbit := bit_eq_zero_iff row column
  rw [LooseMachine.drawPixel?, difference?_of_le (by omega), Option.bind_eq_bind,
    Option.bind_some, hshift, Option.bind_some]
  generalize row.toNat >>> (7 - column) &&& 1 = bit at hbit ⊢
  cases hset : row.toNat.testBit (7 - column) with
  | false =>
      rw [if_pos (hbit.mpr hset)]
      rfl
  | true =>
      have hone : bit ≠ 0 := fun hzero => by simp [hbit.mp hzero] at hset
      rw [if_neg hone, hcolumnSum, Option.bind_some, hlineSum, Option.bind_some,
        togglePixel?_display, if_pos rfl]

include hx hy hline in
/-- The columns of a row are drawn one after the other. -/
theorem foldlM_drawPixel? (row : UInt8) {columns : List Nat}
    (hcolumns : ∀ column ∈ columns, column < 8) (screen : Screen) (erased : Bool) :
    let pixels := (columns.filter fun column => row.toNat.testBit (7 - column)).map fun column =>
      ((x + column) % 64, (y + line) % 32)
    columns.foldlM (LooseMachine.drawPixel? row x y line) (screen.display, erased) =
      some ((screen.toggleAll pixels).1.display, erased || (screen.toggleAll pixels).2) := by
  induction columns generalizing screen erased with
  | nil => simp [Screen.toggleAll]
  | cons column rest ih =>
      obtain ⟨hcolumn, hrest⟩ := List.forall_mem_cons.mp hcolumns
      simp only at ih ⊢
      rw [List.foldlM_cons, drawPixel?_display hx hy hline row hcolumn, List.filter_cons,
        Option.bind_eq_bind, Option.bind_some]
      cases row.toNat.testBit (7 - column) with
      | false => exact ih hrest screen erased
      | true =>
          have hsame : screen.toggle ((x + column) % 64) ((y + line) % 32) =
              screen.toggle (x + column) (y + line) := by
            simp [Screen.toggle]
          simp only [if_true, List.map_cons, Screen.toggleAll, hsame, Screen.pixel_mod]
          rw [ih hrest, Bool.or_assoc]

variable (machine : Machine)

include hx hy hline in
theorem drawRow?_display (screen : Screen) (erased : Bool) :
    let pixels := Screen.rowPixels (machine.memory.read (machine.index.toNat + line)) x (y + line)
    machine.loose.drawRow? x y (screen.display, erased) line =
      some ((screen.toggleAll pixels).1.display, erased || (screen.toggleAll pixels).2) := by
  have hindex : machine.loose.index.toNat = machine.index.toNat := rfl
  have hbound := machine.index.toNat_lt
  have hsum : sum? 64 machine.index.toNat line = some (machine.index.toNat + line) :=
    sum?_of_lt (by omega)
  rw [LooseMachine.drawRow?, hindex, hsum, Option.bind_eq_bind, Option.bind_some,
    Machine.read?_loose]
  exact foldlM_drawPixel? hx hy hline _ (fun column hcolumn => List.mem_range.mp hcolumn) screen
    erased

include hx hy in
/-- The rows of a sprite are drawn one after the other. -/
theorem foldlM_drawRow? {lines : List Nat} (hlines : ∀ line ∈ lines, line < 16)
    (screen : Screen) (erased : Bool) :
    let pixels := lines.flatMap fun line =>
      Screen.rowPixels (machine.memory.read (machine.index.toNat + line)) x (y + line)
    lines.foldlM (machine.loose.drawRow? x y) (screen.display, erased) =
      some ((screen.toggleAll pixels).1.display, erased || (screen.toggleAll pixels).2) := by
  induction lines generalizing screen erased with
  | nil => simp [Screen.toggleAll]
  | cons line rest ih =>
      obtain ⟨hline, hrest⟩ := List.forall_mem_cons.mp hlines
      simp only at ih ⊢
      rw [List.foldlM_cons, drawRow?_display hx hy hline, Option.bind_eq_bind, Option.bind_some,
        ih hrest, List.flatMap_cons, Screen.toggleAll_append, Bool.or_assoc]

theorem setFlag_setFlag (first second : Bool) :
    (machine.setFlag first).setFlag second = machine.setFlag second := by
  simp [Machine.setFlag, Machine.setRegister]

theorem drawSprite?_loose (vx vy : UInt8) {height : Nat} (hheight : height ≤ 16) :
    machine.loose.drawSprite? vx vy height = some (machine.drawSprite vx vy height).loose := by
  have hloop := foldlM_drawRow? vx.toNat_lt vy.toNat_lt (machine.setFlag false)
    (fun line hline => (List.mem_range.mp hline).trans_le hheight) machine.screen false
  have hsprite : (List.range height).map (fun line =>
      (machine.setFlag false).memory.read ((machine.setFlag false).index.toNat + line)) =
        machine.memory.readAll machine.index.toNat height := rfl
  simp only [← Screen.spritePixels_map_range, ← Screen.draw_eq_toggleAll, hsprite,
    Bool.false_or] at hloop
  have hdisplay : (machine.setFlag false).loose.display = machine.screen.display := by
    rw [Machine.display_loose]
    rfl
  have hdrawn (screen : Screen) :
      { (machine.setFlag false).loose with display := screen.display } =
        ({ machine with screen }.setFlag false).loose := by
    simp only [Machine.loose, Machine.setFlag, Machine.setRegister]
  rw [LooseMachine.drawSprite?, Machine.setFlag?_loose]
  simp only [Option.bind_eq_bind, Option.bind_some, hdisplay, hloop, hdrawn, Machine.setFlag?_loose,
    setFlag_setFlag, Machine.drawSprite]

end Drawing

/-! ## The instruction of a word -/

/-- The instruction of the same kind with the fields of a word as operands. -/
def Instruction.on (word : Word) : Instruction → Instruction
  | .clearScreen => .clearScreen
  | .ret => .ret
  | .jump _ => .jump word.nnn
  | .call _ => .call word.nnn
  | .skipIfEqual _ _ => .skipIfEqual word.x word.nn
  | .skipUnlessEqual _ _ => .skipUnlessEqual word.x word.nn
  | .skipIfSame _ _ => .skipIfSame word.x word.y
  | .load _ _ => .load word.x word.nn
  | .add _ _ => .add word.x word.nn
  | .copy _ _ => .copy word.x word.y
  | .orWith _ _ => .orWith word.x word.y
  | .andWith _ _ => .andWith word.x word.y
  | .xorWith _ _ => .xorWith word.x word.y
  | .addRegister _ _ => .addRegister word.x word.y
  | .subtract _ _ => .subtract word.x word.y
  | .shiftRight _ => .shiftRight word.x
  | .subtractFrom _ _ => .subtractFrom word.x word.y
  | .shiftLeft _ => .shiftLeft word.x
  | .skipUnlessSame _ _ => .skipUnlessSame word.x word.y
  | .setIndex _ => .setIndex word.nnn
  | .jumpOffset _ => .jumpOffset word.nnn
  | .random _ _ => .random word.x word.nn
  | .draw _ _ _ => .draw word.x word.y word.n
  | .skipIfDown _ => .skipIfDown word.x
  | .skipUnlessDown _ => .skipUnlessDown word.x
  | .readDelay _ => .readDelay word.x
  | .awaitKey _ => .awaitKey word.x
  | .setDelay _ => .setDelay word.x
  | .setSound _ => .setSound word.x
  | .addIndex _ => .addIndex word.x
  | .pointAtGlyph _ => .pointAtGlyph word.x
  | .storeDecimal _ => .storeDecimal word.x
  | .storeRegisters _ => .storeRegisters word.x
  | .loadRegisters _ => .loadRegisters word.x

/-- A word means an instruction on its own fields. -/
theorem Instruction.on_meaning {form : Form} (hform : form ∈ Form.table) (word : Word) :
    (form.meaning word).on word = form.meaning word := by
  revert form
  simp [Form.table, on]

theorem carries_iff (a b : UInt8) :
    decide (256 ≤ a.toNat + b.toNat) = decide (a + b < a) := by
  have ha := a.toNat_lt
  have hb := b.toNat_lt
  rw [decide_eq_decide, UInt8.lt_iff_toNat_lt, UInt8.toNat_add]
  omega

theorem eq_ite_of_toNat {bit : UInt8} {flag : Bool} (hbit : bit.toNat = flag.toNat) :
    bit = if flag then 1 else 0 := by
  cases flag with
  | false => exact UInt8.toNat_inj.mp hbit
  | true => exact UInt8.toNat_inj.mp hbit

theorem lowBit (a : UInt8) : a &&& 1 = if a % 2 == 1 then 1 else 0 :=
  eq_ite_of_toNat ((Nat.and_one_is_mod a.toNat).trans (Reference.lowBit_eq a))

theorem highBit (a : UInt8) : (a >>> 7) &&& 1 = if decide (128 ≤ a) then 1 else 0 := by
  have ha := a.toNat_lt
  have hand : a.toNat >>> 7 &&& 1 = a.toNat >>> 7 % 2 := Nat.and_one_is_mod _
  apply eq_ite_of_toNat
  rw [← Reference.highBit_eq, UInt8.toNat_and, UInt8.toNat_shiftRight]
  change a.toNat >>> 7 &&& 1 = _
  rw [hand, Nat.shiftRight_eq_div_pow]
  omega

theorem plain_some (loose : LooseMachine) :
    LooseMachine.plain (some loose) = some (.ok .plain, loose) :=
  rfl

theorem nnn_eq_ofNat (word : Word) : word.fields.nnn = UInt16.ofNat word.nnn.val := by
  rw [← nnn_fields, UInt16.ofNat_toNat]

/-- On the loose form of a machine an instruction does what it does to the machine. -/
theorem execute?_loose (machine : Machine) (word : Word) (limit : Option Nat) (noise : UInt8)
    (instruction : Instruction) :
    machine.loose.execute? word.fields limit noise instruction =
      some ((machine.execute limit noise (instruction.on word)).1,
        (machine.execute limit noise (instruction.on word)).2.loose) := by
  cases instruction with
  | clearScreen =>
      rw [LooseMachine.execute?, machine.sized_loose.display, ← Screen.display_blank]
      rfl
  | ret =>
      have hstack : machine.loose.stack = machine.stack := rfl
      rw [LooseMachine.execute?, hstack, Instruction.on, Machine.execute, Machine.returnFromCall]
      cases machine.stack.back? with
      | none => rfl
      | some address => rfl
  | jump _ =>
      rw [LooseMachine.execute?, nnn_eq_ofNat]
      rfl
  | call _ =>
      have hlimit : limit.any (· ≤ machine.loose.stack.size) = machine.atLimit limit := by
        cases limit <;> rfl
      rw [LooseMachine.execute?, hlimit, nnn_eq_ofNat, Instruction.on, Machine.execute,
        Machine.callAt]
      cases machine.atLimit limit with
      | true => rfl
      | false => rfl
  | skipIfEqual _ _ =>
      rw [LooseMachine.execute?, skipOn?_loose, nn_fields, plain_some]
      rfl
  | skipUnlessEqual _ _ =>
      rw [LooseMachine.execute?, skipOn?_loose, nn_fields, plain_some]
      rfl
  | skipIfSame _ _ =>
      rw [LooseMachine.execute?, skipOnPair?_loose, plain_some]
      rfl
  | skipUnlessSame _ _ =>
      rw [LooseMachine.execute?, skipOnPair?_loose, plain_some]
      rfl
  | load _ _ =>
      rw [LooseMachine.execute?, x_fields, nn_fields, Machine.setRegister?_loose, plain_some]
      rfl
  | add _ _ =>
      rw [LooseMachine.execute?, x_fields, nn_fields, Machine.register?_loose, Option.bind_eq_bind,
        Option.bind_some, Machine.setRegister?_loose, plain_some]
      rfl
  | copy _ _ =>
      rw [LooseMachine.execute?, combine?_loose, plain_some]
      rfl
  | orWith _ _ =>
      rw [LooseMachine.execute?, combine?_loose, plain_some]
      rfl
  | andWith _ _ =>
      rw [LooseMachine.execute?, combine?_loose, plain_some]
      rfl
  | xorWith _ _ =>
      rw [LooseMachine.execute?, combine?_loose, plain_some]
      rfl
  | addRegister _ _ =>
      rw [LooseMachine.execute?, combineWithFlag?_loose, plain_some, carries_iff]
      rfl
  | subtract _ _ =>
      rw [LooseMachine.execute?, combineWithFlag?_loose, plain_some]
      rfl
  | subtractFrom _ _ =>
      rw [LooseMachine.execute?, combineWithFlag?_loose, plain_some]
      rfl
  | shiftRight _ =>
      rw [LooseMachine.execute?, shift?_loose _ _ lowBit, plain_some]
      rfl
  | shiftLeft _ =>
      rw [LooseMachine.execute?, shift?_loose _ _ highBit, plain_some]
      rfl
  | setIndex _ =>
      rw [LooseMachine.execute?, nnn_eq_ofNat, plain_some]
      rfl
  | jumpOffset _ =>
      have hregister : machine.loose.register? 0 = some (machine.register 0) :=
        machine.register?_loose 0
      have haddress := word.nnn.isLt
      have hoffset := (machine.register 0).toNat_lt
      have hsum : sum? 16 word.nnn.val (machine.register 0).toNat =
          some (word.nnn.val + (machine.register 0).toNat) := sum?_of_lt (by omega)
      rw [LooseMachine.execute?, hregister, nnn_fields, Option.bind_eq_bind, Option.bind_some, hsum]
      rfl
  | random _ _ =>
      rw [LooseMachine.execute?, x_fields, nn_fields, Machine.setRegister?_loose, plain_some]
      rfl
  | draw _ _ _ =>
      rw [LooseMachine.execute?, x_fields, y_fields, n_fields]
      simp only [Option.bind_eq_bind, Option.bind_some, Machine.register?_loose,
        drawSprite?_loose machine _ _ word.n.isLt.le]
      rfl
  | skipIfDown _ =>
      rw [LooseMachine.execute?, x_fields]
      simp only [Option.bind_eq_bind, Option.bind_some, Machine.register?_loose,
        Machine.isDown?_loose, Machine.skipIf_loose]
      rfl
  | skipUnlessDown _ =>
      rw [LooseMachine.execute?, x_fields]
      simp only [Option.bind_eq_bind, Option.bind_some, Machine.register?_loose,
        Machine.isDown?_loose, Machine.skipIf_loose]
      rfl
  | readDelay _ =>
      rw [LooseMachine.execute?, x_fields, Machine.setRegister?_loose, plain_some]
      rfl
  | awaitKey _ =>
      rw [LooseMachine.execute?, x_fields, Machine.firstDown_loose, Instruction.on,
        Machine.execute, Machine.readKey]
      cases machine.keypad.first? with
      | none => rfl
      | some key => exact congrArg LooseMachine.plain (Machine.setRegister?_loose _ _ _)
  | setDelay _ =>
      rw [LooseMachine.execute?, x_fields, Machine.register?_loose]
      rfl
  | setSound _ =>
      rw [LooseMachine.execute?, x_fields, Machine.register?_loose]
      rfl
  | addIndex _ =>
      rw [LooseMachine.execute?, x_fields, Machine.register?_loose]
      rfl
  | pointAtGlyph _ =>
      have hvalue := (machine.register word.x).toNat_lt
      have hfits : (machine.register word.x).toNat * Memory.glyphHeight < 2 ^ 64 := by
        rw [Memory.glyphHeight]
        omega
      have hproduct := product?_of_lt hfits
      have hsum : sum? 64 0 ((machine.register word.x).toNat * Memory.glyphHeight) =
          some (0 + (machine.register word.x).toNat * Memory.glyphHeight) := sum?_of_lt (by omega)
      rw [LooseMachine.execute?, x_fields]
      simp only [Option.bind_eq_bind, Option.bind_some, Machine.register?_loose, hproduct, hsum,
        Nat.zero_add]
      rfl
  | storeDecimal _ =>
      rw [LooseMachine.execute?, storeDecimal?_loose, plain_some]
      rfl
  | storeRegisters _ =>
      rw [LooseMachine.execute?, storeRegisters?_loose, plain_some]
      rfl
  | loadRegisters _ =>
      rw [LooseMachine.execute?, loadRegisters?_loose, plain_some]
      rfl

/-! ## Steps -/

theorem fetch?_loose (machine : Machine) :
    machine.loose.fetch? = some (machine.currentWord.fields, machine.advance.loose) := by
  have hcounter : machine.loose.counter.toNat = machine.counter.toNat := rfl
  have hbound := machine.counter.toNat_lt
  have hsum : sum? 64 machine.counter.toNat 1 = some (machine.counter.toNat + 1) :=
    sum?_of_lt (by omega)
  rw [LooseMachine.fetch?, hcounter]
  simp only [Option.bind_eq_bind, Option.bind_some, Machine.read?_loose, hsum,
    Machine.advance_loose]
  rfl

/-- Whatever the state is, a step has a result. -/
theorem step?_loose {σ : Type} [RandomSource σ] (interpreter : Interpreter σ) :
    interpreter.loose.step? = some (interpreter.step.1, interpreter.step.2.loose) := by
  obtain ⟨table, htable, hlookup⟩ := formTable?_eq_some
  obtain ⟨place, hplace, hform⟩ := hlookup interpreter.machine.currentWord
  have hfetch : interpreter.loose.machine.fetch? = _ := fetch?_loose interpreter.machine
  rw [LooseInterpreter.step?, hfetch]
  simp only [Option.bind_eq_bind, Option.bind_some, htable, hplace, hform]
  rw [Interpreter.step, Word.decode]
  cases hfound : interpreter.machine.currentWord.form? with
  | none => rfl
  | some form =>
      have hmem : form ∈ Form.table := List.mem_of_find?_eq_some hfound
      have hexecute (noise : UInt8) := execute?_loose interpreter.machine.advance
        interpreter.machine.currentWord interpreter.limit noise
        (form.meaning interpreter.machine.currentWord)
      rw [Instruction.on_meaning hmem] at hexecute
      have hword : interpreter.machine.currentWord.fields.word = interpreter.machine.currentWord :=
        rfl
      have hsource : interpreter.loose.source = interpreter.source := rfl
      have hlimit : interpreter.loose.limit = interpreter.limit := rfl
      simp only [Option.bind_some, Option.map_some, Option.pure_def, hword, hsource, hlimit,
        hexecute]
      rfl

end ChipEight
