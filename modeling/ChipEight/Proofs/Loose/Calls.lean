import Mathlib
import ChipEight.Machine.Report
import ChipEight.Operation
import ChipEight.Proofs.Loose.Step

/-!
# Calls of a loose interpreter

Whoever drives an interpreter may call it in any state and with any numbers: keys that do
not exist, pixels beyond the edges, addresses beyond memory.  `Call` has all that can be
called, with the operations among them, and what is answered.

Every call has a result where the arrays have the sizes of the machine, and leaves the
sizes as they are, so a session of calls never ends early (`neverTraps`).
-/

namespace ChipEight

open Loose

/-! ## Programs and reports -/

namespace LooseMachine

variable (loose : LooseMachine)

/-- Copy a program to the start of program memory. -/
def load? (program : List UInt8) : Option (Outcome × LooseMachine) :=
  if program.isEmpty then some (.refused .emptyProgram, loose)
  else if programLimit < program.length then
    some (.refused (.largeProgram program.length), loose)
  else do
    return (.done, { loose with ram := ← copy? loose.ram programStart program })

/-- Erase everything and copy the font to the start of memory. -/
def reset? : Option LooseMachine := do
  let ram ← copy? (Array.replicate loose.ram.size 0) 0 Memory.font
  return {
    ram
    display := Array.replicate loose.display.size false
    registers := Array.replicate loose.registers.size 0
    keys := 0
    index := 0
    counter := UInt16.ofNat programStart
    delay := 0
    sound := 0
    stack := #[] }

/-- Count both timers down; a difference below zero is zero. -/
def tick : LooseMachine :=
  { loose with
    delay := UInt8.ofNat (loose.delay.toNat - 1)
    sound := UInt8.ofNat (loose.sound.toNat - 1) }

def memoryLine? (byte : UInt8) (address : Nat) : Option String := do
  let next ← loose.read? (← sum? 64 address 1)
  return Numeral.hex 4 address ++ ": " ++ Numeral.hex 2 byte.toNat ++ Numeral.hex 2 next.toNat
    ++ "\n"

def memoryReport? (count : Nat) : Option String := do
  let bytes := everySecond ((loose.ram.toList.zipIdx.drop programStart).take count)
  return String.join (← bytes.mapM fun (byte, address) => loose.memoryLine? byte address)

def registerReport : String :=
  String.join (loose.registers.toList.zipIdx.map fun (value, place) =>
      "V" ++ Numeral.hex 1 place ++ "=" ++ Numeral.hex 2 value.toNat ++ " ") ++ "\n"
    ++ "PC=" ++ Numeral.hex 4 loose.counter.toNat
    ++ " I=" ++ Numeral.hex 4 loose.index.toNat
    ++ " DT=" ++ Numeral.hex 2 loose.delay.toNat
    ++ " ST=" ++ Numeral.hex 2 loose.sound.toNat
    ++ " SP=" ++ Numeral.decimal loose.stack.size ++ "\n"

def pixelChar? (x y : Nat) : Option Char := do
  let place ← sum? 64 x (← product? 64 y 64)
  return Machine.pixelChar (← loose.display[place]?)

def screenReport? : Option String := do
  let rows ← (List.range 32).mapM fun y => do
    return String.ofList (← (List.range 64).mapM fun x => loose.pixelChar? x y) ++ "\n"
  return String.join rows

/-- The name of a key if it is down. -/
def keyText? (number : Nat) : Option String := do
  return if ← loose.isDown? (UInt8.ofNat number) then
    String.ofList ['k', Nat.digitChar number] else ""

def keyReport? : Option String :=
  if loose.keys > 0 then do
    return "keys: " ++ String.join (← (List.range 16).mapM loose.keyText?)
  else some ""

end LooseMachine

namespace Machine

variable (machine : Machine)

theorem putAll?_eq_some (memory : Memory) (values : List UInt8) {address : Nat}
    (hfits : address + values.length ≤ 4096) :
    putAll? memory.cells.toArray address values =
      some (memory.writeAll address values).cells.toArray := by
  induction values generalizing memory address with
  | nil => rfl
  | cons value rest ih =>
      rw [List.length_cons] at hfits
      have hmod : address % 4096 = address := Nat.mod_eq_of_lt (by omega)
      have hplace : address < memory.cells.toArray.size := by
        rw [Vector.size_toArray]
        omega
      have hwrite : memory.cells.toArray.set address value =
          (memory.write address value).cells.toArray := by
        simp [Memory.write, hmod]
      rw [putAll?, put?_of_lt hplace, Option.bind_eq_bind, Option.bind_some, hwrite,
        ih _ (by omega), Memory.writeAll]

theorem copy?_eq_some (memory : Memory) (values : List UInt8) {address : Nat}
    (hfits : address + values.length ≤ 4096) :
    copy? memory.cells.toArray address values =
      some (memory.writeAll address values).cells.toArray := by
  have hsum : sum? 64 address values.length = some (address + values.length) :=
    sum?_of_lt (by omega)
  rw [copy?, hsum, Option.bind_eq_bind, Option.bind_some, Vector.size_toArray, if_pos hfits,
    putAll?_eq_some memory values hfits]

theorem load?_loose (program : List UInt8) :
    machine.loose.load? program =
      match machine.load program with
      | .ok after => some (.done, after.loose)
      | .error error => some (.refused error, machine.loose) := by
  rw [LooseMachine.load?, load]
  cases hempty : program.isEmpty with
  | true => rfl
  | false =>
      by_cases hlarge : programLimit < program.length
      · simp [hlarge]
      · have hfits : programStart + program.length ≤ 4096 := by
          have hlimit : programLimit = 3583 := rfl
          have hstart : programStart = 512 := rfl
          omega
        have hcopy : copy? machine.loose.ram programStart program = _ :=
          copy?_eq_some machine.memory program hfits
        simp only [Bool.false_eq_true, if_false, hlarge, hcopy]
        rfl

theorem reset?_loose : machine.loose.reset? = some machine.reset.loose := by
  have hzero : Array.replicate machine.loose.ram.size 0 = Memory.zero.cells.toArray := by
    rw [machine.sized_loose.ram, Memory.zero, Vector.toArray_replicate]
  have hfits : 0 + Memory.font.length ≤ 4096 := by decide
  have hregisters : Array.replicate machine.loose.registers.size (0 : UInt8) =
      (Vector.replicate 16 0).toArray := by
    rw [machine.sized_loose.registers, Vector.toArray_replicate]
  rw [LooseMachine.reset?, hzero, copy?_eq_some _ _ hfits, hregisters,
    machine.sized_loose.display, ← Screen.display_blank]
  rfl

theorem ofNat_sub_one (value : UInt8) :
    UInt8.ofNat (value.toNat - 1) = if value = 0 then 0 else value - 1 := by
  by_cases hzero : value = 0
  · rw [hzero]
    rfl
  · have hpos : 1 ≤ value.toNat := by
      rw [Nat.one_le_iff_ne_zero]
      exact fun hsame => hzero (UInt8.toNat_inj.mp hsame)
    rw [if_neg hzero, UInt8.ofNat_sub hpos, UInt8.ofNat_toNat]
    rfl

theorem tick_loose : machine.loose.tick = machine.tick.loose := by
  simp only [LooseMachine.tick, ofNat_sub_one]
  rfl

theorem memoryReport?_loose (count : Nat) :
    machine.loose.memoryReport? count = some (machine.memoryReport count) := by
  have hbytes : everySecond ((machine.loose.ram.toList.zipIdx.drop programStart).take count) =
      machine.reportedBytes count := rfl
  have hlines : (machine.reportedBytes count).mapM
      (fun (byte, address) => machine.loose.memoryLine? byte address) =
        some ((machine.reportedBytes count).map fun (byte, address) =>
          machine.memoryLine byte address) := by
    apply mapM_eq_some
    rintro ⟨byte, address⟩ hentry
    have hmem : (byte, address) ∈ machine.memory.toList.zipIdx :=
      List.mem_of_mem_drop (List.mem_of_mem_take (mem_of_mem_everySecond hentry))
    have haddress : address < 4096 := by
      simpa [Memory.length_toList] using (List.mem_zipIdx hmem).2.1
    have hsum : sum? 64 address 1 = some (address + 1) := sum?_of_lt (by omega)
    simp only [LooseMachine.memoryLine?, hsum, Option.bind_eq_bind, Option.bind_some,
      read?_loose]
    rfl
  rw [LooseMachine.memoryReport?, hbytes, hlines]
  rfl

theorem zipIdx_registers :
    machine.loose.registers.toList.zipIdx =
      (List.finRange 16).map fun register => (machine.register register, register.val) := by
  have hlength : machine.loose.registers.toList.length = 16 := machine.sized_loose.registers
  apply List.ext_getElem
  · rw [List.length_zipIdx, hlength, List.length_map, List.length_finRange]
  · intro place _ _
    simp [loose, register]

theorem registerReport_loose : machine.loose.registerReport = machine.registerReport := by
  rw [LooseMachine.registerReport, zipIdx_registers, List.map_map]
  rfl

theorem screenReport?_loose : machine.loose.screenReport? = some machine.screenReport := by
  have hpixel (x y : Nat) (hx : x < 64) (hy : y < 32) :
      machine.loose.pixelChar? x y = some (pixelChar (machine.screen.pixel x y)) := by
    have hproduct : product? 64 y 64 = some (y * 64) := product?_of_lt (by omega)
    have hsum : sum? 64 x (y * 64) = some (x + y * 64) := sum?_of_lt (by omega)
    rw [LooseMachine.pixelChar?, hproduct, Option.bind_eq_bind, Option.bind_some, hsum,
      Option.bind_some, display_loose, Screen.getElem?_display _ hx hy]
    rfl
  have hrows : (List.range 32).mapM (fun y => do
      return String.ofList (← (List.range 64).mapM fun x => machine.loose.pixelChar? x y) ++ "\n") =
        some ((List.range 32).map fun y => machine.screenLine y ++ "\n") := by
    apply mapM_eq_some
    intro y hy
    rw [mapM_eq_some fun x hx => hpixel x y (List.mem_range.mp hx) (List.mem_range.mp hy)]
    rfl
  rw [LooseMachine.screenReport?, hrows]
  rfl

theorem join_map_ite {α : Type} (entries : List α) (keep : α → Bool) (text : α → String) :
    String.join (entries.map fun entry => if keep entry then text entry else "") =
      String.join ((entries.filter keep).map text) := by
  induction entries with
  | nil => rfl
  | cons entry rest ih =>
      rw [List.map_cons, String.join_cons, ih, List.filter_cons]
      cases keep entry with
      | true => simp
      | false => simp

theorem keyText?_loose (key : Key) :
    machine.loose.keyText? key.val =
      some (if machine.keypad.isDown key.val then key.text else "") := by
  rw [LooseMachine.keyText?, isDown?_loose, toNat_ofNat_nibble]
  rfl

theorem keyReport?_loose : machine.loose.keyReport? = some machine.keyReport := by
  have hnames : (List.range 16).mapM machine.loose.keyText? =
      some ((List.finRange 16).map fun key : Key =>
        if machine.keypad.isDown key.val then key.text else "") := by
    rw [← List.map_coe_finRange_eq_range, List.mapM_map]
    exact mapM_eq_some fun key _ => machine.keyText?_loose key
  rw [LooseMachine.keyReport?, keyReport]
  by_cases hdown : machine.loose.keys > 0
  · rw [if_pos hdown, if_pos (machine.keys_pos_iff.mp hdown), hnames, Keypad.down,
      ← join_map_ite]
    rfl
  · rw [if_neg hdown, if_neg fun hany => hdown (machine.keys_pos_iff.mpr hany)]

end Machine

/-! ## Calls -/

/-- What can be called. -/
inductive Call where
  | perform (operation : Operation)
  /-- Press or release a key by its number, which may be no key. -/
  | setKey (number : UInt8) (pressed : Bool)
  | isDown (number : UInt8)
  | anyDown
  | firstDown
  | pixel (x y : Nat)
  | read (address : Nat)
  | write (address : Nat) (value : UInt8)
  | memoryReport (count : Nat)
  | registerReport
  | screenReport
  | keyReport

/-- What is answered. -/
inductive Reply where
  | outcome (outcome : Outcome)
  | bit (on : Bool)
  | byte (value : UInt8)
  | key (number : Option UInt8)
  | text (text : String)

namespace Interpreter

variable {σ : Type} [RandomSource σ]

def serve (interpreter : Interpreter σ) : Call → Reply × Interpreter σ
  | .perform operation =>
    let (outcome, after) := interpreter.perform operation
    (.outcome outcome, after)
  | .setKey number pressed =>
    (.outcome .done, interpreter.onMachine (·.setKey number.toNat pressed))
  | .isDown number => (.bit (interpreter.machine.keypad.isDown number.toNat), interpreter)
  | .anyDown => (.bit interpreter.machine.keypad.anyDown, interpreter)
  | .firstDown =>
    (.key (interpreter.machine.keypad.first?.map fun key => UInt8.ofNat key.val), interpreter)
  | .pixel x y => (.bit (interpreter.machine.screen.pixel x y), interpreter)
  | .read address => (.byte (interpreter.machine.memory.read address), interpreter)
  | .write address value =>
    (.outcome .done, interpreter.onMachine fun machine =>
      { machine with memory := machine.memory.write address value })
  | .memoryReport count => (.text (interpreter.machine.memoryReport count), interpreter)
  | .registerReport => (.text interpreter.machine.registerReport, interpreter)
  | .screenReport => (.text interpreter.machine.screenReport, interpreter)
  | .keyReport => (.text interpreter.machine.keyReport, interpreter)

def serveAll (interpreter : Interpreter σ) : List Call → List Reply × Interpreter σ
  | [] => ([], interpreter)
  | call :: rest =>
    let (reply, after) := interpreter.serve call
    let (replies, last) := after.serveAll rest
    (reply :: replies, last)

end Interpreter

namespace LooseInterpreter

variable {σ : Type} [RandomSource σ]

/-- Go on executing after a step with the flow `last`. -/
def runOn? (last : Flow) :
    Nat → LooseInterpreter σ → Option (Except Fault Flow × LooseInterpreter σ)
  | 0, loose => some (.ok last, loose)
  | count + 1, loose => do
    match ← loose.step? with
    | (.ok flow, after) => runOn? flow count after
    | (.error fault, after) => return (.error fault, after)

def perform? (loose : LooseInterpreter σ) : Operation → Option (Outcome × LooseInterpreter σ)
  | .load program => do
    let (outcome, machine) ← loose.machine.load? program
    return (outcome, { loose with machine })
  | .reset => do
    return (.done, { loose with machine := ← loose.machine.reset? })
  | .step => do
    let (answer, after) ← loose.step?
    return (.ofStep answer, after)
  | .run count => do
    let (answer, after) ← loose.runOn? .plain count
    return (.ofStep answer, after)
  | .tick => some (.done, { loose with machine := loose.machine.tick })
  | .setKey key pressed => do
    return (.done, { loose with
      machine := ← loose.machine.setKey? (UInt8.ofNat key.val) pressed })
  | .releaseKeys => some (.done, { loose with machine := { loose.machine with keys := 0 } })

def serve? (loose : LooseInterpreter σ) : Call → Option (Reply × LooseInterpreter σ)
  | .perform operation => do
    let (outcome, after) ← loose.perform? operation
    return (.outcome outcome, after)
  | .setKey number pressed => do
    return (.outcome .done, { loose with machine := ← loose.machine.setKey? number pressed })
  | .isDown number => do return (.bit (← loose.machine.isDown? number), loose)
  | .anyDown => some (.bit (loose.machine.keys > 0), loose)
  | .firstDown => some (.key loose.machine.firstDown, loose)
  | .pixel x y => do return (.bit (← loose.machine.pixel? x y), loose)
  | .read address => do return (.byte (← loose.machine.read? address), loose)
  | .write address value => do
    return (.outcome .done, { loose with machine := ← loose.machine.write? address value })
  | .memoryReport count => do return (.text (← loose.machine.memoryReport? count), loose)
  | .registerReport => some (.text loose.machine.registerReport, loose)
  | .screenReport => do return (.text (← loose.machine.screenReport?), loose)
  | .keyReport => do return (.text (← loose.machine.keyReport?), loose)

/-- Serve calls until one has no result. -/
def serveAll? (loose : LooseInterpreter σ) :
    List Call → Option (List Reply × LooseInterpreter σ)
  | [] => some ([], loose)
  | call :: rest => do
    let (reply, after) ← loose.serve? call
    let (replies, last) ← after.serveAll? rest
    return (reply :: replies, last)

end LooseInterpreter

/-! ## Every call has a result -/

namespace Interpreter

variable {σ : Type} [RandomSource σ] (interpreter : Interpreter σ)

theorem runOn?_loose (last : Flow) (count : Nat) :
    interpreter.loose.runOn? last count =
      some ((interpreter.runOn last count).1, (interpreter.runOn last count).2.loose) := by
  induction count generalizing interpreter last with
  | zero => rfl
  | succ count ih =>
      rw [LooseInterpreter.runOn?, step?_loose, runOn]
      generalize interpreter.step = outcome
      obtain ⟨answer, after⟩ := outcome
      cases answer with
      | ok flow => exact ih after flow
      | error fault => rfl

theorem perform?_loose (operation : Operation) :
    interpreter.loose.perform? operation =
      some ((interpreter.perform operation).1, (interpreter.perform operation).2.loose) := by
  cases operation with
  | load program =>
      have hload : interpreter.loose.machine.load? program = _ :=
        interpreter.machine.load?_loose program
      rw [LooseInterpreter.perform?, hload, perform, load]
      cases interpreter.machine.load program with
      | ok after => rfl
      | error error => rfl
  | reset =>
      have hreset : interpreter.loose.machine.reset? = _ := interpreter.machine.reset?_loose
      rw [LooseInterpreter.perform?, hreset]
      rfl
  | step =>
      rw [LooseInterpreter.perform?, step?_loose]
      rfl
  | run count =>
      rw [LooseInterpreter.perform?, runOn?_loose]
      rfl
  | tick =>
      have htick : interpreter.loose.machine.tick = _ := interpreter.machine.tick_loose
      rw [LooseInterpreter.perform?, htick]
      rfl
  | setKey key pressed =>
      have hkey : interpreter.loose.machine.setKey? (UInt8.ofNat key.val) pressed = _ :=
        interpreter.machine.setKey?_loose (UInt8.ofNat key.val) pressed
      rw [LooseInterpreter.perform?, hkey, toNat_ofNat_nibble]
      rfl
  | releaseKeys => rfl

/-- Every call has the result that it has on the interpreter. -/
theorem serve?_loose (call : Call) :
    interpreter.loose.serve? call =
      some ((interpreter.serve call).1, (interpreter.serve call).2.loose) := by
  have hmachine : interpreter.loose.machine = interpreter.machine.loose := rfl
  cases call with
  | perform operation =>
      rw [LooseInterpreter.serve?, perform?_loose]
      rfl
  | setKey number pressed =>
      rw [LooseInterpreter.serve?, hmachine, Machine.setKey?_loose]
      rfl
  | isDown number =>
      rw [LooseInterpreter.serve?, hmachine, Machine.isDown?_loose]
      rfl
  | anyDown =>
      have hany : decide (interpreter.machine.loose.keys > 0) =
          interpreter.machine.keypad.anyDown := by
        rw [Bool.eq_iff_iff, decide_eq_true_eq, Machine.keys_pos_iff]
      rw [LooseInterpreter.serve?, hmachine, hany]
      rfl
  | firstDown =>
      rw [LooseInterpreter.serve?, hmachine, Machine.firstDown_loose]
      rfl
  | pixel x y =>
      rw [LooseInterpreter.serve?, hmachine, Machine.pixel?_loose]
      rfl
  | read address =>
      rw [LooseInterpreter.serve?, hmachine, Machine.read?_loose]
      rfl
  | write address value =>
      rw [LooseInterpreter.serve?, hmachine, Machine.write?_loose]
      rfl
  | memoryReport count =>
      rw [LooseInterpreter.serve?, hmachine, Machine.memoryReport?_loose]
      rfl
  | registerReport =>
      rw [LooseInterpreter.serve?, hmachine, Machine.registerReport_loose]
      rfl
  | screenReport =>
      rw [LooseInterpreter.serve?, hmachine, Machine.screenReport?_loose]
      rfl
  | keyReport =>
      rw [LooseInterpreter.serve?, hmachine, Machine.keyReport?_loose]
      rfl

theorem serveAll?_loose (calls : List Call) :
    interpreter.loose.serveAll? calls =
      some ((interpreter.serveAll calls).1, (interpreter.serveAll calls).2.loose) := by
  induction calls generalizing interpreter with
  | nil => rfl
  | cons call rest ih =>
      rw [LooseInterpreter.serveAll?, serve?_loose]
      simp only [Option.bind_eq_bind, Option.bind_some, ih]
      rfl

end Interpreter

namespace LooseInterpreter

variable {σ : Type} [RandomSource σ]

/-- What is promised about calls. -/
structure NeverTraps (loose : LooseInterpreter σ) : Prop where
  /-- Every call has a result, and the arrays keep their sizes. -/
  call : ∀ call : Call, ∃ reply after, loose.serve? call = some (reply, after) ∧
    after.machine.Sized
  /-- So has every session, whatever the earlier calls have left behind. -/
  session : ∀ calls : List Call, ∃ replies last,
    loose.serveAll? calls = some (replies, last) ∧ last.machine.Sized
  /-- The results are those of an interpreter in the same state. -/
  agrees : ∃ interpreter : Interpreter σ, interpreter.loose = loose ∧
    ∀ calls : List Call, loose.serveAll? calls =
      some ((interpreter.serveAll calls).1, (interpreter.serveAll calls).2.loose)

/-- No access is outside of its array and no number too wide, in any state whose arrays
have the sizes of the machine. -/
theorem neverTraps {loose : LooseInterpreter σ} (hsized : loose.machine.Sized) :
    NeverTraps loose := by
  obtain ⟨machine, hmachine⟩ := LooseMachine.exists_loose_eq hsized
  obtain ⟨interpreter, rfl⟩ : ∃ interpreter : Interpreter σ, interpreter.loose = loose :=
    ⟨⟨machine, loose.source, loose.limit⟩, by rw [Interpreter.loose, hmachine]⟩
  constructor
  · intro call
    exact ⟨_, _, interpreter.serve?_loose call, Machine.sized_loose _⟩
  · intro calls
    exact ⟨_, _, interpreter.serveAll?_loose calls, Machine.sized_loose _⟩
  · exact ⟨interpreter, rfl, interpreter.serveAll?_loose⟩

/-- Counter and index are far outside of memory, all registers are full, and the word
that wraps around the end of memory jumps beyond it. -/
theorem neverTraps_farOutside :
    let loose : LooseInterpreter CountingSource := {
      machine := {
        ram := (Array.replicate 4096 0xFF).setIfInBounds 4095 0xBF
        display := Array.replicate 2048 true
        registers := Array.replicate 16 0xFF
        keys := 0xFFFF
        index := 0xFFFF
        counter := 0xFFFF
        delay := 0xFF
        sound := 0
        stack := #[0xFFFF] }
      source := ⟨0, 1⟩
      limit := some 0 }
    loose.machine.Sized ∧
      (∃ reply after, loose.serve? (.perform .step) = some (reply, after) ∧
        after.machine.Sized) ∧
      (∃ replies last, loose.serveAll? [.perform (.run 5), .setKey 0xFF true, .pixel 100 100,
        .write 0xFFFF 1, .memoryReport 10000] = some (replies, last) ∧ last.machine.Sized) := by
  intro loose
  have hsized : loose.machine.Sized := by
    constructor
    · simp [loose]
    · simp [loose]
    · simp [loose]
  have hnever := neverTraps hsized
  exact ⟨hsized, hnever.call _, hnever.session _⟩

end LooseInterpreter
end ChipEight
