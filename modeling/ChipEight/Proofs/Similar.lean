import Mathlib
import ChipEight.Operation
import ChipEight.Proofs.Memory

/-!
# Twelve bits of an address

The program counter, the index register and the return addresses have sixteen
bits, but nothing that can be observed depends on the upper four.  Two machines
are *similar* when these three agree modulo the size of memory and everything
else is equal.  Similarity is kept by every instruction, by every operation
and so by whole sessions, and similar interpreters answer alike
(`similar_performAll`).

The proofs follow the parts of the machine: first what reads and writes one
field, then the instructions, the step and the operations.
-/

namespace ChipEight

/-! ## Addresses of sixteen bits -/

/-- Two words of sixteen bits that name one place in memory. -/
def SamePlace (first second : UInt16) : Prop :=
  Memory.SameAddress first.toNat second.toNat

namespace SamePlace

instance (first second : UInt16) : Decidable (SamePlace first second) :=
  inferInstanceAs (Decidable (first.toNat % 4096 = second.toNat % 4096))

theorem refl (address : UInt16) : SamePlace address address := by
  rfl

/-- The overflow at `2 ^ 16` is one at `2 ^ 12` too. -/
theorem add {first second : UInt16} (hsame : SamePlace first second) (offset : UInt16) :
    SamePlace (first + offset) (second + offset) := by
  unfold SamePlace Memory.SameAddress at *
  rw [UInt16.toNat_add, UInt16.toNat_add]
  omega

theorem sub {first second : UInt16} (hsame : SamePlace first second) (offset : UInt16) :
    SamePlace (first - offset) (second - offset) := by
  unfold SamePlace Memory.SameAddress at *
  have hbound := offset.toNat_lt
  rw [UInt16.toNat_sub, UInt16.toNat_sub]
  omega

end SamePlace

/-- Equally many return addresses that name the same places. -/
def SamePlaces (first second : Array UInt16) : Prop :=
  List.Forall₂ SamePlace first.toList second.toList

namespace SamePlaces

theorem size_eq {first second : Array UInt16} (hsame : SamePlaces first second) :
    first.size = second.size := by
  have hlength : first.toList.length = second.toList.length := List.Forall₂.length_eq hsame
  rwa [Array.length_toList, Array.length_toList] at hlength

theorem push {first second : Array UInt16} (hsame : SamePlaces first second)
    {upper lower : UInt16} (htop : SamePlace upper lower) :
    SamePlaces (first.push upper) (second.push lower) := by
  unfold SamePlaces
  rw [Array.toList_push, Array.toList_push]
  exact List.rel_append hsame (.cons htop .nil)

/-- Both stacks are empty, or both have a top and a rest that correspond. -/
theorem cases_top {first second : Array UInt16} (hsame : SamePlaces first second) :
    (first.back? = none ∧ second.back? = none) ∨
      ∃ upper lower, first.back? = some upper ∧ second.back? = some lower ∧
        SamePlace upper lower ∧ SamePlaces first.pop second.pop := by
  unfold SamePlaces at *
  rw [← Array.getLast?_toList, ← Array.getLast?_toList, Array.toList_pop, Array.toList_pop]
  generalize first.toList = firstList, second.toList = secondList at hsame ⊢
  -- The top is at the far end of the lists, so the induction goes past all below.
  induction hsame with
  | nil => exact .inl ⟨rfl, rfl⟩
  | cons hhead htail ih =>
      cases htail with
      | nil => exact .inr ⟨_, _, rfl, rfl, hhead, .nil⟩
      | cons hnext hrest =>
          rcases ih with ⟨hnone, -⟩ | ⟨upper, lower, hupper, hlower, htop, hbelow⟩
          · simp at hnone
          · exact .inr ⟨upper, lower, hupper, hlower, htop, .cons hhead hbelow⟩

end SamePlaces

/-! ## Machines and answers -/

/-- Machines that differ in the upper four bits of addresses at most. -/
structure Machine.Similar (left right : Machine) : Prop where
  memory : left.memory = right.memory
  screen : left.screen = right.screen
  keypad : left.keypad = right.keypad
  registers : left.registers = right.registers
  index : SamePlace left.index right.index
  counter : SamePlace left.counter right.counter
  delay : left.delay = right.delay
  sound : left.sound = right.sound
  stack : SamePlaces left.stack right.stack

/-- Similar machines with one limit and one random source. -/
structure Interpreter.Similar {σ : Type} (left right : Interpreter σ) : Prop where
  machine : left.machine.Similar right.machine
  source : left.source = right.source
  limit : left.limit = right.limit

/-- Faults of one kind at one place. -/
inductive Fault.Similar : Fault → Fault → Prop where
  | stackUnderflow {first second : UInt16} (hplace : SamePlace first second) :
    Similar (.stackUnderflow first) (.stackUnderflow second)
  | stackOverflow {first second : UInt16} (hplace : SamePlace first second) :
    Similar (.stackOverflow first) (.stackOverflow second)

/-- Equal flows or similar faults. -/
inductive SimilarAnswer : Except Fault Flow → Except Fault Flow → Prop where
  | flow (flow : Flow) : SimilarAnswer (.ok flow) (.ok flow)
  | fault {first second : Fault} (hfault : first.Similar second) :
    SimilarAnswer (.error first) (.error second)

/-- Answers of one kind, with equal flows or similar faults. -/
inductive Outcome.Similar : Outcome → Outcome → Prop where
  | done : Similar .done .done
  | refused (error : LoadError) : Similar (.refused error) (.refused error)
  | flow (flow : Flow) : Similar (.flow flow) (.flow flow)
  | fault {first second : Fault} (hfault : first.Similar second) :
    Similar (.fault first) (.fault second)

theorem SimilarAnswer.ofStep {first second : Except Fault Flow}
    (hanswer : SimilarAnswer first second) :
    (Outcome.ofStep first).Similar (Outcome.ofStep second) := by
  cases hanswer with
  | flow flow => exact .flow flow
  | fault hfault => exact .fault hfault

/-! ## Instructions -/

namespace Machine.Similar

variable {left right : Machine}

theorem register (hsimilar : left.Similar right) (x : Register) :
    left.register x = right.register x := by
  rw [Machine.register, Machine.register, hsimilar.registers]

/-- The registers are filled with the same values on both sides. -/
theorem fill (hsimilar : left.Similar right) {first second : Vector UInt8 16}
    (hvalues : first = second) :
    ({ left with registers := first } : Machine).Similar { right with registers := second } :=
  { hsimilar with registers := hvalues }

theorem setRegister (hsimilar : left.Similar right) (register : Register) {a b : UInt8}
    (hvalue : a = b) : (left.setRegister register a).Similar (right.setRegister register b) :=
  hsimilar.fill (by rw [hsimilar.registers, hvalue])

theorem setFlag (hsimilar : left.Similar right) {a b : Bool} (hflag : a = b) :
    (left.setFlag a).Similar (right.setFlag b) :=
  hsimilar.setRegister flagRegister (by rw [hflag])

theorem setWithFlag (hsimilar : left.Similar right) (x : Register) {a b : UInt8}
    {first second : Bool} (hvalue : a = b) (hflag : first = second) :
    (left.setWithFlag x a first).Similar (right.setWithFlag x b second) :=
  (hsimilar.setFlag hflag).setRegister x hvalue

theorem advance (hsimilar : left.Similar right) : left.advance.Similar right.advance :=
  { hsimilar with counter := hsimilar.counter.add 2 }

theorem skipIf (hsimilar : left.Similar right) {a b : Bool} (hcondition : a = b) :
    (left.skipIf a).Similar (right.skipIf b) := by
  rw [hcondition]
  cases b with
  | false => exact hsimilar
  | true => exact hsimilar.advance

/-- The jumps put one target on both sides. -/
theorem goTo (hsimilar : left.Similar right) {first second : UInt16}
    (hplace : SamePlace first second) :
    ({ left with counter := first } : Machine).Similar { right with counter := second } :=
  { hsimilar with counter := hplace }

theorem point (hsimilar : left.Similar right) {first second : UInt16}
    (hplace : SamePlace first second) :
    ({ left with index := first } : Machine).Similar { right with index := second } :=
  { hsimilar with index := hplace }

/-- Writing at a fixed address. -/
theorem store (hsimilar : left.Similar right) (address : Nat) (values : List UInt8) :
    ({ left with memory := left.memory.writeAll address values } : Machine).Similar
      { right with memory := right.memory.writeAll address values } :=
  { hsimilar with memory := by rw [hsimilar.memory] }

/-- Writing at the index register fills the same cells. -/
theorem writeAll (hsimilar : left.Similar right) {first second : List UInt8}
    (hvalues : first = second) :
    ({ left with memory := left.memory.writeAll left.index.toNat first } : Machine).Similar
      { right with memory := right.memory.writeAll right.index.toNat second } :=
  { hsimilar with
    memory := by
      rw [hsimilar.memory, hvalues]
      exact Memory.SameAddress.writeAll hsimilar.index _ _ }

theorem drawSprite (hsimilar : left.Similar right) {x x' y y' : UInt8} (hx : x = x') (hy : y = y')
    (height : Nat) : (left.drawSprite x y height).Similar (right.drawSprite x' y' height) := by
  have hsprite : left.memory.readAll left.index.toNat height =
      right.memory.readAll right.index.toNat height := by
    rw [hsimilar.memory]
    exact Memory.SameAddress.readAll hsimilar.index _ _
  unfold Machine.drawSprite
  rw [hsprite, hsimilar.screen, hx, hy]
  have hdrawn (screen : Screen) :
      ({ left with screen } : Machine).Similar { right with screen } :=
    { hsimilar with screen := rfl }
  exact (hdrawn _).setFlag rfl

theorem storeRegisters (hsimilar : left.Similar right) (x : Register) :
    (left.storeRegisters x).Similar (right.storeRegisters x) := by
  have hvalues : left.registers.toList.take (x.val + 1) =
      right.registers.toList.take (x.val + 1) := by
    rw [hsimilar.registers]
  exact (hsimilar.writeAll hvalues).point (hsimilar.index.add _)

theorem loadRegisters (hsimilar : left.Similar right) (x : Register) :
    (left.loadRegisters x).Similar (right.loadRegisters x) := by
  have hread (register : Register) :
      left.memory.read (left.index.toNat + register.val) =
        right.memory.read (right.index.toNat + register.val) := by
    rw [hsimilar.memory]
    exact Memory.SameAddress.read (Memory.SameAddress.add hsimilar.index _) _
  have hvalues :
      (Vector.ofFn fun register : Register =>
        if register ≤ x then left.memory.read (left.index.toNat + register.val)
        else left.register register) =
      Vector.ofFn fun register : Register =>
        if register ≤ x then right.memory.read (right.index.toNat + register.val)
        else right.register register := by
    simp only [hread, hsimilar.register]
  exact (hsimilar.fill hvalues).point (hsimilar.index.add _)

theorem returnFromCall (hsimilar : left.Similar right) :
    SimilarAnswer left.returnFromCall.1 right.returnFromCall.1 ∧
      left.returnFromCall.2.Similar right.returnFromCall.2 := by
  unfold Machine.returnFromCall
  rcases hsimilar.stack.cases_top with ⟨hleft, hright⟩ | ⟨upper, lower, hleft, hright, htop, hrest⟩
  · rw [hleft, hright]
    exact ⟨.fault (.stackUnderflow hsimilar.counter), hsimilar⟩
  · rw [hleft, hright]
    exact ⟨.flow .jump, { hsimilar with counter := htop, stack := hrest }⟩

theorem callAt (hsimilar : left.Similar right) (limit : Option Nat) (target : UInt16) :
    SimilarAnswer (left.callAt limit target).1 (right.callAt limit target).1 ∧
      (left.callAt limit target).2.Similar (right.callAt limit target).2 := by
  have hlimit : left.atLimit limit = right.atLimit limit := by
    unfold Machine.atLimit
    rw [hsimilar.stack.size_eq]
  unfold Machine.callAt
  rw [hlimit]
  -- The limit looks at the depth only, so both calls fail or both succeed.
  cases right.atLimit limit with
  | true => exact ⟨.fault (.stackOverflow hsimilar.counter), hsimilar⟩
  | false =>
      exact ⟨.flow .jump, {
        hsimilar with
        counter := .refl target
        stack := hsimilar.stack.push hsimilar.counter }⟩

theorem readKey (hsimilar : left.Similar right) (x : Register) :
    SimilarAnswer (left.readKey x).1 (right.readKey x).1 ∧
      (left.readKey x).2.Similar (right.readKey x).2 := by
  have hfirst : left.keypad.first? = right.keypad.first? := by
    rw [hsimilar.keypad]
  unfold Machine.readKey
  rw [hfirst]
  cases right.keypad.first? with
  | none => exact ⟨.flow .keyWait, hsimilar.goTo (hsimilar.counter.sub 2)⟩
  | some key => exact ⟨.flow .plain, hsimilar.setRegister x rfl⟩

/-- Every instruction keeps similarity. -/
theorem execute (hsimilar : left.Similar right) (limit : Option Nat) (noise : UInt8)
    (instruction : Instruction) :
    SimilarAnswer (left.execute limit noise instruction).1
        (right.execute limit noise instruction).1 ∧
      (left.execute limit noise instruction).2.Similar
        (right.execute limit noise instruction).2 := by
  have hregister := hsimilar.register
  cases instruction with
  | clearScreen => exact ⟨.flow .draw, { hsimilar with screen := rfl }⟩
  | ret => exact hsimilar.returnFromCall
  | jump target => exact ⟨.flow .jump, hsimilar.goTo (.refl _)⟩
  | call target => exact hsimilar.callAt limit _
  | skipIfEqual x value => exact ⟨.flow .plain, hsimilar.skipIf (by rw [hregister])⟩
  | skipUnlessEqual x value => exact ⟨.flow .plain, hsimilar.skipIf (by rw [hregister])⟩
  | skipIfSame x y => exact ⟨.flow .plain, hsimilar.skipIf (by rw [hregister, hregister])⟩
  | load x value => exact ⟨.flow .plain, hsimilar.setRegister x rfl⟩
  | add x value => exact ⟨.flow .plain, hsimilar.setRegister x (by rw [hregister])⟩
  | copy x y => exact ⟨.flow .plain, hsimilar.setRegister x (hregister y)⟩
  | orWith x y => exact ⟨.flow .plain, hsimilar.setRegister x (by rw [hregister, hregister])⟩
  | andWith x y => exact ⟨.flow .plain, hsimilar.setRegister x (by rw [hregister, hregister])⟩
  | xorWith x y => exact ⟨.flow .plain, hsimilar.setRegister x (by rw [hregister, hregister])⟩
  | addRegister x y =>
      exact ⟨.flow .plain, hsimilar.setWithFlag x (by rw [hregister, hregister])
        (by rw [hregister, hregister])⟩
  | subtract x y =>
      exact ⟨.flow .plain, hsimilar.setWithFlag x (by rw [hregister, hregister])
        (by rw [hregister, hregister])⟩
  | shiftRight x =>
      exact ⟨.flow .plain, hsimilar.setWithFlag x (by rw [hregister]) (by rw [hregister])⟩
  | subtractFrom x y =>
      exact ⟨.flow .plain, hsimilar.setWithFlag x (by rw [hregister, hregister])
        (by rw [hregister, hregister])⟩
  | shiftLeft x =>
      exact ⟨.flow .plain, hsimilar.setWithFlag x (by rw [hregister]) (by rw [hregister])⟩
  | skipUnlessSame x y => exact ⟨.flow .plain, hsimilar.skipIf (by rw [hregister, hregister])⟩
  | setIndex address => exact ⟨.flow .plain, hsimilar.point (.refl _)⟩
  | jumpOffset target =>
      -- The target may lie beyond memory, but it is one target on both sides.
      refine ⟨.flow .jump, hsimilar.goTo ?_⟩
      rw [hregister]
      exact .refl _
  | random x mask => exact ⟨.flow .plain, hsimilar.setRegister x rfl⟩
  | draw x y height =>
      exact ⟨.flow .draw, hsimilar.drawSprite (hregister x) (hregister y) height.val⟩
  | skipIfDown x =>
      exact ⟨.flow .plain, hsimilar.skipIf (by rw [hregister, hsimilar.keypad])⟩
  | skipUnlessDown x =>
      exact ⟨.flow .plain, hsimilar.skipIf (by rw [hregister, hsimilar.keypad])⟩
  | readDelay x => exact ⟨.flow .plain, hsimilar.setRegister x hsimilar.delay⟩
  | awaitKey x => exact hsimilar.readKey x
  | setDelay x => exact ⟨.flow .plain, { hsimilar with delay := hregister x }⟩
  | setSound x => exact ⟨.flow .sound, { hsimilar with sound := hregister x }⟩
  | addIndex x =>
      refine ⟨.flow .plain, hsimilar.point ?_⟩
      rw [hregister]
      exact hsimilar.index.add _
  | pointAtGlyph x =>
      refine ⟨.flow .plain, hsimilar.point ?_⟩
      rw [hregister]
      exact .refl _
  | storeDecimal x => exact ⟨.flow .plain, hsimilar.writeAll (by rw [hregister])⟩
  | storeRegisters x => exact ⟨.flow .plain, hsimilar.storeRegisters x⟩
  | loadRegisters x => exact ⟨.flow .plain, hsimilar.loadRegisters x⟩

/-- Both bytes of the next word are fetched modulo the size of memory. -/
theorem currentWord_eq (hsimilar : left.Similar right) : left.currentWord = right.currentWord := by
  -- The second byte has an address of its own, which may wrap where the first
  -- does not.
  have hnext := Memory.SameAddress.add hsimilar.counter 1
  unfold Machine.currentWord
  rw [hsimilar.memory, Memory.SameAddress.read hsimilar.counter, hnext.read]

/-! ## Operations on the machine -/

theorem tick (hsimilar : left.Similar right) : left.tick.Similar right.tick :=
  { hsimilar with
    delay := by
      simp only [Machine.tick]
      rw [hsimilar.delay]
    sound := by
      simp only [Machine.tick]
      rw [hsimilar.sound] }

theorem setKey (hsimilar : left.Similar right) (number : Nat) (pressed : Bool) :
    (left.setKey number pressed).Similar (right.setKey number pressed) :=
  { hsimilar with
    keypad := by
      simp only [Machine.setKey]
      rw [hsimilar.keypad] }

theorem releaseKeys (hsimilar : left.Similar right) :
    left.releaseKeys.Similar right.releaseKeys :=
  { hsimilar with keypad := rfl }

end Machine.Similar

/-- Machines after power-on are similar, since they are equal. -/
theorem Machine.Similar.refl (machine : Machine) : machine.Similar machine where
  memory := rfl
  screen := rfl
  keypad := rfl
  registers := rfl
  index := .refl _
  counter := .refl _
  delay := rfl
  sound := rfl
  stack := List.forall₂_same.mpr fun address _ => .refl address

/-! ## Operations on the interpreter -/

namespace Interpreter.Similar

variable {σ : Type} {left right : Interpreter σ}

/-- A change of the machine that keeps similarity. -/
theorem onMachine (hsimilar : left.Similar right) (change : Machine → Machine)
    (hchange : (change left.machine).Similar (change right.machine)) :
    (left.onMachine change).Similar (right.onMachine change) :=
  { hsimilar with machine := hchange }

theorem reset (hsimilar : left.Similar right) : left.reset.Similar right.reset :=
  hsimilar.onMachine Machine.reset (by
    rw [Machine.reset_eq_initial, Machine.reset_eq_initial]
    exact .refl _)

variable [RandomSource σ]

/-- A step keeps similarity. -/
theorem step (hsimilar : left.Similar right) :
    SimilarAnswer left.step.1 right.step.1 ∧ left.step.2.Similar right.step.2 := by
  unfold Interpreter.step
  rw [hsimilar.machine.currentWord_eq, hsimilar.source, hsimilar.limit]
  cases right.machine.currentWord.decode with
  | none => exact ⟨.flow .plain, { machine := hsimilar.machine.advance, source := rfl, limit := rfl }⟩
  | some instruction =>
      obtain ⟨hanswer, hmachine⟩ := hsimilar.machine.advance.execute right.limit
        (noiseFor right.source instruction).1 instruction
      exact ⟨hanswer, { machine := hmachine, source := rfl, limit := rfl }⟩

/-- Several steps keep similarity, also when they end early. -/
theorem runOn (hsimilar : left.Similar right) (last : Flow) (count : Nat) :
    SimilarAnswer (left.runOn last count).1 (right.runOn last count).1 ∧
      (left.runOn last count).2.Similar (right.runOn last count).2 := by
  induction count generalizing left right last with
  | zero => exact ⟨.flow last, hsimilar⟩
  | succ count ih =>
      obtain ⟨hanswer, hafter⟩ := hsimilar.step
      rw [Interpreter.runOn, Interpreter.runOn]
      generalize left.step = first, right.step = second at hanswer hafter ⊢
      obtain ⟨firstAnswer, firstAfter⟩ := first
      obtain ⟨secondAnswer, secondAfter⟩ := second
      cases hanswer with
      | flow flow => exact ih hafter flow
      | fault hfault => exact ⟨.fault hfault, hafter⟩

/-- A program is loaded on both sides or refused on both sides, for the same
reason. -/
theorem load (hsimilar : left.Similar right) (program : List UInt8) :
    (left.perform (.load program)).1.Similar (right.perform (.load program)).1 ∧
      (left.perform (.load program)).2.Similar (right.perform (.load program)).2 := by
  simp only [Interpreter.perform, Interpreter.load, Machine.load]
  by_cases hempty : program.isEmpty
  · rw [if_pos hempty, if_pos hempty]
    exact ⟨.refused _, hsimilar⟩
  · rw [if_neg hempty, if_neg hempty]
    by_cases hlarge : programLimit < program.length
    · rw [if_pos hlarge, if_pos hlarge]
      exact ⟨.refused _, hsimilar⟩
    · rw [if_neg hlarge, if_neg hlarge]
      exact ⟨.done, {
        machine := hsimilar.machine.store programStart program
        source := hsimilar.source
        limit := hsimilar.limit }⟩

/-- Every operation keeps similarity and has similar answers. -/
theorem perform (hsimilar : left.Similar right) (operation : Operation) :
    (left.perform operation).1.Similar (right.perform operation).1 ∧
      (left.perform operation).2.Similar (right.perform operation).2 := by
  cases operation with
  | load program => exact hsimilar.load program
  | reset => exact ⟨.done, hsimilar.reset⟩
  | step => exact ⟨hsimilar.step.1.ofStep, hsimilar.step.2⟩
  | run count => exact ⟨(hsimilar.runOn .plain count).1.ofStep, (hsimilar.runOn .plain count).2⟩
  | tick => exact ⟨.done, hsimilar.onMachine Machine.tick hsimilar.machine.tick⟩
  | setKey key pressed =>
      exact ⟨.done, hsimilar.onMachine (·.setKey key.val pressed)
        (hsimilar.machine.setKey key.val pressed)⟩
  | releaseKeys =>
      exact ⟨.done, hsimilar.onMachine Machine.releaseKeys hsimilar.machine.releaseKeys⟩

/-- Whole sessions keep similarity and have similar answers. -/
theorem performAll (hsimilar : left.Similar right) (operations : List Operation) :
    List.Forall₂ Outcome.Similar (left.performAll operations).1 (right.performAll operations).1 ∧
      (left.performAll operations).2.Similar (right.performAll operations).2 := by
  induction operations generalizing left right with
  | nil => exact ⟨.nil, hsimilar⟩
  | cons operation rest ih =>
      obtain ⟨houtcome, hafter⟩ := hsimilar.perform operation
      obtain ⟨houtcomes, hlast⟩ := ih hafter
      exact ⟨.cons houtcome houtcomes, hlast⟩

end Interpreter.Similar

namespace Interpreter

variable {σ : Type} [RandomSource σ]

/-- The upper four bits of the program counter, the index register and the
return addresses cannot be observed: from similar interpreters, every session
leads to similar interpreters after each operation, and the answers are similar
one by one. -/
theorem similar_performAll {left right : Interpreter σ} (hsimilar : left.Similar right)
    (operations : List Operation) :
    List.Forall₂ Outcome.Similar (left.performAll operations).1 (right.performAll operations).1 ∧
      ∀ count, (left.performAll (operations.take count)).2.Similar
        (right.performAll (operations.take count)).2 :=
  ⟨(hsimilar.performAll operations).1,
    fun count => (hsimilar.performAll (operations.take count)).2⟩

/-- A program that adds to the index register, calls itself and runs into the
limit of the stack, once with other upper bits in the program counter, the index
register and a return address. -/
theorem similar_performAll_overflow :
    let operations : List Operation := [.load [0xF0, 0x1E, 0x22, 0x00], .run 9, .tick, .step]
    let machine : Machine := { Machine.initial with index := 0x0FFF, stack := #[0x0300] }
    let shifted : Machine :=
      { machine with counter := 0x1200, index := 0xAFFF, stack := #[0xF300] }
    let left : Interpreter CountingSource := ⟨machine, ⟨0, 1⟩, some 2⟩
    let right : Interpreter CountingSource := ⟨shifted, ⟨0, 1⟩, some 2⟩
    left.Similar right ∧
      List.Forall₂ Outcome.Similar (left.performAll operations).1
        (right.performAll operations).1 ∧
      ∀ count, (left.performAll (operations.take count)).2.Similar
        (right.performAll (operations.take count)).2 := by
  intro operations machine shifted left right
  have hsimilar : left.Similar right := {
    machine := {
      Machine.Similar.refl machine with
      index := show SamePlace 0x0FFF 0xAFFF by decide
      counter := show SamePlace 0x0200 0x1200 by decide
      stack := .cons (show SamePlace 0x0300 0xF300 by decide) .nil }
    source := rfl
    limit := rfl }
  exact ⟨hsimilar, similar_performAll hsimilar operations⟩

end Interpreter
end ChipEight
