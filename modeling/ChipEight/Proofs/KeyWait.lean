import Mathlib
import ChipEight.Proofs.Executed
import ChipEight.Proofs.Keypad
import ChipEight.Proofs.Stack

/-!
# Waiting for a key

The instruction that waits for a key does not block.  As long as no key is down it
steps back to its own word, so that the next step executes it again, and the machine
stays as it is.  Whatever happens meanwhile without a key being pressed, only the
timers run down.  The first step with a key down reads the lowest such key and goes on
behind the instruction (`awaitsKey`).

Stepping back undoes the advance wherever the program counter is, since both wrap
around at sixteen bits.
-/

namespace ChipEight

/-! ## Timers that run down -/

namespace Machine

/-- The machine after several ticks: the timers have run down, to zero at most. -/
def ticked (machine : Machine) (count : Nat) : Machine :=
  { machine with
    delay := UInt8.ofNat (machine.delay.toNat - count)
    sound := UInt8.ofNat (machine.sound.toNat - count) }

theorem ticked_zero (machine : Machine) : machine.ticked 0 = machine := by
  rw [ticked, Nat.sub_zero, Nat.sub_zero, UInt8.ofNat_toNat, UInt8.ofNat_toNat]

theorem ticked_ticked (machine : Machine) (first second : Nat) :
    (machine.ticked first).ticked second = machine.ticked (first + second) := by
  have hcount (timer : UInt8) :
      UInt8.ofNat ((UInt8.ofNat (timer.toNat - first)).toNat - second) =
        UInt8.ofNat (timer.toNat - (first + second)) := by
    have hbound : timer.toNat - first < UInt8.size :=
      (Nat.sub_le _ _).trans_lt timer.toNat_lt_size
    rw [UInt8.toNat_ofNat_of_lt' hbound, Nat.sub_sub]
  simp only [ticked, hcount]

theorem tick_eq_ticked (machine : Machine) : machine.tick = machine.ticked 1 := by
  have hcount (timer : UInt8) :
      (if timer = 0 then 0 else timer - 1) = UInt8.ofNat (timer.toNat - 1) := by
    split
    case isTrue hzero =>
      rw [hzero]
      rfl
    case isFalse hnonzero =>
      have hpositive : 1 ≤ timer :=
        UInt8.le_iff_toNat_le.mpr
          (Nat.one_le_iff_ne_zero.mpr fun hzero => hnonzero (UInt8.toNat_inj.mp hzero))
      have hbound : timer.toNat - 1 < UInt8.size :=
        (Nat.sub_le _ _).trans_lt timer.toNat_lt_size
      apply UInt8.toNat_inj.mp
      rw [UInt8.toNat_sub_of_le _ _ hpositive, UInt8.toNat_ofNat_of_lt' hbound]
      rfl
  simp only [tick, ticked, hcount]

end Machine

/-! ## Operations during a wait -/

namespace Operation

/-- Operations that cannot end a wait, since they press no key. -/
def keepsWaiting : Operation → Bool
  | .step | .tick | .releaseKeys => true
  | .setKey _ pressed => !pressed
  | _ => false

/-- What happens to the machine from outside between two steps. -/
def isInput : Operation → Bool
  | .tick | .setKey _ _ | .releaseKeys => true
  | _ => false

/-- What a machine that waits answers. -/
def answerWhileWaiting : Operation → Outcome
  | .step => .flow .keyWait
  | _ => .done

end Operation

namespace Interpreter

variable {σ : Type} [RandomSource σ]

/-- What is promised about a machine that waits for a key, to be read into `x`. -/
structure AwaitsKey (interpreter : Interpreter σ) (x : Register) : Prop where
  /-- As long as no key is pressed, every step waits, and only the timers change. -/
  stalls : ∀ operations : List Operation,
    (∀ operation ∈ operations, operation.keepsWaiting = true) →
    interpreter.performAll operations =
      (operations.map Operation.answerWhileWaiting,
        interpreter.onMachine (·.ticked (operations.count .tick)))
  /-- Once a key is down, a step reads the least key that is down and goes on behind
  the instruction.  Nothing else has changed since the wait began but the timers and the
  keys. -/
  wakes : ∀ operations inputs : List Operation,
    (∀ operation ∈ operations, operation.keepsWaiting = true) →
    (∀ input ∈ inputs, input.isInput = true) →
    let woken := ((interpreter.performAll operations).2.performAll inputs).2
    woken.machine.keypad.anyDown = true →
    ∃ key, IsLeast {key : Key | woken.machine.keypad.isDown key.val = true} key ∧
      woken.step = (.ok .plain, { interpreter with
        machine := {
          (interpreter.machine.setRegister x (UInt8.ofNat key.val)).ticked
            ((operations ++ inputs).count .tick) with
          counter := interpreter.machine.counter + 2
          keypad := woken.machine.keypad } })

section Steps

variable {interpreter : Interpreter σ} {x : Register}

/-- Without a key, a step undoes its own advance. -/
theorem step_of_waiting (hword : interpreter.machine.currentWord.decode = some (.awaitKey x))
    (hnone : interpreter.machine.keypad.first? = none) :
    interpreter.step = (.ok .keyWait, interpreter) := by
  have hread : interpreter.machine.advance.readKey x = (.ok .keyWait, interpreter.machine) := by
    have hback : interpreter.machine.counter + 2 - 2 = interpreter.machine.counter :=
      UInt16.add_sub_cancel _ _
    have hkeypad : interpreter.machine.advance.keypad.first? = none := hnone
    rw [Machine.readKey, hkeypad]
    change (_, { interpreter.machine with counter := interpreter.machine.counter + 2 - 2 }) = _
    rw [hback]
  rw [step_of_instruction hword, Machine.execute, hread]
  rfl

/-- With a key down, a step reads it. -/
theorem step_of_key {key : Key}
    (hword : interpreter.machine.currentWord.decode = some (.awaitKey x))
    (hfirst : interpreter.machine.keypad.first? = some key) :
    interpreter.step = (.ok .plain, { interpreter with
      machine := interpreter.machine.advance.setRegister x (UInt8.ofNat key.val) }) := by
  have hkeypad : interpreter.machine.advance.keypad.first? = some key := hfirst
  rw [step_of_instruction hword, Machine.execute, Machine.readKey, hkeypad]
  rfl

/-- During a wait, a step answers that the machine waits, and only a tick changes anything. -/
theorem perform_waiting (hword : interpreter.machine.currentWord.decode = some (.awaitKey x))
    (hreleased : interpreter.machine.keypad = Keypad.released) {operation : Operation}
    (hallowed : operation.keepsWaiting = true) :
    interpreter.perform operation =
      (operation.answerWhileWaiting,
        interpreter.onMachine (·.ticked ([operation].count .tick))) := by
  have hsame : interpreter = interpreter.onMachine (·.ticked 0) := by
    rw [onMachine, Machine.ticked_zero]
  have hkeys (keypad : Keypad) (hkeypad : keypad = Keypad.released) :
      interpreter.onMachine (fun machine => { machine with keypad }) = interpreter := by
    rw [hkeypad, ← hreleased]
    rfl
  cases operation with
  | step =>
      have hnone : interpreter.machine.keypad.first? = none := by
        rw [hreleased]
        rfl
      rw [perform_step, step_of_waiting hword hnone]
      exact congrArg (Prod.mk _) hsame
  | tick =>
      rw [perform_tick, onMachine, Machine.tick_eq_ticked]
      rfl
  | setKey key pressed =>
      cases pressed with
      | true => cases hallowed
      | false =>
          have hset : interpreter.machine.keypad.set key.val false = Keypad.released := by
            rw [hreleased, Keypad.set_released]
          exact congrArg (Prod.mk _) ((hkeys _ hset).trans hsame)
  | releaseKeys =>
      exact congrArg (Prod.mk _) ((hkeys _ rfl).trans hsame)
  | load program => cases hallowed
  | reset => cases hallowed
  | run count => cases hallowed

/-- A machine that waits goes on waiting, and only its timers run down. -/
theorem performAll_waiting (hword : interpreter.machine.currentWord.decode = some (.awaitKey x))
    (hreleased : interpreter.machine.keypad = Keypad.released) {operations : List Operation}
    (hallowed : ∀ operation ∈ operations, operation.keepsWaiting = true) :
    interpreter.performAll operations =
      (operations.map Operation.answerWhileWaiting,
        interpreter.onMachine (·.ticked (operations.count .tick))) := by
  induction operations generalizing interpreter with
  | nil =>
      rw [performAll_nil, onMachine, List.count_nil, Machine.ticked_zero]
      rfl
  | cons operation rest ih =>
      obtain ⟨hfirst, hrest⟩ := List.forall_mem_cons.mp hallowed
      -- The machine still waits after one operation, whatever its timers are.
      have hafter : (interpreter.onMachine (·.ticked ([operation].count .tick))).performAll rest =
          _ := ih hword hreleased hrest
      have hcount : (operation :: rest).count .tick =
          [operation].count .tick + rest.count .tick := by
        rw [← List.count_append, List.singleton_append]
      rw [performAll_cons, perform_waiting hword hreleased hfirst, hafter, hcount, List.map_cons]
      simp only [onMachine, Machine.ticked_ticked]

/-- What happens from outside changes the timers and the keys. -/
theorem performAll_inputs (interpreter : Interpreter σ) {inputs : List Operation}
    (hallowed : ∀ input ∈ inputs, input.isInput = true) :
    ∃ keypad, (interpreter.performAll inputs).2 =
      interpreter.onMachine fun machine =>
        { machine.ticked (inputs.count .tick) with keypad } := by
  induction inputs generalizing interpreter with
  | nil =>
      refine ⟨interpreter.machine.keypad, ?_⟩
      rw [performAll_nil, onMachine, List.count_nil, Machine.ticked_zero]
  | cons input rest ih =>
      obtain ⟨hfirst, hrest⟩ := List.forall_mem_cons.mp hallowed
      obtain ⟨keypad, hafter⟩ := ih (interpreter.perform input).2 hrest
      refine ⟨keypad, ?_⟩
      rw [performAll_cons, hafter]
      cases input with
      | tick =>
          rw [perform_tick, List.count_cons_self, Nat.add_comm]
          simp only [onMachine, Machine.tick_eq_ticked, Machine.ticked_ticked]
      | setKey key pressed => rfl
      | releaseKeys => rfl
      | step => cases hfirst
      | load program => cases hfirst
      | reset => cases hfirst
      | run count => cases hfirst

end Steps

/-- A machine at the instruction that waits for a key waits cleanly: it stays where it is until
a key is pressed, and then reads the least key that is down. -/
theorem awaitsKey {interpreter : Interpreter σ} {x : Register}
    (hword : interpreter.machine.currentWord.decode = some (.awaitKey x))
    (hnone : ∀ key : Key, interpreter.machine.keypad.isDown key.val = false) :
    AwaitsKey interpreter x where
  stalls := fun _ hallowed =>
    performAll_waiting hword (Keypad.eq_released_of_isDown hnone) hallowed
  wakes := by
    intro operations inputs hallowed hinputs woken hany
    have hwaiting := performAll_waiting hword (Keypad.eq_released_of_isDown hnone) hallowed
    obtain ⟨keypad, hinput⟩ := (interpreter.performAll operations).2.performAll_inputs hinputs
    have hwoken : woken = interpreter.onMachine fun machine =>
        { machine.ticked ((operations ++ inputs).count .tick) with keypad } := by
      refine hinput.trans ?_
      rw [hwaiting, List.count_append]
      simp only [onMachine, Machine.ticked_ticked]
    have hstill : woken.machine.currentWord.decode = some (.awaitKey x) := by
      rw [hwoken]
      exact hword
    cases hfirst : woken.machine.keypad.first? with
    | none =>
        obtain ⟨key, hdown⟩ := Keypad.anyDown_eq_true_iff.mp hany
        rw [Keypad.first?_eq_none_iff.mp hfirst key] at hdown
        cases hdown
    | some key =>
        refine ⟨key, Keypad.first?_eq_some_iff.mp hfirst, ?_⟩
        rw [step_of_key hstill hfirst, hwoken]
        rfl

/-- A wait at the last address: its word wraps around memory, and going on wraps around the
program counter.  Of the two keys that come down at last, the lower one is read. -/
theorem awaitsKey_wrapping :
    let memory : Memory := (Memory.initial.write 0xFFF 0xF3).write 0 0x0A
    let waiting : Interpreter CountingSource :=
      ⟨{ Machine.initial with memory, counter := 0xFFFF, delay := 3, sound := 1 }, ⟨0, 1⟩, none⟩
    let operations : List Operation := [.step, .tick, .setKey 4 false, .step, .tick, .releaseKeys]
    let inputs : List Operation := [.setKey 11 true, .setKey 7 true, .tick]
    let woken := ((waiting.performAll operations).2.performAll inputs).2
    waiting.machine.currentWord.decode = some (.awaitKey 3) ∧
      (waiting.performAll operations).1 =
        [.flow .keyWait, .done, .done, .flow .keyWait, .done, .done] ∧
      (waiting.performAll operations).2.machine.delay = 1 ∧
      (waiting.performAll operations).2.machine.sound = 0 ∧
      woken.machine.keypad.down = [7, 11] ∧ woken.step.1 = .ok .plain ∧
      woken.step.2.machine.counter = 1 ∧ woken.step.2.machine.register 3 = 7 := by
  intro memory waiting operations inputs woken
  have hword : waiting.machine.currentWord.decode = some (.awaitKey 3) := by decide +kernel
  have hnone : ∀ key : Key, waiting.machine.keypad.isDown key.val = false := by decide
  have hawaits := awaitsKey hword hnone
  have hstalls := hawaits.stalls operations (by decide)
  have hkeypad : woken.machine.keypad = ⟨0x880⟩ := by
    change ((waiting.performAll operations).2.performAll inputs).2.machine.keypad = _
    rw [hstalls]
    decide +kernel
  obtain ⟨key, hleast, hstep⟩ := hawaits.wakes operations inputs (by decide) (by decide)
    (congrArg Keypad.anyDown hkeypad)
  have hkey : key = 7 := by
    rw [← Keypad.first?_eq_some_iff, hkeypad] at hleast
    exact Option.some.inj (hleast.symm.trans (by decide))
  rw [hkey] at hstep
  refine ⟨hword, ?_, ?_, ?_, ?_, ?_, ?_, ?_⟩
  · rw [hstalls]
    decide
  · rw [hstalls]
    decide
  · rw [hstalls]
    decide
  · rw [hkeypad]
    decide
  · rw [hstep]
  · rw [hstep]
    decide
  · rw [hstep]
    decide

end Interpreter
end ChipEight
