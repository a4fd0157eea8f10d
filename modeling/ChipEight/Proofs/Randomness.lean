import Mathlib
import ChipEight.Proofs.Executed
import ChipEight.Proofs.Reset

/-!
# Randomness in a session

A random source is drawn from only by words of group `C`, once by each of them, and in
the order in which they are executed.  A meter in the source shows how many outputs have
been drawn, and makes no other difference.

What has not been drawn yet cannot matter.  Two interpreters in one state whose sources
agree on some first outputs stay in equal states until more outputs than these have been
drawn, whatever is done to them (`drawsInOrder`).  The sources may be of different kinds,
and nothing is asked of them beyond the outputs that they share.
-/

namespace ChipEight

/-! ## Sources with a meter -/

/-- A random source that counts how many outputs have been drawn from it. -/
structure Metered (σ : Type) where
  source : σ
  drawn : Nat

namespace Metered

variable {σ : Type} [RandomSource σ]

instance : RandomSource (Metered σ) where
  next metered :=
    ((RandomSource.next metered.source).1,
      ⟨(RandomSource.next metered.source).2, metered.drawn + 1⟩)

theorem after_eq (metered : Metered σ) (count : Nat) :
    RandomSource.after metered count =
      ⟨RandomSource.after metered.source count, metered.drawn + count⟩ := by
  induction count generalizing metered with
  | zero => rfl
  | succ count ih =>
      have hdrawn : metered.drawn + 1 + count = metered.drawn + (count + 1) := by omega
      rw [RandomSource.after, ih, RandomSource.after, ← hdrawn]
      rfl

theorem output_eq (metered : Metered σ) (place : Nat) :
    RandomSource.output metered place = RandomSource.output metered.source place := by
  rw [RandomSource.output, after_eq]
  rfl

end Metered

/-- What an operation that executes nothing answers and makes of the machine. -/
def Machine.operate (machine : Machine) : Operation → Outcome × Machine
  | .load program =>
    match machine.load program with
    | .ok after => (.done, after)
    | .error error => (.refused error, machine)
  | .reset => (.done, machine.reset)
  | .tick => (.done, machine.tick)
  | .setKey key pressed => (.done, machine.setKey key.val pressed)
  | .releaseKeys => (.done, machine.releaseKeys)
  | .step | .run _ => (.done, machine)

namespace Interpreter

variable {σ τ : Type}

/-- How many instants are in front of a word that draws from the random source. -/
def drawsAt (instants : List (Interpreter σ)) : Nat :=
  Word.draws (instants.map (·.machine.currentWord))

theorem drawsAt_append (first second : List (Interpreter σ)) :
    drawsAt (first ++ second) = drawsAt first + drawsAt second := by
  rw [drawsAt, List.map_append, Word.draws_append]
  rfl

theorem drawsAt_cons (first : Interpreter σ) (rest : List (Interpreter σ)) :
    drawsAt (first :: rest) = drawsAt [first] + drawsAt rest :=
  drawsAt_append [first] rest

theorem drawsAt_singleton (interpreter : Interpreter σ) :
    drawsAt [interpreter] = if interpreter.machine.currentWord.group = 12 then 1 else 0 := by
  simp [drawsAt, Word.draws, List.countP_singleton]

variable [RandomSource σ] [RandomSource τ]

theorem drawsAt_instants (interpreter : Interpreter σ) (operations : List Operation) :
    drawsAt (interpreter.instants operations) = Word.draws (interpreter.executed operations) := by
  rw [drawsAt, map_currentWord_instants]

/-! ## The order of the outputs -/

/-- An operation that executes nothing knows the machine alone. -/
theorem perform_of_idle (interpreter : Interpreter σ) {operation : Operation}
    (hidle : operation.executes = false) :
    interpreter.perform operation =
      ((interpreter.machine.operate operation).1,
        { interpreter with machine := (interpreter.machine.operate operation).2 }) := by
  cases operation with
  | step => cases hidle
  | run count => cases hidle
  | load program =>
      simp only [perform, load, Machine.operate]
      cases interpreter.machine.load program <;> rfl
  | reset => simp only [perform, reset, onMachine, Machine.operate]
  | tick => simp only [perform, onMachine, Machine.operate]
  | setKey key pressed => simp only [perform, onMachine, Machine.operate]
  | releaseKeys => simp only [perform, onMachine, Machine.operate]

theorem source_perform_of_idle (interpreter : Interpreter σ) {operation : Operation}
    (hidle : operation.executes = false) :
    (interpreter.perform operation).2.source = interpreter.source := by
  rw [perform_of_idle interpreter hidle]

/-- Every instant finds the source where the earlier words have moved it. -/
theorem source_of_passes {allowed : Operation → Prop} {interpreter last before : Interpreter σ}
    {instants : List (Interpreter σ)} (hpasses : Passes allowed interpreter instants last)
    {place : Nat} (hbefore : instants[place]? = some before) :
    before.source = RandomSource.after interpreter.source (drawsAt (instants.take place)) := by
  induction hpasses generalizing place with
  | refl => simp at hbefore
  | @step interpreter last rest _ ih =>
      cases place with
      | zero =>
          rw [← Option.some.inj hbefore]
          rfl
      | succ place =>
          rw [List.take_succ_cons, drawsAt_cons, RandomSource.after_add, ih hbefore, source_step]
          rfl
  | other _ hidle _ ih => rw [ih hbefore, source_perform_of_idle _ hidle]

/-! ## Interpreters with sources that agree -/

/-- Two interpreters that differ in their random sources only, and agree on the first
outputs of these. -/
structure Alike (count : Nat) (first : Interpreter σ) (second : Interpreter τ) : Prop where
  machine : second.machine = first.machine
  limit : second.limit = first.limit
  outputs : ∀ place < count,
    RandomSource.output second.source place = RandomSource.output first.source place

section Alike

variable {count : Nat} {first : Interpreter σ} {second : Interpreter τ}

/-- A step keeps two interpreters alike, and uses up an output at most. -/
theorem Alike.step (halike : Alike count first second) (hdraws : drawsAt [first] ≤ count) :
    second.step.1 = first.step.1 ∧ Alike (count - drawsAt [first]) first.step.2 second.step.2 := by
  have hmachine := halike.machine
  by_cases hgroup : first.machine.currentWord.group = 12
  · have hother : second.machine.currentWord.group = 12 := by rw [hmachine, hgroup]
    rw [drawsAt_singleton, if_pos hgroup] at hdraws ⊢
    have houtput : (RandomSource.next second.source).1 = (RandomSource.next first.source).1 :=
      halike.outputs 0 (by omega)
    rw [step_of_random hgroup, step_of_random hother]
    refine ⟨rfl, ?_, halike.limit, fun place hplace => ?_⟩
    · simp only [hmachine, houtput]
    · exact halike.outputs (place + 1) (by omega)
  · have hother : second.machine.currentWord.group ≠ 12 := by rwa [hmachine]
    rw [drawsAt_singleton, if_neg hgroup, step_of_group_ne hgroup, step_of_group_ne hother,
      hmachine, halike.limit]
    exact ⟨rfl, rfl, rfl, halike.outputs⟩

theorem Alike.perform_of_idle (halike : Alike count first second) {operation : Operation}
    (hidle : operation.executes = false) :
    (second.perform operation).1 = (first.perform operation).1 ∧
      Alike count (first.perform operation).2 (second.perform operation).2 := by
  rw [first.perform_of_idle hidle, second.perform_of_idle hidle, halike.machine]
  exact ⟨rfl, rfl, halike.limit, halike.outputs⟩

end Alike

/-- The instants of two ways are alike as long as no more outputs have been drawn than the
sources agree on. -/
def AlikeAlong (count : Nat) (first : List (Interpreter σ)) (second : List (Interpreter τ)) :
    Prop :=
  ∀ place before, first[place]? = some before → drawsAt (first.take place) ≤ count →
    ∃ same, second[place]? = some same ∧
      Alike (count - drawsAt (first.take place)) before same

section AlikeAlong

variable {count : Nat} {first : Interpreter σ} {second : Interpreter τ}
  {firsts moreFirsts : List (Interpreter σ)} {seconds moreSeconds : List (Interpreter τ)}

theorem Alike.cons (halike : Alike count first second)
    (hrest : drawsAt [first] ≤ count → AlikeAlong (count - drawsAt [first]) firsts seconds) :
    AlikeAlong count (first :: firsts) (second :: seconds) := by
  intro place before hbefore hdraws
  cases place with
  | zero =>
      rw [← Option.some.inj hbefore]
      exact ⟨second, rfl, halike⟩
  | succ place =>
      rw [List.take_succ_cons, drawsAt_cons] at hdraws ⊢
      rw [← Nat.sub_sub]
      exact hrest (by omega) place before hbefore (by omega)

theorem AlikeAlong.append (hfirst : AlikeAlong count firsts seconds)
    (hlength : drawsAt firsts ≤ count → seconds.length = firsts.length)
    (hrest : drawsAt firsts ≤ count →
      AlikeAlong (count - drawsAt firsts) moreFirsts moreSeconds) :
    AlikeAlong count (firsts ++ moreFirsts) (seconds ++ moreSeconds) := by
  intro place before hbefore hdraws
  by_cases hplace : place < firsts.length
  · rw [List.getElem?_append_left hplace] at hbefore
    rw [List.take_append_of_le_length hplace.le] at hdraws ⊢
    obtain ⟨same, hsame, halike⟩ := hfirst place before hbefore hdraws
    have hsecond := (List.getElem?_eq_some_iff.mp hsame).1
    exact ⟨same, by rwa [List.getElem?_append_left hsecond], halike⟩
  · obtain ⟨later, rfl⟩ := Nat.exists_eq_add_of_le (Nat.le_of_not_lt hplace)
    rw [List.take_length_add_append, drawsAt_append] at hdraws ⊢
    rw [List.getElem?_append_right (Nat.le_add_right _ _), Nat.add_sub_cancel_left] at hbefore
    have hall : drawsAt firsts ≤ count := by omega
    rw [← hlength hall, List.getElem?_append_right (Nat.le_add_right _ _),
      Nat.add_sub_cancel_left, ← Nat.sub_sub]
    exact hrest hall later before hbefore (by omega)

/-- In front of a word nothing tells the two apart, and behind it neither, if there was an
output for the word. -/
theorem AlikeAlong.same_step (halong : AlikeAlong count firsts seconds) {place : Nat}
    {before : Interpreter σ} (hbefore : firsts[place]? = some before)
    (hdraws : drawsAt (firsts.take place) ≤ count) :
    ∃ same, seconds[place]? = some same ∧
      same.machine = before.machine ∧ same.limit = before.limit ∧
      (drawsAt (firsts.take (place + 1)) ≤ count →
        same.step.1 = before.step.1 ∧ same.step.2.machine = before.step.2.machine ∧
          same.step.2.limit = before.step.2.limit) := by
  obtain ⟨same, hsame, hstart⟩ := halong place before hbefore hdraws
  refine ⟨same, hsame, hstart.machine, hstart.limit, fun hafter => ?_⟩
  rw [List.take_add_one, hbefore, Option.toList_some, drawsAt_append] at hafter
  obtain ⟨hanswer, hend⟩ := hstart.step (by omega)
  exact ⟨hanswer, hend.machine, hend.limit⟩

end AlikeAlong

/-- Two ways of alike interpreters, each with what it answers and where it ends. -/
structure AlikeUntil {α : Type} (count : Nat) (firsts : List (Interpreter σ))
    (seconds : List (Interpreter τ)) (first : α × Interpreter σ) (second : α × Interpreter τ) :
    Prop where
  along : AlikeAlong count firsts seconds
  /-- If the outputs last to the end, all is the same there. -/
  ends : drawsAt firsts ≤ count →
    seconds.map (·.machine.currentWord) = firsts.map (·.machine.currentWord) ∧
      second.1 = first.1 ∧ Alike (count - drawsAt firsts) first.2 second.2

namespace AlikeUntil

variable {α β : Type} {count : Nat} {first : Interpreter σ} {second : Interpreter τ}
  {firsts moreFirsts : List (Interpreter σ)} {seconds moreSeconds : List (Interpreter τ)}
  {firstEnd : α × Interpreter σ} {secondEnd : α × Interpreter τ}

theorem nil (hanswer : secondEnd.1 = firstEnd.1) (halike : Alike count firstEnd.2 secondEnd.2) :
    AlikeUntil count [] [] firstEnd secondEnd where
  along := by
    intro place before hbefore
    simp at hbefore
  ends := fun _ => ⟨rfl, hanswer, halike⟩

/-- A way goes on where outputs are left. -/
theorem cons (halike : Alike count first second)
    (hrest : drawsAt [first] ≤ count →
      AlikeUntil (count - drawsAt [first]) firsts seconds firstEnd secondEnd) :
    AlikeUntil count (first :: firsts) (second :: seconds) firstEnd secondEnd where
  along := halike.cons fun hdraws => (hrest hdraws).along
  ends := by
    intro hdraws
    rw [drawsAt_cons] at hdraws ⊢
    obtain ⟨hwords, hanswer, hlast⟩ := (hrest (by omega)).ends (by omega)
    rw [Nat.sub_sub] at hlast
    exact ⟨by rw [List.map_cons, List.map_cons, hwords, halike.machine], hanswer, hlast⟩

theorem map (huntil : AlikeUntil count firsts seconds firstEnd secondEnd) (answer : α → β) :
    AlikeUntil count firsts seconds (answer firstEnd.1, firstEnd.2)
      (answer secondEnd.1, secondEnd.2) where
  along := huntil.along
  ends := by
    intro hdraws
    obtain ⟨hwords, hanswer, hlast⟩ := huntil.ends hdraws
    exact ⟨hwords, congrArg answer hanswer, hlast⟩

/-- A second way begins where the first one ends. -/
theorem append {laterFirst : β × Interpreter σ} {laterSecond : β × Interpreter τ}
    (huntil : AlikeUntil count firsts seconds firstEnd secondEnd)
    (hrest : drawsAt firsts ≤ count → secondEnd.1 = firstEnd.1 →
      Alike (count - drawsAt firsts) firstEnd.2 secondEnd.2 →
        AlikeUntil (count - drawsAt firsts) moreFirsts moreSeconds laterFirst laterSecond) :
    AlikeUntil count (firsts ++ moreFirsts) (seconds ++ moreSeconds) laterFirst laterSecond := by
  have hlater (hdraws : drawsAt firsts ≤ count) :
      AlikeUntil (count - drawsAt firsts) moreFirsts moreSeconds laterFirst laterSecond := by
    obtain ⟨-, hanswer, hlast⟩ := huntil.ends hdraws
    exact hrest hdraws hanswer hlast
  constructor
  · refine huntil.along.append (fun hdraws => ?_) fun hdraws => (hlater hdraws).along
    simpa using congrArg List.length (huntil.ends hdraws).1
  · intro hdraws
    rw [drawsAt_append] at hdraws ⊢
    obtain ⟨hwords, -, -⟩ := huntil.ends (by omega)
    obtain ⟨hmore, hanswer, hlast⟩ := (hlater (by omega)).ends (by omega)
    rw [Nat.sub_sub] at hlast
    exact ⟨by rw [List.map_append, List.map_append, hwords, hmore], hanswer, hlast⟩

end AlikeUntil

section Session

variable {count : Nat} {first : Interpreter σ} {second : Interpreter τ}

theorem Alike.runOn (halike : Alike count first second) (last : Flow) (steps : Nat) :
    AlikeUntil count (first.instantsByRun steps) (second.instantsByRun steps)
      (first.runOn last steps) (second.runOn last steps) := by
  induction steps generalizing first second last count with
  | zero => exact .nil rfl halike
  | succ steps ih =>
      rw [instantsByRun, instantsByRun, Interpreter.runOn, Interpreter.runOn]
      apply AlikeUntil.cons halike
      intro hdraws
      have hstep := halike.step hdraws
      generalize drawsAt [first] = drawn at hstep ⊢
      generalize first.step = firstOutcome at hstep ⊢
      generalize second.step = secondOutcome at hstep ⊢
      obtain ⟨_, firstAfter⟩ := firstOutcome
      obtain ⟨answer, secondAfter⟩ := secondOutcome
      -- Alike interpreters also fail together.
      obtain ⟨rfl, hafter⟩ := hstep
      cases answer with
      | ok flow => exact ih hafter flow
      | error fault => exact .nil rfl hafter

theorem Alike.perform (halike : Alike count first second) (operation : Operation) :
    AlikeUntil count (first.instantsBy operation) (second.instantsBy operation)
      (first.perform operation) (second.perform operation) := by
  cases hexecutes : operation.executes with
  | false =>
      obtain ⟨hanswer, hafter⟩ := halike.perform_of_idle hexecutes
      rw [instantsBy_of_idle first hexecutes, instantsBy_of_idle second hexecutes]
      exact .nil hanswer hafter
  | true =>
      cases operation with
      | step =>
          apply AlikeUntil.cons halike
          intro hdraws
          obtain ⟨hanswer, hafter⟩ := halike.step hdraws
          exact .nil (congrArg Outcome.ofStep hanswer) hafter
      | run steps => exact (halike.runOn .plain steps).map Outcome.ofStep
      | _ => cases hexecutes

/-- A session keeps two interpreters alike until the outputs are used up. -/
theorem Alike.performAll (halike : Alike count first second) (operations : List Operation) :
    AlikeUntil count (first.instants operations) (second.instants operations)
      (first.performAll operations) (second.performAll operations) := by
  induction operations generalizing first second count with
  | nil => exact .nil rfl halike
  | cons operation rest ih =>
      rw [instants, instants]
      refine (halike.perform operation).append fun _ hanswer hafter => ?_
      have hrest := (ih hafter).map ((first.perform operation).1 :: ·)
      rw [performAll_cons, performAll_cons, hanswer]
      exact hrest

end Session

/-! ## A meter makes no difference -/

/-- The same interpreter with a meter in its random source. -/
def withMeter (interpreter : Interpreter σ) (drawn : Nat) : Interpreter (Metered σ) :=
  ⟨interpreter.machine, ⟨interpreter.source, drawn⟩, interpreter.limit⟩

theorem alike_withMeter (interpreter : Interpreter σ) (drawn count : Nat) :
    Alike count interpreter (interpreter.withMeter drawn) :=
  ⟨rfl, rfl, fun place _ => Metered.output_eq _ place⟩

/-- The meter counts the words that draw. -/
theorem performAll_withMeter (interpreter : Interpreter σ) (drawn : Nat)
    (operations : List Operation) :
    (interpreter.withMeter drawn).performAll operations =
      ((interpreter.performAll operations).1,
        (interpreter.performAll operations).2.withMeter
          (drawn + drawsAt (interpreter.instants operations))) := by
  have halike := interpreter.alike_withMeter drawn (drawsAt (interpreter.instants operations))
  obtain ⟨hwords, hanswers, hlast⟩ := (halike.performAll operations).ends le_rfl
  have hdraws : Word.draws ((interpreter.withMeter drawn).executed operations) =
      drawsAt (interpreter.instants operations) := by
    rw [← map_currentWord_instants, hwords, drawsAt]
  have hsource : ((interpreter.withMeter drawn).performAll operations).2.source =
      ⟨(interpreter.performAll operations).2.source,
        drawn + drawsAt (interpreter.instants operations)⟩ := by
    rw [source_performAll, hdraws, Metered.after_eq, source_performAll, ← drawsAt_instants]
    rfl
  generalize (interpreter.withMeter drawn).performAll operations = metered at *
  obtain ⟨answers, ⟨machine, source, limit⟩⟩ := metered
  obtain ⟨hmachine, hlimit, -⟩ := hlast
  simp only at hanswers hmachine hlimit hsource
  rw [hanswers, hmachine, hlimit, hsource, withMeter]

/-! ## Draws in order -/

/-- What is promised about the random source. -/
structure DrawsInOrder (interpreter : Interpreter σ) : Prop where
  /-- As many outputs are drawn as words of group `C` are executed. -/
  counted : ∀ operations : List Operation,
    (interpreter.withMeter 0).performAll operations =
      ((interpreter.performAll operations).1,
        (interpreter.performAll operations).2.withMeter
          (drawsAt (interpreter.instants operations)))
  /-- Each of these words takes the output that follows those of the earlier ones. -/
  ordered : ∀ (operations : List Operation) (place : Nat) (before : Interpreter σ),
    (interpreter.instants operations)[place]? = some before →
    before.machine.currentWord.group = 12 →
    let word := before.machine.currentWord
    let earlier := drawsAt ((interpreter.instants operations).take place)
    let output := RandomSource.output interpreter.source earlier
    before.step.1 = .ok .plain ∧
      before.step.2.machine =
        before.machine.advance.setRegister word.x (word.nn &&& output.toUInt8) ∧
      before.step.2.source = RandomSource.after interpreter.source (earlier + 1)
  idle_draws_nothing : ∀ operation : Operation, operation.executes = false →
    (interpreter.perform operation).2.source = interpreter.source
  other_draws_nothing : interpreter.machine.currentWord.group ≠ 12 →
    interpreter.step.2.source = interpreter.source
  skipped_draws_nothing : interpreter.machine.currentWord.decode = none →
    interpreter.step.2.source = interpreter.source
  /-- Nor does a word draw that a step has moved past. -/
  passed_draws_nothing :
    interpreter.step.2.machine.counter ≠ interpreter.machine.counter + 2 →
    interpreter.step.2.source = interpreter.source
  fault_draws_nothing : ∀ fault : Fault, interpreter.step.1 = .error fault →
    interpreter.step.2.source = interpreter.source
  keyWait_draws_nothing : interpreter.step.1 = .ok .keyWait →
    interpreter.step.2.source = interpreter.source
  /-- Nothing depends on an output before it is drawn. -/
  determined : ∀ {τ : Type} [RandomSource τ] (other : Interpreter τ) (count : Nat),
    Alike count interpreter other → ∀ operations : List Operation,
    (∀ (place : Nat) (before : Interpreter σ),
      (interpreter.instants operations)[place]? = some before →
      drawsAt ((interpreter.instants operations).take place) ≤ count →
      ∃ same, (other.instants operations)[place]? = some same ∧
        same.machine = before.machine ∧ same.limit = before.limit ∧
        (drawsAt ((interpreter.instants operations).take (place + 1)) ≤ count →
          same.step.1 = before.step.1 ∧ same.step.2.machine = before.step.2.machine ∧
            same.step.2.limit = before.step.2.limit)) ∧
    (drawsAt (interpreter.instants operations) ≤ count →
      (other.performAll operations).1 = (interpreter.performAll operations).1 ∧
        (other.performAll operations).2.machine = (interpreter.performAll operations).2.machine ∧
        (other.performAll operations).2.limit = (interpreter.performAll operations).2.limit)

/-- A word that draws is followed by the next one. -/
theorem counter_step_of_random {interpreter : Interpreter σ}
    (hgroup : interpreter.machine.currentWord.group = 12) :
    interpreter.step.2.machine.counter = interpreter.machine.counter + 2 := by
  rw [step_of_random hgroup]
  rfl

/-- Randomness is drawn in order by the words that ask for it, and by nothing else. -/
theorem drawsInOrder (interpreter : Interpreter σ) : DrawsInOrder interpreter where
  counted := by
    intro operations
    rw [performAll_withMeter, Nat.zero_add]
  ordered := by
    intro operations place before hbefore hgroup word earlier output
    have hpasses : Passes (fun _ => True) interpreter (interpreter.instants operations) _ :=
      interpreter.passes_performAll fun _ _ => trivial
    have hsource : before.source = RandomSource.after interpreter.source earlier :=
      source_of_passes hpasses hbefore
    rw [step_of_random hgroup, hsource, RandomSource.after_add]
    exact ⟨rfl, rfl, rfl⟩
  idle_draws_nothing := fun _ hidle => interpreter.source_perform_of_idle hidle
  other_draws_nothing := source_step_of_group_ne
  skipped_draws_nothing := by
    intro hskipped
    apply source_step_of_group_ne
    intro hgroup
    rw [Word.decode_of_group_random hgroup] at hskipped
    cases hskipped
  passed_draws_nothing := by
    intro hpassed
    apply source_step_of_group_ne
    exact fun hgroup => hpassed (counter_step_of_random hgroup)
  fault_draws_nothing := by
    intro fault hfault
    apply source_step_of_answer_ne
    rw [hfault]
    simp
  keyWait_draws_nothing := by
    intro hwait
    apply source_step_of_answer_ne
    rw [hwait]
    simp
  determined := by
    intro τ _ other count halike operations
    have huntil := halike.performAll operations
    constructor
    · intro place before hbefore hdraws
      exact huntil.along.same_step hbefore hdraws
    · intro hdraws
      obtain ⟨-, hanswers, hlast⟩ := huntil.ends hdraws
      exact ⟨hanswers, hlast.machine, hlast.limit⟩

/-- The first word draws although its mask is zero; a timer, a wait for a key and a reset
do not draw.  The sources part at the second output: the machines are still equal in front
of the second word, and the word parts them. -/
theorem drawsInOrder_partingSources :
    let program : List UInt8 := [0xC0, 0x00, 0xC1, 0xFF, 0xF2, 0x0A]
    let first : Interpreter CountingSource := new ⟨5, 1⟩ none
    let second : Interpreter CountingSource := new ⟨5, 2⟩ none
    let operations : List Operation :=
      [.load program, .step, .tick, .step, .run 3, .reset, .load program, .step]
    ((first.withMeter 0).performAll operations).2.source.drawn = 3 ∧
      ∃ before same, (first.instants operations)[1]? = some before ∧
        (second.instants operations)[1]? = some same ∧ same.machine = before.machine ∧
        before.step.2.machine.register 1 = 6 ∧ same.step.2.machine.register 1 = 7 := by
  intro program first second operations
  have halike : Alike 1 first second := by
    refine ⟨rfl, rfl, fun place hplace => ?_⟩
    rw [Nat.lt_one_iff.mp hplace]
    decide
  -- The second word is executed behind the first one and a timer.
  let before := (((first.perform (.load program)).2.perform .step).2.perform .tick).2
  have hbefore : (first.instants operations)[1]? = some before := by
    simp only [operations, before, instants, instantsBy, List.nil_append, List.cons_append,
      List.getElem?_cons_succ, List.getElem?_cons_zero]
  have hdraws : drawsAt ((first.instants operations).take 1) ≤ 1 := by decide +kernel
  have hgroup : before.machine.currentWord.group = 12 := by decide +kernel
  obtain ⟨same, hsame, hmachine, -, -⟩ :=
    ((drawsInOrder first).determined second 1 halike operations).1 1 before hbefore hdraws
  have hother : same.machine.currentWord.group = 12 := by rw [hmachine, hgroup]
  refine ⟨?_, before, same, hbefore, hsame, hmachine, ?_, ?_⟩
  · rw [(drawsInOrder first).counted]
    change drawsAt (first.instants operations) = 3
    decide +kernel
  · rw [((drawsInOrder first).ordered operations 1 before hbefore hgroup).2.1]
    decide +kernel
  · rw [((drawsInOrder second).ordered operations 1 same hsame hother).2.1, hmachine]
    decide +kernel

end Interpreter
end ChipEight
