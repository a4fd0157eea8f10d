import Mathlib
import ChipEight.Run.Read

/-!
# The bounds of a configuration

All that the arithmetic of a run relies on is that four numbers of its
configuration are within bounds (`RunConfig.IsBounded`).  Three bounds are
checked when a configuration is accepted.  The fourth holds because of the way
numbers are read: a number that is wanted with at most 64 bits is refused where
it stands if it has more.

Reading may fail anywhere, so the lemmas say what holds of whatever is read:
`Yields reading holds`.
-/

namespace ChipEight
namespace Yaml

/-! ## Properties of what is read -/

/-- Whatever a reading yields has a property. -/
def Yields {α : Type} (reading : Reading α) (holds : α → Prop) : Prop :=
  ∀ before value after, reading.run before = .ok (value, after) → holds value

section Readings

variable {α β : Type} {holds : α → Prop}

theorem yields_pure {value : α} (hvalue : holds value) : Yields (pure value) holds := by
  intro before other after hread
  cases hread
  exact hvalue

theorem yields_throw (error : DecodeError) : Yields (throw error) holds := by
  intro before value after hread
  cases hread

theorem yields_true (reading : Reading α) : Yields reading fun _ => True :=
  fun _ _ _ _ => trivial

theorem Yields.bind {first : Reading β} {next : β → Reading α} {between : β → Prop}
    (hfirst : Yields first between) (hnext : ∀ value, between value → Yields (next value) holds) :
    Yields (first >>= next) holds := by
  intro before value after hread
  rw [StateT.run_bind] at hread
  cases hrun : first.run before with
  | error error =>
      rw [hrun] at hread
      cases hread
  | ok outcome =>
      rw [hrun] at hread
      exact hnext _ (hfirst _ _ _ hrun) _ _ _ hread

end Readings

/-! ## Properties of data at a place -/

namespace Place

variable {α : Type} {holds : α → Prop} (place : Place)

theorem yields_refuse (wanted : String) : Yields (place.refuse wanted) holds := by
  unfold refuse
  split
  · split <;> exact yields_throw _
  all_goals exact yields_throw _

theorem yields_written (kind wanted : String) {read : String → Option α}
    (hread : ∀ text value, read text = some value → holds value) :
    Yields (place.written kind wanted read) holds := by
  refine (yields_true place.follow).bind fun target _ => ?_
  split
  next scalar _ =>
    split
    next value hvalue =>
      apply yields_pure
      -- A text that may not write such a value has not been looked at.
      split_ifs at hvalue
      exact hread _ _ hvalue
    next => exact target.yields_refuse wanted
  next => exact target.yields_refuse wanted

/-- A number that is read has at most 64 bits. -/
theorem yields_natural (wanted : String) : Yields (place.natural wanted) (· < wordBound) := by
  apply yields_written
  intro text value hvalue
  obtain ⟨-, hbound⟩ := Option.filter_eq_some_iff.mp hvalue
  exact of_decide_eq_true hbound

theorem yields_optional {want : Place → Reading α} (hwant : ∀ target, Yields (want target) holds) :
    Yields (place.optional want) fun found => ∀ value, found = some value → holds value := by
  have hsome (target : Place) : Yields (do return some (← want target))
      fun found => ∀ value, found = some value → holds value := by
    refine (hwant target).bind fun value hvalue => yields_pure ?_
    intro other hother
    cases hother
    exact hvalue
  refine (yields_true place.follow).bind fun target _ => ?_
  split
  · split
    · exact yields_pure fun value hvalue => nomatch hvalue
    · exact hsome target
    · exact yields_throw _
  · exact hsome target

/-- What every entry keeps holds of the whole record. -/
theorem yields_foldEntries {take : α → String → Place → Reading α} {record : α}
    (hrecord : holds record)
    (htake : ∀ record name target, holds record → Yields (take record name target) holds)
    (entries : List (Node × Node)) : Yields (place.foldEntries take record entries) holds := by
  induction entries generalizing record with
  | nil => exact yields_pure hrecord
  | cons entry rest ih =>
      refine (yields_true _).bind fun name _ => ?_
      exact (htake record name _ hrecord).bind fun next hnext => ih hnext

end Place

namespace Document

variable {α : Type} {holds : α → Prop}

theorem holds_of_decode {document : Document} {want : Place → Reading α} {value : α}
    (hwant : Yields (want document.place) holds) (hdecode : document.decode want = .ok value) :
    holds value := by
  unfold decode at hdecode
  split at hdecode
  next => cases hdecode
  next found after hrun =>
    split at hdecode
    · cases hdecode
    · cases hdecode
      exact hwant _ _ _ hrun

end Document
end Yaml

open Yaml

theorem yields_readOnce {α : Type} {holds : α → Prop} (owner : Path) (name : String)
    (present : Option α) {value : Reading α} (hvalue : Yields value holds) :
    Yields (readOnce owner name present value) holds := by
  cases present with
  | none => exact hvalue
  | some earlier => exact yields_throw _

/-! ## Configurations -/

namespace RunConfig

namespace Draft

/-- If the greatest number of instructions has been read, it has at most 64
bits. -/
def StepsBounded (draft : Draft) : Prop :=
  ∀ steps, draft.maxSteps = some (some steps) → steps < wordBound

end Draft

theorem yields_take (owner : Path) {draft : Draft} (hdraft : draft.StepsBounded)
    (name : String) (place : Place) : Yields (take owner draft name place) Draft.StepsBounded := by
  unfold take
  split
  -- The fourth kind of entry is the greatest number of instructions; the others
  -- leave it alone.
  case h_4 =>
    have hread := yields_readOnce owner "max_steps" draft.maxSteps
      (place.yields_optional fun target => target.yields_natural "u64")
    refine hread.bind fun steps hsteps => yields_pure ?_
    intro most hmost
    exact hsteps most (Option.some.inj hmost)
  case h_8 => exact yields_throw _
  all_goals exact (yields_true _).bind fun value _ => yields_pure hdraft

theorem yields_readPlace (place : Place) : Yields (readPlace place) (·.stepLimit < wordBound) := by
  refine (yields_true _).bind fun entries _ => ?_
  have hempty : Draft.empty.StepsBounded := fun steps hsteps => nomatch hsteps
  have hfold := place.yields_foldEntries hempty
    (fun draft name target hdraft => yields_take place.path hdraft name target) entries
  refine hfold.bind fun draft hdraft => yields_pure ?_
  change (draft.maxSteps.getD default.maxSteps).getD (wordBound - 1) < wordBound
  cases hsteps : draft.maxSteps with
  | none => decide
  | some most =>
      cases most with
      | none => decide
      | some steps => exact hdraft steps hsteps

/-- A document is no configuration, or breaks a bound, or is accepted. -/
theorem ofDocument_cases (document : Document) :
    (∃ error, document.decode readPlace = .error error ∧
        ofDocument document = .error (.unreadable error)) ∨
      ∃ config, document.decode readPlace = .ok config ∧
        ((∃ refusal, config.refusal? = some refusal ∧
            ofDocument document = .error (.refused refusal)) ∨
          config.refusal? = none ∧ ofDocument document = .ok config.sortInput) := by
  rw [ofDocument]
  cases hdecode : document.decode readPlace with
  | error error => exact .inl ⟨error, rfl, rfl⟩
  | ok config =>
      refine .inr ⟨config, rfl, ?_⟩
      simp only [accept]
      cases hrefusal : config.refusal? with
      | some refusal => exact .inl ⟨refusal, rfl, rfl⟩
      | none => exact .inr ⟨rfl, rfl⟩

/-- What the arithmetic of a run relies on. -/
structure IsBounded (config : RunConfig) : Prop where
  timer_pos : 0 < config.timerFrequency
  duration_lt : config.durationMs * config.timerFrequency < wordBound
  cpu_lt : config.cpuFrequency + config.timerFrequency < wordBound
  stepLimit_lt : config.stepLimit < wordBound

theorem default_isBounded : default.IsBounded where
  timer_pos := by decide
  duration_lt := by decide
  cpu_lt := by decide
  stepLimit_lt := by decide

/-- Every configuration that is read and accepted is within bounds. -/
theorem isBounded_of_ofDocument {document : Document} {config : RunConfig}
    (haccepted : ofDocument document = .ok config) : config.IsBounded := by
  unfold ofDocument at haccepted
  split at haccepted
  next => cases haccepted
  next given hdecode =>
    have hsteps := Document.holds_of_decode (yields_readPlace document.place) hdecode
    unfold accept at haccepted
    cases hrefusal : given.refusal? with
    | some refusal =>
        rw [hrefusal] at haccepted
        cases haccepted
    | none =>
        rw [hrefusal] at haccepted
        cases haccepted
        -- Sorting the key events leaves the numbers as they are.
        obtain ⟨htimer, hduration, hcpu⟩ := given.refusal?_eq_none_iff.mp hrefusal
        exact ⟨htimer, hduration, hcpu, hsteps⟩

end RunConfig
end ChipEight
