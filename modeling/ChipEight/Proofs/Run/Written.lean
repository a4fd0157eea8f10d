import Mathlib
import ChipEight.Proofs.Run.KeyNumbers
import ChipEight.Proofs.Yaml.Record

/-!
# Written configurations

What the entries of a mapping write, if they write a key event, a setup of the machine or a
configuration at all.  The three differ in what they do with other keys: a key event has
them passed over, the others refuse them.

Nothing here says in which order the entries stand.  A reading takes what is written and
nothing else (`RunConfig.takes_readPlace`), by way of the lists of fields that the records
are read with.
-/

namespace ChipEight

open Yaml

/-- A field with a whole number. -/
def naturalField {Draft : Type} (name wanted : String) (get : Draft → Option Nat)
    (set : Draft → Nat → Draft) : RecordField Draft where
  name := name
  Value := Nat
  get := get
  set := set
  read := (·.natural wanted)
  gives := Document.IsNatural
  references := fun _ node => node.references

/-- A field with a whole number or nothing. -/
def optionalField {Draft : Type} (name wanted : String) (get : Draft → Option (Option Nat))
    (set : Draft → Option Nat → Draft) : RecordField Draft where
  name := name
  Value := Option Nat
  get := get
  set := set
  read := (·.optional (·.natural wanted))
  gives := Document.IsOptional
  references := Document.optionalReferences

/-- A field with a truth value. -/
def truthField {Draft : Type} (name : String) (get : Draft → Option Bool)
    (set : Draft → Bool → Draft) : RecordField Draft where
  name := name
  Value := Bool
  get := get
  set := set
  read := Place.truth
  gives := Document.IsTruth
  references := fun _ node => node.references

/-! ## Key events -/

namespace KeyEvent

/-- Entries that write a key event.  All their keys are texts; those that are no field of it
have no meaning. -/
structure IsWritten (document : Document) (entries : List (Node × Node)) (event : KeyEvent) :
    Prop where
  texts : ∀ entry ∈ entries, ∃ name, document.keyText? entry.1 = some name
  atStep : Required document.IsNatural (document.valuesOf entries "at_step") event.atStep
  key : Required (Key.IsWritten document) (document.valuesOf entries "key") event.key
  pressed : Setting document.IsTruth true (document.valuesOf entries "pressed") event.pressed

/-- The fields of a key event. -/
def fields : List (RecordField Draft) :=
  [naturalField "at_step" "u64" (·.atStep) fun draft value => { draft with atStep := some value },
    { name := "key"
      Value := Key
      get := (·.key)
      set := fun draft value => { draft with key := some value }
      read := Key.read
      gives := Key.IsWritten
      references := fun _ node => node.references },
    truthField "pressed" (·.pressed) fun draft value => { draft with pressed := some value }]

theorem isRecord : IsRecord take fields true where
  names := by decide
  known := by
    intro field hfield owner draft place
    fin_cases hfield <;> rfl
  passed := by
    intro _ name hnone owner draft place
    have hnames : "at_step" ≠ name ∧ "key" ≠ name ∧ "pressed" ≠ name := by
      simpa [fields, naturalField, truthField] using hnone
    unfold take
    split
    · exact absurd rfl hnames.1
    · exact absurd rfl hnames.2.1
    · exact absurd rfl hnames.2.2
    · rfl
  refused := fun hpasses => nomatch hpasses
  reads := by
    intro field hfield place
    fin_cases hfield
    · exact place.takes_natural "u64"
    · exact Key.takes_read place
    · exact place.takes_truth
  get_set := by
    intro field hfield draft value
    fin_cases hfield <;> rfl
  get_set_of_ne := by
    intro field hfield other hother hname draft value
    fin_cases hfield <;> fin_cases hother <;> first | rfl | exact absurd rfl hname
  ext := by
    rintro ⟨atStep, key, pressed⟩ ⟨_, _, _⟩ hsame
    simpa [fields, naturalField, truthField] using hsame

theorem takes_finish (owner : Path) (draft : Draft) (limit : Nat) :
    Takes limit (finish owner draft) 0 fun event =>
      draft.atStep = some event.atStep ∧ draft.key = some event.key ∧
        event.pressed = draft.pressed.getD true := by
  unfold finish
  split
  next atStep key hstep hkey =>
    refine (takes_pure _).congr fun event => ?_
    obtain ⟨_, _, _⟩ := event
    simp [hstep, hkey, eq_comm]
  next hstep =>
    exact (takes_throw _ 0).congr fun event => by simp [hstep]
  next hkey _ =>
    exact (takes_throw _ 0).congr fun event => by simp [hkey]

/-- What is taken into a draft, and what the draft is finished to. -/
theorem exists_draft_iff (document : Document) (entries : List (Node × Node)) (event : KeyEvent) :
    (∃ draft : Draft, document.Fills fields true entries draft ∧
      draft.atStep = some event.atStep ∧ draft.key = some event.key ∧
        event.pressed = draft.pressed.getD true) ↔ IsWritten document entries event := by
  simp only [Document.Fills, Document.isKey_true_iff, fields, List.forall_mem_cons,
    List.not_mem_nil, false_implies, implies_true, and_true, naturalField, truthField]
  constructor
  · rintro ⟨draft, ⟨htexts, hstep, hkey, hpressed⟩, hatStep, hatKey, hvalue⟩
    rw [hatStep, added_some_iff] at hstep
    rw [hatKey, added_some_iff] at hkey
    exact ⟨htexts, hstep, hkey, (exists_added_iff _ _ _).mp ⟨_, hpressed, hvalue⟩⟩
  · rintro ⟨htexts, hstep, hkey, hpressed⟩
    obtain ⟨pressed, hadded, hvalue⟩ := (exists_added_iff _ _ _).mpr hpressed
    exact ⟨⟨some event.atStep, some event.key, pressed⟩,
      ⟨htexts, (added_some_iff _ _).mpr hstep, (added_some_iff _ _).mpr hkey, hadded⟩,
      rfl, rfl, hvalue⟩

theorem takes_read (place : Place) :
    Takes place.document.referenceLimit (read place)
      (place.document.recordReferences fields place.node)
      (place.document.Gives (IsWritten place.document) place.node) :=
  isRecord.takes_record place place.path "struct InputEvent" ⟨none, none, none⟩
    (by simp [fields, naturalField, truthField])
    (fun draft => takes_finish place.path draft _) (exists_draft_iff place.document)

end KeyEvent

/-! ## The setup of the machine -/

namespace MachineConfig

/-- Entries that write a setup of the machine. -/
structure IsWritten (document : Document) (entries : List (Node × Node))
    (machine : MachineConfig) : Prop where
  keys : document.HasKeys ["seed", "stack_limit"] entries
  seed : Setting document.IsOptional none (document.valuesOf entries "seed") machine.seed
  stackLimit : Setting document.IsOptional none (document.valuesOf entries "stack_limit")
    machine.stackLimit

/-- The fields of a setup of the machine. -/
def fields : List (RecordField Draft) :=
  [optionalField "seed" "u64" (·.seed) fun draft value => { draft with seed := some value },
    optionalField "stack_limit" "usize" (·.stackLimit) fun draft value =>
      { draft with stackLimit := some value }]

theorem isRecord : IsRecord take fields false where
  names := by decide
  known := by
    intro field hfield owner draft place
    fin_cases hfield <;> rfl
  passed := fun hpasses => nomatch hpasses
  refused := by
    intro _ name hnone owner draft place
    have hnames : "seed" ≠ name ∧ "stack_limit" ≠ name := by
      simpa [fields, optionalField] using hnone
    unfold take
    split
    · exact absurd rfl hnames.1
    · exact absurd rfl hnames.2
    · exact ⟨_, rfl⟩
  reads := by
    intro field hfield place
    fin_cases hfield
    · exact place.takes_optional "u64"
    · exact place.takes_optional "usize"
  get_set := by
    intro field hfield draft value
    fin_cases hfield <;> rfl
  get_set_of_ne := by
    intro field hfield other hother hname draft value
    fin_cases hfield <;> fin_cases hother <;> first | rfl | exact absurd rfl hname
  ext := by
    rintro ⟨seed, stackLimit⟩ ⟨_, _⟩ hsame
    simpa [fields, optionalField] using hsame

theorem exists_draft_iff (document : Document) (entries : List (Node × Node))
    (machine : MachineConfig) :
    (∃ draft : Draft, document.Fills fields false entries draft ∧ machine = finish draft) ↔
      IsWritten document entries machine := by
  have hnames : fields.map RecordField.name = ["seed", "stack_limit"] := rfl
  simp only [Document.Fills, Document.isKey_false_iff, hnames]
  simp only [fields, List.forall_mem_cons, List.not_mem_nil, false_implies, implies_true, and_true,
    optionalField]
  constructor
  · rintro ⟨draft, ⟨hknown, hseed, hlimit⟩, rfl⟩
    have hseed := (exists_added_iff none _ _).mp ⟨_, hseed, rfl⟩
    have hlimit := (exists_added_iff none _ _).mp ⟨_, hlimit, rfl⟩
    refine ⟨(document.hasKeys_iff _ _).mpr ⟨hknown, ?_⟩, hseed, hlimit⟩
    simp [hseed.length_le_one, hlimit.length_le_one]
  · rintro ⟨hkeys, hseed, hlimit⟩
    obtain ⟨seed, hseed, hseedValue⟩ := (exists_added_iff _ _ _).mpr hseed
    obtain ⟨limit, hlimit, hlimitValue⟩ := (exists_added_iff _ _ _).mpr hlimit
    refine ⟨⟨seed, limit⟩, ⟨hkeys.known, hseed, hlimit⟩, ?_⟩
    obtain ⟨_, _⟩ := machine
    cases hseedValue
    cases hlimitValue
    rfl

theorem takes_read (place : Place) :
    Takes place.document.referenceLimit (read place)
      (place.document.recordReferences fields place.node)
      (place.document.Gives (IsWritten place.document) place.node) :=
  isRecord.takes_record place place.path "struct Chip8Conf" ⟨none, none⟩
    (by simp [fields, optionalField]) (fun draft => takes_pure (finish draft))
    (exists_draft_iff place.document)

end MachineConfig

/-! ## Configurations -/

namespace RunConfig

/-- Entries that write a configuration. -/
structure IsWritten (document : Document) (entries : List (Node × Node)) (config : RunConfig) :
    Prop where
  keys : document.HasKeys
    ["cpu_frequency", "timer_frequency", "duration_ms", "max_steps", "throttle", "vm", "input"]
    entries
  cpuFrequency : Setting document.IsNatural 1000 (document.valuesOf entries "cpu_frequency")
    config.cpuFrequency
  timerFrequency : Setting document.IsNatural 60 (document.valuesOf entries "timer_frequency")
    config.timerFrequency
  durationMs : Setting document.IsNatural 1000 (document.valuesOf entries "duration_ms")
    config.durationMs
  maxSteps : Setting document.IsOptional none (document.valuesOf entries "max_steps")
    config.maxSteps
  throttle : Setting document.IsTruth false (document.valuesOf entries "throttle") config.throttle
  machine : Setting (document.Gives (MachineConfig.IsWritten document)) ⟨none, none⟩
    (document.valuesOf entries "vm") config.machine
  input : Setting (document.IsList (document.Gives (KeyEvent.IsWritten document))) []
    (document.valuesOf entries "input") config.input

/-- The fields of a configuration. -/
def fields : List (RecordField Draft) :=
  [naturalField "cpu_frequency" "u64" (·.cpuFrequency) fun draft value =>
      { draft with cpuFrequency := some value },
    naturalField "timer_frequency" "u64" (·.timerFrequency) fun draft value =>
      { draft with timerFrequency := some value },
    naturalField "duration_ms" "u64" (·.durationMs) fun draft value =>
      { draft with durationMs := some value },
    optionalField "max_steps" "u64" (·.maxSteps) fun draft value =>
      { draft with maxSteps := some value },
    truthField "throttle" (·.throttle) fun draft value => { draft with throttle := some value },
    { name := "vm"
      Value := MachineConfig
      get := (·.machine)
      set := fun draft value => { draft with machine := some value }
      read := MachineConfig.read
      gives := fun document => document.Gives (MachineConfig.IsWritten document)
      references := fun document => document.recordReferences MachineConfig.fields },
    { name := "input"
      Value := List KeyEvent
      get := (·.input)
      set := fun draft value => { draft with input := some value }
      read := (·.list KeyEvent.read)
      gives := fun document => document.IsList (document.Gives (KeyEvent.IsWritten document))
      references := fun document =>
        document.listReferences (document.recordReferences KeyEvent.fields) }]

theorem isRecord : IsRecord take fields false where
  names := by decide
  known := by
    intro field hfield owner draft place
    fin_cases hfield <;> rfl
  passed := fun hpasses => nomatch hpasses
  refused := by
    intro _ name hnone owner draft place
    have hnames : name ∉ keyNames := by
      intro hname
      have hfields : name ∈ fields.map RecordField.name := hname
      obtain ⟨field, hfield, hsame⟩ := List.mem_map.mp hfields
      exact hnone field hfield hsame
    unfold take
    split
    case h_8 => exact ⟨_, rfl⟩
    all_goals exact absurd (by decide) hnames
  reads := by
    intro field hfield place
    fin_cases hfield
    · exact place.takes_natural "u64"
    · exact place.takes_natural "u64"
    · exact place.takes_natural "u64"
    · exact place.takes_optional "u64"
    · exact place.takes_truth
    · exact MachineConfig.takes_read place
    · exact place.takes_list fun position node =>
        KeyEvent.takes_read (place.move (.item position) node)
  get_set := by
    intro field hfield draft value
    fin_cases hfield <;> rfl
  get_set_of_ne := by
    intro field hfield other hother hname draft value
    fin_cases hfield <;> fin_cases hother <;> first | rfl | exact absurd rfl hname
  ext := by
    rintro ⟨_, _, _, _, _, _, _⟩ ⟨_, _, _, _, _, _, _⟩ hsame
    simpa [fields, naturalField, optionalField, truthField] using hsame

theorem exists_draft_iff (document : Document) (entries : List (Node × Node))
    (config : RunConfig) :
    (∃ draft : Draft, document.Fills fields false entries draft ∧ config = finish draft) ↔
      IsWritten document entries config := by
  have hnames : fields.map RecordField.name = keyNames := rfl
  simp only [Document.Fills, Document.isKey_false_iff, hnames]
  simp only [fields, List.forall_mem_cons, List.not_mem_nil, false_implies, implies_true, and_true,
    naturalField, optionalField, truthField]
  constructor
  · rintro ⟨draft, ⟨hknown, hcpu, htimer, hduration, hsteps, hthrottle, hmachine, hinput⟩, rfl⟩
    have hcpu := (exists_added_iff 1000 _ _).mp ⟨_, hcpu, rfl⟩
    have htimer := (exists_added_iff 60 _ _).mp ⟨_, htimer, rfl⟩
    have hduration := (exists_added_iff 1000 _ _).mp ⟨_, hduration, rfl⟩
    have hsteps := (exists_added_iff none _ _).mp ⟨_, hsteps, rfl⟩
    have hthrottle := (exists_added_iff false _ _).mp ⟨_, hthrottle, rfl⟩
    have hmachine := (exists_added_iff ⟨none, none⟩ _ _).mp ⟨_, hmachine, rfl⟩
    have hinput := (exists_added_iff [] _ _).mp ⟨_, hinput, rfl⟩
    refine ⟨(document.hasKeys_iff _ _).mpr ⟨hknown, ?_⟩, hcpu, htimer, hduration, hsteps,
      hthrottle, hmachine, hinput⟩
    simp [hcpu.length_le_one, htimer.length_le_one, hduration.length_le_one, hsteps.length_le_one,
      hthrottle.length_le_one, hmachine.length_le_one, hinput.length_le_one]
  · rintro ⟨hkeys, hcpu, htimer, hduration, hsteps, hthrottle, hmachine, hinput⟩
    obtain ⟨cpu, hcpu, hcpuValue⟩ := (exists_added_iff _ _ _).mpr hcpu
    obtain ⟨timer, htimer, htimerValue⟩ := (exists_added_iff _ _ _).mpr htimer
    obtain ⟨duration, hduration, hdurationValue⟩ := (exists_added_iff _ _ _).mpr hduration
    obtain ⟨steps, hsteps, hstepsValue⟩ := (exists_added_iff _ _ _).mpr hsteps
    obtain ⟨throttle, hthrottle, hthrottleValue⟩ := (exists_added_iff _ _ _).mpr hthrottle
    obtain ⟨machine, hmachine, hmachineValue⟩ := (exists_added_iff _ _ _).mpr hmachine
    obtain ⟨input, hinput, hinputValue⟩ := (exists_added_iff _ _ _).mpr hinput
    refine ⟨⟨cpu, timer, duration, steps, throttle, machine, input⟩,
      ⟨hkeys.known, hcpu, htimer, hduration, hsteps, hthrottle, hmachine, hinput⟩, ?_⟩
    obtain ⟨_, _, _, _, _, _, _⟩ := config
    cases hcpuValue
    cases htimerValue
    cases hdurationValue
    cases hstepsValue
    cases hthrottleValue
    cases hmachineValue
    cases hinputValue
    rfl

/-- A place is read as the configuration that it writes. -/
theorem takes_readPlace (place : Place) :
    Takes place.document.referenceLimit (readPlace place)
      (place.document.recordReferences fields place.node)
      (place.document.Gives (IsWritten place.document) place.node) :=
  isRecord.takes_record place place.path "struct RunConfig" Draft.empty
    (by simp [fields, naturalField, optionalField, truthField, Draft.empty])
    (fun draft => takes_pure (finish draft)) (exists_draft_iff place.document)

end RunConfig
end ChipEight
