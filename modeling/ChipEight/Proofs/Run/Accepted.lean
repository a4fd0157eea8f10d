import Mathlib
import ChipEight.Proofs.Run.KeyScript
import ChipEight.Proofs.Run.Written
import ChipEight.Proofs.Yaml.KeyOrder

/-!
# Accepted configurations

A document is accepted if it writes a configuration whose numbers are within bounds, and the
configuration that is used has its key events in order.  If only the bounds are broken, the
configuration is refused; anything else is reported as unreadable.

The order of the keys plays no part, neither in the document nor in the mappings in it
(`RunConfig.IsWritten.of_entriesAlike`).
-/

namespace ChipEight

open Yaml

/-! ## The order of key events -/

namespace KeyEvent

/-- In a list of key events those of other lists stand in order, and events of one moment as
they stand in the other list. -/
structure IsStableSort (given sorted : List KeyEvent) : Prop where
  perm : sorted.Perm given
  inOrder : sorted.Pairwise fun first second => first.atStep ≤ second.atStep
  stable : ∀ step, sorted.filter (·.atStep = step) = given.filter (·.atStep = step)

/-- There is one stable order only. -/
theorem IsStableSort.unique {given first second : List KeyEvent}
    (hfirst : IsStableSort given first) (hsecond : IsStableSort given second) :
    first = second := by
  induction first generalizing given second with
  | nil => exact (hsecond.perm.trans hfirst.perm.symm).symm.nil_eq
  | cons event rest ih =>
      have hperm := hsecond.perm.trans hfirst.perm.symm
      match second with
      | [] => exact absurd hperm.nil_eq (List.cons_ne_nil _ _).symm
      | other :: others =>
        obtain ⟨hevent, hrest⟩ := List.pairwise_cons.mp hfirst.inOrder
        obtain ⟨hother, hothers⟩ := List.pairwise_cons.mp hsecond.inOrder
        have hsame (step : Nat) := (hfirst.stable step).trans (hsecond.stable step).symm
        -- Neither of the first events is later than the other, so they are of one moment,
        -- and of that moment both are the first.
        have hmoment : event.atStep = other.atStep := by
          apply Nat.le_antisymm
          · rcases List.mem_cons.mp (hperm.subset List.mem_cons_self) with rfl | hmem
            · exact Nat.le_refl _
            · exact hevent other hmem
          · rcases List.mem_cons.mp (hperm.symm.subset List.mem_cons_self) with rfl | hmem
            · exact Nat.le_refl _
            · exact hother event hmem
        have hhead := hsame event.atStep
        rw [List.filter_cons_of_pos (by simp), List.filter_cons_of_pos (by simp [hmoment])] at hhead
        obtain ⟨rfl, -⟩ := List.cons.inj hhead
        have htail : rest = others := by
          refine ih ⟨List.Perm.refl rest, hrest, fun _ => rfl⟩ ⟨hperm.cons_inv, hothers, ?_⟩
          intro step
          have hfilter := hsame step
          by_cases hstep : event.atStep = step
          · rw [List.filter_cons_of_pos (by simp [hstep]),
              List.filter_cons_of_pos (by simp [hstep])] at hfilter
            exact (List.cons.inj hfilter).2.symm
          · rw [List.filter_cons_of_neg (by simp [hstep]),
              List.filter_cons_of_neg (by simp [hstep])] at hfilter
            exact hfilter.symm
        rw [htail]

end KeyEvent

namespace RunConfig

theorem isStableSort_sortInput (config : RunConfig) :
    KeyEvent.IsStableSort config.input config.sortInput.input := by
  refine ⟨config.perm_sortInput, config.inOrder_sortInput, fun step => ?_⟩
  refine config.filter_sortInput fun first hfirst second hsecond => ?_
  have hfirst : first.atStep = step := of_decide_eq_true (List.mem_filter.mp hfirst).2
  have hsecond : second.atStep = step := of_decide_eq_true (List.mem_filter.mp hsecond).2
  exact decide_eq_true (hfirst.trans hsecond.symm).le

/-- A configuration with its key events in order, and nothing else changed. -/
def IsOrdered (given config : RunConfig) : Prop :=
  config = { given with input := config.input } ∧
    KeyEvent.IsStableSort given.input config.input

theorem isOrdered_iff (given config : RunConfig) :
    IsOrdered given config ↔ config = given.sortInput := by
  constructor
  · rintro ⟨hrest, hsort⟩
    rw [hrest, hsort.unique given.isStableSort_sortInput]
    rfl
  · rintro rfl
    exact ⟨rfl, given.isStableSort_sortInput⟩

end RunConfig

/-! ## The order of keys -/

section Order

variable {document other : Document} {same : Node → Node → Prop}
  (hmatches : document.Matches other same) {entries others : List (Node × Node)}
  (hentries : EntriesAlike same entries others)

include hmatches

theorem Key.carries_isWritten : Carries same (Key.IsWritten document) (Key.IsWritten other) :=
  fun _ _ hsame _ hkey => hmatches.carries_isInteger hsame hkey

include hentries

theorem KeyEvent.IsWritten.of_entriesAlike {event : KeyEvent}
    (hwritten : IsWritten document entries event) : IsWritten other others event where
  texts := by
    intro entry hentry
    obtain ⟨found, hfound, htext⟩ := hmatches.exists_entry hentries hentry
    obtain ⟨name, hname⟩ := hwritten.texts found hfound
    exact ⟨name, htext.symm.trans hname⟩
  atStep := hmatches.required hentries hmatches.carries_isNatural hwritten.atStep
  key := hmatches.required hentries (Key.carries_isWritten hmatches) hwritten.key
  pressed := hmatches.setting hentries hmatches.carries_isTruth hwritten.pressed

theorem MachineConfig.IsWritten.of_entriesAlike {machine : MachineConfig}
    (hwritten : IsWritten document entries machine) : IsWritten other others machine where
  keys := hmatches.hasKeys hentries hwritten.keys
  seed := hmatches.setting hentries hmatches.carries_isOptional hwritten.seed
  stackLimit := hmatches.setting hentries hmatches.carries_isOptional hwritten.stackLimit

theorem RunConfig.IsWritten.of_entriesAlike {config : RunConfig}
    (hwritten : IsWritten document entries config) : IsWritten other others config where
  keys := hmatches.hasKeys hentries hwritten.keys
  cpuFrequency := hmatches.setting hentries hmatches.carries_isNatural hwritten.cpuFrequency
  timerFrequency := hmatches.setting hentries hmatches.carries_isNatural hwritten.timerFrequency
  durationMs := hmatches.setting hentries hmatches.carries_isNatural hwritten.durationMs
  maxSteps := hmatches.setting hentries hmatches.carries_isOptional hwritten.maxSteps
  throttle := hmatches.setting hentries hmatches.carries_isTruth hwritten.throttle
  machine := hmatches.setting hentries
    (hmatches.carries_gives fun _ _ halike _ hmachine => hmachine.of_entriesAlike hmatches halike)
    hwritten.machine
  input := hmatches.setting hentries
    (hmatches.carries_isList (hmatches.carries_gives fun _ _ halike _ hevent =>
      hevent.of_entriesAlike hmatches halike))
    hwritten.input

end Order

namespace RunConfig

/-! ## Documents -/

/-- A document writes a configuration. -/
def IsGiven (document : Document) (config : RunConfig) : Prop :=
  document.Gives (IsWritten document) (document.root.getD .absent) config

theorem IsGiven.of_sameData {document other : Document} {config : RunConfig}
    (hgiven : IsGiven document config) (hdata : document.SameData other) :
    IsGiven other config := by
  obtain ⟨same, hmatches, hroots⟩ := hdata
  exact hmatches.carries_gives
    (fun _ _ halike _ hwritten => hwritten.of_entriesAlike hmatches halike) hroots hgiven

/-- The numbers of a configuration are within bounds. -/
structure WithinBounds (config : RunConfig) : Prop where
  timer : 0 < config.timerFrequency
  duration : config.durationMs * config.timerFrequency < 2 ^ 64
  cpu : config.cpuFrequency + config.timerFrequency < 2 ^ 64

theorem withinBounds_iff (config : RunConfig) :
    config.WithinBounds ↔ config.refusal? = none := by
  have hbound : wordBound = 2 ^ 64 := by decide
  rw [refusal?_eq_none_iff, hbound]
  exact ⟨fun ⟨htimer, hduration, hcpu⟩ => ⟨htimer, hduration, hcpu⟩,
    fun ⟨htimer, hduration, hcpu⟩ => ⟨htimer, hduration, hcpu⟩⟩

/-- How many references are followed to read a configuration. -/
def references (document : Document) : Nat :=
  document.recordReferences fields (document.root.getD .absent)

/-- A document whose syntax is in order and that has no more references than are followed. -/
def IsReadable (document : Document) : Prop :=
  document.fault = none ∧ references document ≤ document.referenceLimit

/-- What becomes of a document that is read as a configuration. -/
structure ReadsExactly (document : Document) : Prop where
  accepted : ∀ config, ofDocument document = .ok config ↔
    ∃ given, IsGiven document given ∧ given.WithinBounds ∧ IsOrdered given config
  accepts : (∃ config, ofDocument document = .ok config) ↔
    ∃ given, IsGiven document given ∧ given.WithinBounds
  refuses : (∃ refusal, ofDocument document = .error (.refused refusal)) ↔
    ∃ given, IsGiven document given ∧ ¬ given.WithinBounds
  unreadable : (∃ error, ofDocument document = .error (.unreadable error)) ↔
    ¬ ∃ given, IsGiven document given
  /-- The order of keys makes no difference. -/
  reordered : ∀ other, document.SameData other → IsReadable other →
    ∀ config, ofDocument other = .ok config ↔ ofDocument document = .ok config

section Readable

variable {document : Document} (hreadable : IsReadable document)

include hreadable

theorem decode_eq_ok_iff (given : RunConfig) :
    document.decode readPlace = .ok given ↔ IsGiven document given :=
  Document.decode_eq_ok_iff readPlace hreadable.1 (takes_readPlace document.place) hreadable.2 given

theorem ofDocument_eq_ok_iff (config : RunConfig) : ofDocument document = .ok config ↔
    ∃ given, IsGiven document given ∧ given.WithinBounds ∧ IsOrdered given config := by
  simp only [isOrdered_iff, withinBounds_iff, ← decode_eq_ok_iff hreadable]
  rcases ofDocument_cases document with
    ⟨error, hdecode, hof⟩ | ⟨given, hdecode, ⟨refusal, hrefusal, hof⟩ | ⟨hrefusal, hof⟩⟩
  · simp [hdecode, hof]
  · simp [hdecode, hof, hrefusal]
  · simp [hdecode, hof, hrefusal, eq_comm]

theorem accepts_iff : (∃ config, ofDocument document = .ok config) ↔
    ∃ given, IsGiven document given ∧ given.WithinBounds := by
  simp only [ofDocument_eq_ok_iff hreadable, isOrdered_iff]
  constructor
  · rintro ⟨_, given, hgiven, hbounds, -⟩
    exact ⟨given, hgiven, hbounds⟩
  · rintro ⟨given, hgiven, hbounds⟩
    exact ⟨_, given, hgiven, hbounds, rfl⟩

theorem refuses_iff : (∃ refusal, ofDocument document = .error (.refused refusal)) ↔
    ∃ given, IsGiven document given ∧ ¬ given.WithinBounds := by
  simp only [withinBounds_iff, ← decode_eq_ok_iff hreadable]
  rcases ofDocument_cases document with
    ⟨error, hdecode, hof⟩ | ⟨given, hdecode, ⟨refusal, hrefusal, hof⟩ | ⟨hrefusal, hof⟩⟩
  · simp [hdecode, hof]
  · simp [hdecode, hof, hrefusal]
  · simp [hdecode, hof, hrefusal]

theorem unreadable_iff : (∃ error, ofDocument document = .error (.unreadable error)) ↔
    ¬ ∃ given, IsGiven document given := by
  simp only [← decode_eq_ok_iff hreadable]
  rcases ofDocument_cases document with
    ⟨error, hdecode, hof⟩ | ⟨given, hdecode, ⟨refusal, -, hof⟩ | ⟨-, hof⟩⟩
  · simp [hdecode, hof]
  · simp [hdecode, hof]
  · simp [hdecode, hof]

theorem ofDocument_sameData {other : Document} (hdata : document.SameData other)
    (hother : IsReadable other) (config : RunConfig) :
    ofDocument other = .ok config ↔ ofDocument document = .ok config := by
  have hgiven (given : RunConfig) : IsGiven other given ↔ IsGiven document given :=
    ⟨fun hother => hother.of_sameData hdata.symm, fun hgiven => hgiven.of_sameData hdata⟩
  simp only [ofDocument_eq_ok_iff hreadable, ofDocument_eq_ok_iff hother, hgiven]

/-- A configuration is accepted exactly if it is written and its numbers are within bounds. -/
theorem readsExactly : ReadsExactly document where
  accepted := ofDocument_eq_ok_iff hreadable
  accepts := accepts_iff hreadable
  refuses := refuses_iff hreadable
  unreadable := unreadable_iff hreadable
  reordered := fun _ hdata hother => ofDocument_sameData hreadable hdata hother

end Readable

/-- The events of a document that is accepted are put in order, whatever the order of their
keys. -/
theorem readsExactly_events :
    IsReadable (.ofText "input: [{key: 3, at_step: 9}, {at_step: 2, key: 10}]") ∧
      ∃ config, config.input = [⟨2, 10, true⟩, ⟨9, 3, true⟩] ∧
        ofDocument (.ofText "input: [{key: 3, at_step: 9}, {at_step: 2, key: 10}]") = .ok config ∧
        ∃ given, IsGiven (.ofText "input: [{key: 3, at_step: 9}, {at_step: 2, key: 10}]") given ∧
          given.WithinBounds ∧ IsOrdered given config := by
  have hreadable : IsReadable (.ofText "input: [{key: 3, at_step: 9}, {at_step: 2, key: 10}]") :=
    ⟨by cbv, by cbv⟩
  have haccepted : ofDocument (.ofText "input: [{key: 3, at_step: 9}, {at_step: 2, key: 10}]") =
      .ok { default with input := [⟨2, 10, true⟩, ⟨9, 3, true⟩] } := by cbv
  exact ⟨hreadable, _, rfl, haccepted, ((readsExactly hreadable).accepted _).mp haccepted⟩

/-- An integer that is in range is no number where it is written with a minus sign, and a key
of a key event that is no text is not passed over. -/
theorem refuses_minus_and_list :
    integer? ['-', '0'] = some 0 ∧
      ofDocument (.ofText "cpu_frequency: -0") = .error (.unreadable
        (.data [.key "cpu_frequency"] (.wrongKind (.integer 0) "u64"))) ∧
      ofDocument (.ofText "input: [{at_step: 0, key: 1, [1]: 2}]") = .error (.unreadable
        (.data [.key "input", .item 0] (.wrongKind .sequence "field identifier"))) := by
  decide +kernel

end RunConfig
end ChipEight
