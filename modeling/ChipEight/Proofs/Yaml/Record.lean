import Mathlib
import ChipEight.Proofs.Yaml.Given

/-!
# Records

A record is read out of a mapping by going through its entries and putting each value into
the field with the name of its key.  A field that has a value already refuses another one,
and a key that is no field is passed over or refused, as the record has it.

What comes out depends on the values with each name only, and not on the order in which the
names stand (`IsRecord.takes_foldEntries`).  The induction is on the entries, for a record
that may have been filled in part: a field that is filled must not be named again
(`Added`).
-/

namespace ChipEight
namespace Yaml

/-! ## Fields -/

/-- A field of a record of which not all fields have been read: how it is kept and read,
and what its value should be. -/
structure RecordField (Draft : Type) where
  name : String
  Value : Type
  get : Draft → Option Value
  set : Draft → Value → Draft
  read : Place → Reading Value
  gives : Document → Node → Value → Prop
  references : Document → Node → Nat

/-- What the values with the name of a field make of the field.  It takes one value if it is
empty, and none if it is not. -/
def Added {α : Type} (gives : Node → α → Prop) : Option α → List Node → Option α → Prop
  | start, [], final => final = start
  | none, [node], final => ∃ value, gives node value ∧ final = some value
  | _, _, _ => False

section Added

variable {α : Type} {gives : Node → α → Prop}

theorem added_nil (start final : Option α) : Added gives start [] final ↔ final = start := by
  cases start <;> rfl

theorem added_cons (start final : Option α) (node : Node) (rest : List Node) :
    Added gives start (node :: rest) final ↔
      start = none ∧ ∃ value, gives node value ∧ Added gives (some value) rest final := by
  cases start with
  | some value => simp [Added]
  | none =>
      cases rest with
      | nil => simp [Added]
      | cons next rest => simp [Added]

/-- An empty field with a value for the case that it stays empty. -/
theorem exists_added_iff (missing value : α) (nodes : List Node) :
    (∃ final, Added gives none nodes final ∧ value = final.getD missing) ↔
      Setting gives missing nodes value := by
  match nodes with
  | [] => simp [Added, Setting]
  | [node] => simp [Added, Setting]
  | _ :: _ :: _ => simp [Added, Setting]

/-- A field that has a value at the end. -/
theorem added_some_iff (nodes : List Node) (value : α) :
    Added gives none nodes (some value) ↔ Required gives nodes value := by
  match nodes with
  | [] => simp [Added, Required]
  | [node] => simp [Added, Required]
  | _ :: _ :: _ => simp [Added, Required]

end Added

/-! ## Reading entries -/

namespace Document

variable (document : Document)

theorem valuesOf_cons_of_eq {key value : Node} {name : String}
    (hname : document.keyText? key = some name) (rest : List (Node × Node)) :
    document.valuesOf ((key, value) :: rest) name = value :: document.valuesOf rest name := by
  simp [valuesOf, hname]

theorem valuesOf_cons_of_ne {key value : Node} {name : String}
    (hname : document.keyText? key ≠ some name) (rest : List (Node × Node)) :
    document.valuesOf ((key, value) :: rest) name = document.valuesOf rest name := by
  simp [valuesOf, hname]

variable {Draft : Type} (fields : List (RecordField Draft))

/-- How many references are followed to read a value with a given name. -/
def valueReferences (value : Node) (name : String) : Nat :=
  match fields.find? (·.name = name) with
  | some field => field.references document value
  | none => 0

/-- How many references are followed to read an entry of a record. -/
def entryReferences (entry : Node × Node) : Nat :=
  entry.1.references +
    ((document.keyText? entry.1).map (document.valueReferences fields entry.2)).getD 0

/-- A key that a record may have.  A record that passes over what is no field of it may have
any text as a key. -/
def IsKey (passes : Bool) (key : Node) : Prop :=
  ∃ name, document.keyText? key = some name ∧ (passes = true ∨ ∃ field ∈ fields, field.name = name)

theorem isKey_true_iff (key : Node) :
    document.IsKey fields true key ↔ ∃ name, document.keyText? key = some name := by
  simp [IsKey]

theorem isKey_false_iff (key : Node) :
    document.IsKey fields false key ↔
      ∃ name ∈ fields.map RecordField.name, document.keyText? key = some name := by
  simp only [IsKey, Bool.false_eq_true, false_or, List.mem_map, and_comm]

/-- What is in a record that has been filled with the entries of a mapping. -/
def Fills (passes : Bool) (entries : List (Node × Node)) (final : Draft) : Prop :=
  (∀ entry ∈ entries, document.IsKey fields passes entry.1) ∧
    ∀ field ∈ fields, Added (field.gives document) none
      (document.valuesOf entries field.name) (field.get final)

/-- The keys of a mapping are texts from a list, and none of them is there twice. -/
structure HasKeys (names : List String) (entries : List (Node × Node)) : Prop where
  known : ∀ entry ∈ entries, ∃ name ∈ names, document.keyText? entry.1 = some name
  distinct : (entries.map fun entry => document.keyText? entry.1).Nodup

theorem length_valuesOf (entries : List (Node × Node)) (name : String) :
    (document.valuesOf entries name).length =
      (entries.map fun entry => document.keyText? entry.1).count (some name) := by
  induction entries with
  | nil => rfl
  | cons entry rest ih =>
      obtain ⟨key, value⟩ := entry
      by_cases hname : document.keyText? key = some name
      · rw [document.valuesOf_cons_of_eq hname, List.length_cons, ih, List.map_cons, hname,
          List.count_cons_self]
      · rw [document.valuesOf_cons_of_ne hname, ih, List.map_cons, List.count_cons_of_ne hname]

/-- Keys from a list are distinct if there is one value at most with each name in it. -/
theorem hasKeys_iff (names : List String) (entries : List (Node × Node)) :
    document.HasKeys names entries ↔
      (∀ entry ∈ entries, ∃ name ∈ names, document.keyText? entry.1 = some name) ∧
        ∀ name ∈ names, (document.valuesOf entries name).length ≤ 1 := by
  simp only [length_valuesOf]
  constructor
  · rintro ⟨hknown, hdistinct⟩
    exact ⟨hknown, fun name _ => List.nodup_iff_count_le_one.mp hdistinct (some name)⟩
  · rintro ⟨hknown, honce⟩
    refine ⟨hknown, List.nodup_iff_count_le_one.mpr fun text => ?_⟩
    by_cases hmem : text ∈ entries.map fun entry => document.keyText? entry.1
    · obtain ⟨entry, hentry, rfl⟩ := List.mem_map.mp hmem
      obtain ⟨name, hname, htext⟩ := hknown entry hentry
      rw [htext]
      exact honce name hname
    · rw [List.count_eq_zero_of_not_mem hmem]
      exact Nat.zero_le 1

/-- The entries of a mapping, and none of anything else. -/
def entriesOf (node : Node) : List (Node × Node) :=
  match document.resolve node with
  | .mapping entries => entries
  | _ => []

theorem IsMap.eq_entriesOf {document : Document} {node : Node} {entries : List (Node × Node)}
    (hmap : document.IsMap node entries) : entries = document.entriesOf node := by
  rcases hmap with hmapping | ⟨scalar, hscalar, -, rfl⟩
  · rw [entriesOf, hmapping]
  · rw [entriesOf, hscalar]

/-- How many references are followed to read a record. -/
def recordReferences (node : Node) : Nat :=
  node.references + ((document.entriesOf node).map (document.entryReferences fields)).sum

/-- A node is a mapping whose entries write a value. -/
def Gives {α : Type} (writes : List (Node × Node) → α → Prop) (node : Node) (value : α) : Prop :=
  ∃ entries, document.IsMap node entries ∧ writes entries value

end Document

theorem Setting.length_le_one {α : Type} {gives : Node → α → Prop} {missing : α}
    {nodes : List Node} {value : α} (hsetting : Setting gives missing nodes value) :
    nodes.length ≤ 1 := by
  match nodes with
  | [] | [_] => simp
  | _ :: _ :: _ => exact hsetting.elim

@[simp]
theorem Place.document_valuePlace (place : Place) (key value : Node) :
    (place.valuePlace key value).document = place.document := by
  unfold valuePlace
  split <;> rfl

@[simp]
theorem Place.node_valuePlace (place : Place) (key value : Node) :
    (place.valuePlace key value).node = value := by
  unfold valuePlace
  split <;> rfl

/-- A record with the given fields, whose entries are taken by a function; `passes` tells
whether it passes over other keys. -/
structure IsRecord {Draft : Type} (take : Path → Draft → String → Place → Reading Draft)
    (fields : List (RecordField Draft)) (passes : Bool) : Prop where
  names : (fields.map RecordField.name).Nodup
  known : ∀ field ∈ fields, ∀ owner draft place, take owner draft field.name place = do
    let value ← readOnce owner field.name (field.get draft) (field.read place)
    return field.set draft value
  passed : passes = true → ∀ name, (∀ field ∈ fields, field.name ≠ name) →
    ∀ owner draft place, take owner draft name place = pure draft
  refused : passes = false → ∀ name, (∀ field ∈ fields, field.name ≠ name) →
    ∀ owner draft place, ∃ error, take owner draft name place = throw error
  reads : ∀ field ∈ fields, ∀ place : Place, Takes place.document.referenceLimit (field.read place)
    (field.references place.document place.node) (field.gives place.document place.node)
  get_set : ∀ field ∈ fields, ∀ draft value, field.get (field.set draft value) = some value
  get_set_of_ne : ∀ field ∈ fields, ∀ other ∈ fields, other.name ≠ field.name →
    ∀ draft value, other.get (field.set draft value) = other.get draft
  ext : ∀ first second : Draft, (∀ field ∈ fields, field.get first = field.get second) →
    first = second

namespace IsRecord

variable {Draft : Type} {take : Path → Draft → String → Place → Reading Draft}
  {fields : List (RecordField Draft)} {passes : Bool}

theorem eq_of_name_eq (hrecord : IsRecord take fields passes) {first second : RecordField Draft}
    (hfirst : first ∈ fields) (hsecond : second ∈ fields) (hname : first.name = second.name) :
    first = second :=
  List.inj_on_of_nodup_map hrecord.names hfirst hsecond hname

theorem find?_name (hrecord : IsRecord take fields passes) {field : RecordField Draft}
    (hfield : field ∈ fields) : fields.find? (·.name = field.name) = some field := by
  cases hfind : fields.find? (·.name = field.name) with
  | none => simpa using List.find?_eq_none.mp hfind field hfield
  | some found =>
      have hname : found.name = field.name := by simpa using List.find?_some hfind
      rw [hrecord.eq_of_name_eq (List.mem_of_find?_eq_some hfind) hfield hname]

/-- What is in a record after all entries have been taken. -/
def Holds (document : Document) (fields : List (RecordField Draft)) (passes : Bool) (start : Draft)
    (entries : List (Node × Node)) (final : Draft) : Prop :=
  (∀ entry ∈ entries, document.IsKey fields passes entry.1) ∧
    ∀ field ∈ fields, Added (field.gives document) (field.get start)
      (document.valuesOf entries field.name) (field.get final)

/-- An entry that is passed over changes nothing. -/
theorem holds_cons_of_passed {document : Document} {start : Draft} {key value : Node}
    {name : String} (hname : document.keyText? key = some name)
    (hnone : ∀ field ∈ fields, field.name ≠ name) (rest : List (Node × Node)) (final : Draft) :
    Holds document fields true start rest final ↔
      Holds document fields true start ((key, value) :: rest) final := by
  have hvalues {field : RecordField Draft} (hfield : field ∈ fields) :
      document.valuesOf ((key, value) :: rest) field.name = document.valuesOf rest field.name :=
    document.valuesOf_cons_of_ne
      (fun hsame => hnone field hfield (Option.some.inj (hsame.symm.trans hname))) _
  constructor
  · rintro ⟨hkeys, hadded⟩
    refine ⟨List.forall_mem_cons.mpr ⟨⟨name, hname, .inl rfl⟩, hkeys⟩, fun field hfield => ?_⟩
    rw [hvalues hfield]
    exact hadded field hfield
  · rintro ⟨hkeys, hadded⟩
    refine ⟨(List.forall_mem_cons.mp hkeys).2, fun field hfield => ?_⟩
    rw [← hvalues hfield]
    exact hadded field hfield

section Entries

variable (hrecord : IsRecord take fields passes) (place : Place) (owner : Path)

include hrecord

/-- An entry with the name of a field fills it. -/
theorem holds_cons_of_field {field : RecordField Draft} (hfield : field ∈ fields) {start : Draft}
    (hempty : field.get start = none) {key value : Node} {document : Document}
    (hname : document.keyText? key = some field.name) (rest : List (Node × Node)) (final : Draft) :
    (∃ found, field.gives document value found ∧
        Holds document fields passes (field.set start found) rest final) ↔
      Holds document fields passes start ((key, value) :: rest) final := by
  have hkey : document.IsKey fields passes key := ⟨field.name, hname, .inr ⟨field, hfield, rfl⟩⟩
  have hothers {other : RecordField Draft} (hother : other.name ≠ field.name) :
      document.valuesOf ((key, value) :: rest) other.name = document.valuesOf rest other.name :=
    document.valuesOf_cons_of_ne (fun hsame => hother (Option.some.inj (hsame.symm.trans hname))) _
  constructor
  · rintro ⟨found, hgives, hkeys, hadded⟩
    refine ⟨List.forall_mem_cons.mpr ⟨hkey, hkeys⟩, fun other hmem => ?_⟩
    by_cases hsame : other.name = field.name
    · rw [hrecord.eq_of_name_eq hmem hfield hsame, document.valuesOf_cons_of_eq hname, added_cons]
      refine ⟨hempty, found, hgives, ?_⟩
      rw [← hrecord.get_set field hfield start found]
      exact hadded field hfield
    · rw [hothers hsame, ← hrecord.get_set_of_ne field hfield other hmem hsame start found]
      exact hadded other hmem
  · rintro ⟨hkeys, hadded⟩
    have hown := hadded field hfield
    rw [document.valuesOf_cons_of_eq hname, added_cons] at hown
    obtain ⟨-, found, hgives, hown⟩ := hown
    refine ⟨found, hgives, (List.forall_mem_cons.mp hkeys).2, fun other hmem => ?_⟩
    by_cases hsame : other.name = field.name
    · rw [hrecord.eq_of_name_eq hmem hfield hsame, hrecord.get_set field hfield]
      exact hown
    · rw [hrecord.get_set_of_ne field hfield other hmem hsame, ← hothers hsame]
      exact hadded other hmem

/-- Going through the entries of a mapping fills a record with the values that are there
under the names of its fields. -/
theorem takes_foldEntries (start : Draft) (entries : List (Node × Node)) :
    Takes place.document.referenceLimit (place.foldEntries (take owner) start entries)
      (entries.map (place.document.entryReferences fields)).sum
      (Holds place.document fields passes start entries) := by
  induction entries generalizing start with
  | nil =>
      refine (takes_pure start).congr fun final => ⟨?_, fun hholds => ?_⟩
      · rintro rfl
        exact ⟨by simp, fun field _ => (added_nil _ _).mpr rfl⟩
      · exact hrecord.ext _ _ fun field hfield => (added_nil _ _).mp (hholds.2 field hfield)
  | cons entry rest ih =>
      obtain ⟨key, value⟩ := entry
      have hnext (name : String) (hname : place.document.keyText? key = some name) :
          Takes place.document.referenceLimit
            (take owner start name (place.valuePlace key value) >>= fun draft =>
              place.foldEntries (take owner) draft rest)
            (((place.document.keyText? key).map
              (place.document.valueReferences fields value)).getD 0 +
              (rest.map (place.document.entryReferences fields)).sum)
            (Holds place.document fields passes start ((key, value) :: rest)) := by
        rw [hname, Option.map_some, Option.getD_some, Document.valueReferences]
        by_cases hfields : ∃ field ∈ fields, field.name = name
        · obtain ⟨field, hfield, rfl⟩ := hfields
          rw [hrecord.find?_name hfield, hrecord.known field hfield]
          cases hget : field.get start with
          | some earlier =>
              refine (takes_throw _ _).congr fun final => ⟨False.elim, fun hholds => ?_⟩
              have hown := hholds.2 field hfield
              rw [place.document.valuesOf_cons_of_eq hname, added_cons, hget] at hown
              cases hown.1
          | none =>
              have hread := hrecord.reads field hfield (place.valuePlace key value)
              rw [place.document_valuePlace, place.node_valuePlace] at hread
              have hfill := (hread.map (field.set start)).bind _ fun draft _ => ih draft
              refine hfill.congr fun final => ?_
              rw [← hrecord.holds_cons_of_field hfield hget hname rest final]
              constructor
              · rintro ⟨draft, ⟨found, hgives, rfl⟩, hholds⟩
                exact ⟨found, hgives, hholds⟩
              · rintro ⟨found, hgives, hholds⟩
                exact ⟨_, ⟨found, hgives, rfl⟩, hholds⟩
        · have hnone : ∀ field ∈ fields, field.name ≠ name :=
            fun field hfield hsame => hfields ⟨field, hfield, hsame⟩
          have hfind : fields.find? (·.name = name) = none := by simpa using hnone
          rw [hfind]
          cases hpasses : passes with
          | true =>
              rw [hrecord.passed hpasses name hnone, pure_bind, Nat.zero_add]
              refine (ih start).congr fun final => ?_
              rw [hpasses]
              exact holds_cons_of_passed hname hnone rest final
          | false =>
              obtain ⟨error, herror⟩ := hrecord.refused hpasses name hnone owner start
                (place.valuePlace key value)
              rw [herror]
              refine (takes_throw _ _).congr fun final => ⟨False.elim, fun hholds => ?_⟩
              obtain ⟨found, hfound, htrue | ⟨field, hfield, hsame⟩⟩ :=
                hholds.1 (key, value) List.mem_cons_self
              · cases htrue
              · exact hnone field hfield (hsame.trans (Option.some.inj (hfound.symm.trans hname)))
      have hread := (place.takes_keyName key).bind _ hnext
      rw [← Nat.add_assoc] at hread
      refine hread.congr fun final => ⟨fun ⟨_, _, hholds⟩ => hholds, fun hholds => ?_⟩
      obtain ⟨name, hname, -⟩ := hholds.1 (key, value) List.mem_cons_self
      exact ⟨name, hname, hholds⟩

/-- A mapping is read as a record that is empty at first and is finished at the end. -/
theorem takes_record {α : Type} (wanted : String) (empty : Draft)
    (hempty : ∀ field ∈ fields, field.get empty = none) {finish : Draft → Reading α}
    {finished : Draft → α → Prop}
    (hfinish : ∀ draft, Takes place.document.referenceLimit (finish draft) 0 (finished draft))
    {writes : List (Node × Node) → α → Prop}
    (hwrites : ∀ entries value, (∃ draft, place.document.Fills fields passes entries draft ∧
      finished draft value) ↔ writes entries value) :
    Takes place.document.referenceLimit
      (do
        let entries ← place.entries wanted
        finish (← place.foldEntries (take owner) empty entries))
      (place.document.recordReferences fields place.node)
      (place.document.Gives writes place.node) := by
  have hholds (entries : List (Node × Node)) (final : Draft) :
      Holds place.document fields passes empty entries final ↔
        place.document.Fills fields passes entries final :=
    and_congr_right fun _ => forall₂_congr fun field hfield => by rw [hempty field hfield]
  have hfold (entries : List (Node × Node)) (hentries : place.document.IsMap place.node entries) :
      Takes place.document.referenceLimit
        (place.foldEntries (take owner) empty entries >>= finish)
        ((place.document.entriesOf place.node).map
          (place.document.entryReferences fields)).sum (writes entries) := by
    rw [← hentries.eq_entriesOf]
    refine ((hrecord.takes_foldEntries place owner empty entries).bind _
      fun draft _ => hfinish draft).congr fun value => ?_
    simp only [hholds, hwrites]
  exact (place.takes_entries wanted).bind _ hfold

end Entries

end IsRecord
end Yaml
end ChipEight
