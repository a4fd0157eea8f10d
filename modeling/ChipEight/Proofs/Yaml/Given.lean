import Mathlib
import ChipEight.Proofs.Run.Reading

/-!
# What a document gives

A place of a document is looked at with something in mind, and it holds that or it does
not.  What it holds is said here with the nodes of the document alone: `IsNatural`,
`IsTruth`, `IsMap` and so on are relations between a node and a value, and a reference
stands for the node that it refers to.

`Takes` compares a reading with such a relation.  It is an equivalence: the reading
succeeds with the values in the relation and with no others.  Its only other reason to
fail is the number of references, so that it says as well how many of them are followed.
-/

namespace ChipEight
namespace Yaml

/-! ## Nodes and values -/

/-- How many references are followed to look at a node. -/
def Node.references : Node → Nat
  | .alias _ => 1
  | _ => 0

namespace Document

variable (document : Document)

/-- The node that a node stands for. -/
def resolve : Node → Node
  | .alias number => document.target number
  | node => node

/-- A node is a text that may write values of a kind, and writes one. -/
def Writes {α : Type} (kind : String) (read : String → Option α) (node : Node) (value : α) :
    Prop :=
  ∃ scalar, document.resolve node = .scalar scalar ∧ scalar.mayWrite kind = true ∧
    read scalar.text = some value

/-- A node is a whole number of 64 bits that is written without a minus sign. -/
def IsNatural (node : Node) (number : Nat) : Prop :=
  document.Writes "int" (fun text => natural? text.toList) node number ∧ number < wordBound

/-- A node is a whole number, of any size. -/
def IsInteger (node : Node) (number : Int) : Prop :=
  document.Writes "int" (fun text => integer? text.toList) node number

/-- A node is a truth value. -/
def IsTruth (node : Node) (value : Bool) : Prop :=
  document.Writes "bool" truth? node value

/-- A node is a whole number as before, or nothing. -/
def IsOptional (node : Node) : Option Nat → Prop
  | none => ∃ scalar, document.resolve node = .scalar scalar ∧ scalar.isNothing = .ok true
  | some number =>
    (∀ scalar, document.resolve node = .scalar scalar → scalar.isNothing = .ok false) ∧
      document.IsNatural (document.resolve node) number

/-- A node is a mapping with the given entries.  Where nothing is written, there are none. -/
def IsMap (node : Node) (entries : List (Node × Node)) : Prop :=
  document.resolve node = .mapping entries ∨
    ∃ scalar, document.resolve node = .scalar scalar ∧ scalar.isAbsent = true ∧ entries = []

/-- A node is a list of the given values.  Where nothing is written, there are none. -/
def IsList {α : Type} (gives : Node → α → Prop) (node : Node) (values : List α) : Prop :=
  (∃ items, document.resolve node = .sequence items ∧ List.Forall₂ gives items values) ∨
    ∃ scalar, document.resolve node = .scalar scalar ∧ scalar.isAbsent = true ∧ values = []

/-- How many references are followed to read a list. -/
def listReferences (counts : Node → Nat) (node : Node) : Nat :=
  node.references +
    match document.resolve node with
    | .sequence items => (items.map counts).sum
    | _ => 0

/-- How many references are followed to read what may be nothing. -/
def optionalReferences (node : Node) : Nat :=
  node.references + (document.resolve node).references

/-- The text that a key of a mapping is. -/
def keyText? (key : Node) : Option String :=
  match document.resolve key with
  | .scalar scalar => some scalar.text
  | _ => none

/-- The values of all entries of a mapping that have a given key. -/
def valuesOf (entries : List (Node × Node)) (name : String) : List Node :=
  entries.filterMap fun (key, value) =>
    if document.keyText? key = some name then some value else none

end Document

namespace Document

variable {document : Document} {node : Node} {scalar : Scalar}

theorem writes_iff {α : Type} (hresolve : document.resolve node = .scalar scalar) (kind : String)
    (read : String → Option α) (value : α) :
    document.Writes kind read node value ↔
      (if scalar.mayWrite kind then read scalar.text else none) = some value := by
  by_cases hmay : scalar.mayWrite kind = true <;> simp [Writes, hresolve, hmay]

theorem isOptional_iff_of_nothing (hresolve : document.resolve node = .scalar scalar)
    (hnothing : scalar.isNothing = .ok true) (value : Option Nat) :
    document.IsOptional node value ↔ value = none := by
  cases value <;> simp [IsOptional, hresolve, hnothing]

/-- A text that its tag does not fit is neither a number nor nothing. -/
theorem not_isOptional_of_mismatch (hresolve : document.resolve node = .scalar scalar)
    {mismatch : TagMismatch} (hmismatch : scalar.isNothing = .error mismatch)
    (value : Option Nat) : ¬ document.IsOptional node value := by
  cases value <;> simp [IsOptional, hresolve, hmismatch]

theorem isOptional_iff_of_something (hsome : ∀ scalar, document.resolve node = .scalar scalar →
    scalar.isNothing = .ok false) (value : Option Nat) :
    document.IsOptional node value ↔
      ∃ number, document.IsNatural (document.resolve node) number ∧ value = some number := by
  cases value with
  | none =>
      simp only [IsOptional, reduceCtorEq, and_false, exists_false, iff_false]
      rintro ⟨scalar, hresolve, hnothing⟩
      rw [hsome scalar hresolve] at hnothing
      cases hnothing
  | some number =>
      simp only [IsOptional, Option.some.injEq, exists_eq_right']
      exact and_iff_right hsome

end Document

/-- A text writes one value at most. -/
theorem Document.Writes.unique {document : Document} {α : Type} {kind : String}
    {read : String → Option α} {node : Node} {first second : α}
    (hfirst : document.Writes kind read node first)
    (hsecond : document.Writes kind read node second) : first = second := by
  obtain ⟨scalar, hresolve, -, hread⟩ := hfirst
  obtain ⟨other, hother, -, hvalue⟩ := hsecond
  cases hresolve.symm.trans hother
  exact Option.some.inj (hread.symm.trans hvalue)

/-- A node is a reference, or it stands for itself. -/
theorem Node.alias_or_plain (node : Node) : (∃ number, node = .alias number) ∨
    node.references = 0 ∧ ∀ document : Document, document.resolve node = node := by
  match node with
  | .alias number => exact .inl ⟨number, rfl⟩
  | .scalar _ | .sequence _ | .mapping _ | .cut => exact .inr ⟨rfl, fun _ => rfl⟩

/-- What the values with one key give, if the key may be missing.  A key that is given twice
gives nothing. -/
def Setting {α : Type} (gives : Node → α → Prop) (missing : α) : List Node → α → Prop
  | [], value => value = missing
  | [node], value => gives node value
  | _, _ => False

/-- What the only value with one key gives. -/
def Required {α : Type} (gives : Node → α → Prop) (nodes : List Node) (value : α) : Prop :=
  ∃ node, nodes = [node] ∧ gives node value

/-! ## Readings -/

section Readings

variable {α β : Type} {limit count : Nat} {holds : α → Prop}

/-- A reading yields the values of which a statement holds, and follows a number of
references; but it fails if the limit is reached. -/
def Takes (limit : Nat) (reading : Reading α) (count : Nat) (holds : α → Prop) : Prop :=
  ∀ before, before ≤ limit → ∀ value after, reading.run before = .ok (value, after) ↔
    holds value ∧ after = before + count ∧ after ≤ limit

theorem takes_pure (value : α) : Takes limit (pure value) 0 (· = value) := by
  intro before hbefore other after
  constructor
  · intro hread
    cases hread
    exact ⟨rfl, rfl, hbefore⟩
  · rintro ⟨rfl, rfl, -⟩
    rfl

/-- Nothing is taken by a reading that never yields anything. -/
theorem takes_of_yields_false {reading : Reading α} (hnever : Yields reading fun _ => False)
    (count : Nat) : Takes limit reading count fun _ => False := by
  intro before _ value after
  constructor
  · exact fun hread => (hnever before value after hread).elim
  · rintro ⟨hfalse, -⟩
    exact hfalse.elim

theorem takes_throw (error : DecodeError) (count : Nat) :
    Takes limit (throw error : Reading α) count fun _ => False :=
  takes_of_yields_false (yields_throw error) count

theorem Takes.congr {reading : Reading α} {other : α → Prop}
    (htakes : Takes limit reading count holds) (hsame : ∀ value, holds value ↔ other value) :
    Takes limit reading count other := by
  intro before hbefore value after
  rw [htakes before hbefore value after, hsame value]

theorem run_bind_of_ok {first : Reading β} {next : β → Reading α} {before after : Nat} {value : β}
    (hfirst : first.run before = .ok (value, after)) :
    (first >>= next).run before = (next value).run after := by
  rw [StateT.run_bind, hfirst]
  rfl

theorem run_bind_of_error {first : Reading β} {next : β → Reading α} {before : Nat}
    {error : DecodeError} (hfirst : first.run before = .error error) :
    (first >>= next).run before = .error error := by
  rw [StateT.run_bind, hfirst]
  rfl

/-- One reading after the other: the counts are added up. -/
theorem Takes.bind {first : Reading β} {next : β → Reading α} {firstCount : Nat}
    {between : β → Prop} (hfirst : Takes limit first firstCount between) (last : β → α → Prop)
    (hnext : ∀ value, between value → Takes limit (next value) count (last value)) :
    Takes limit (first >>= next) (firstCount + count) fun result =>
      ∃ value, between value ∧ last value result := by
  intro before hbefore result after
  constructor
  · intro hread
    cases hrun : first.run before with
    | error error =>
        rw [run_bind_of_error hrun] at hread
        cases hread
    | ok outcome =>
        obtain ⟨value, middle⟩ := outcome
        rw [run_bind_of_ok hrun] at hread
        obtain ⟨hbetween, rfl, hmiddle⟩ := (hfirst _ hbefore _ _).mp hrun
        obtain ⟨hlast, rfl, hafter⟩ := (hnext value hbetween _ hmiddle _ _).mp hread
        exact ⟨⟨value, hbetween, hlast⟩, Nat.add_assoc _ _ _, hafter⟩
  · rintro ⟨⟨value, hbetween, hlast⟩, rfl, hafter⟩
    have hmiddle : before + firstCount ≤ limit := by omega
    have hrun := (hfirst _ hbefore value _).mpr ⟨hbetween, rfl, hmiddle⟩
    rw [run_bind_of_ok hrun]
    exact (hnext value hbetween _ hmiddle _ _).mpr ⟨hlast, (Nat.add_assoc _ _ _).symm, hafter⟩

/-- A reading that goes on with the only value that it can have. -/
theorem Takes.after {first : Reading β} {next : β → Reading α} {firstCount : Nat} {target : β}
    (hfirst : Takes limit first firstCount (· = target))
    (hnext : Takes limit (next target) count holds) :
    Takes limit (first >>= next) (firstCount + count) holds := by
  refine (hfirst.bind (fun _ => holds) ?_).congr fun result => by simp
  rintro value rfl
  exact hnext

/-- A reading whose result is changed afterwards. -/
theorem Takes.map {reading : Reading β} {between : β → Prop}
    (htakes : Takes limit reading count between) (change : β → α) :
    Takes limit (do return change (← reading)) count fun result =>
      ∃ value, between value ∧ result = change value :=
  htakes.bind _ fun value _ => takes_pure (change value)

end Readings

/-- A document whose syntax is in order is read as its root is. -/
theorem Document.decode_eq_ok_iff {α : Type} {document : Document} (want : Place → Reading α)
    {count : Nat} {holds : α → Prop} (hfault : document.fault = none)
    (htakes : Takes document.referenceLimit (want document.place) count holds)
    (hcount : count ≤ document.referenceLimit) (value : α) :
    document.decode want = .ok value ↔ holds value := by
  have hrun := htakes 0 (Nat.zero_le _) value count
  rw [Nat.zero_add, and_iff_left ⟨rfl, hcount⟩] at hrun
  rw [← hrun, decode, hfault]
  cases hread : (want document.place).run 0 with
  | error error => simp
  | ok outcome =>
      obtain ⟨found, after⟩ := outcome
      have hafter := ((htakes 0 (Nat.zero_le _) found after).mp hread).2.1
      rw [Nat.zero_add] at hafter
      simp [hafter]

/-! ## Looking at a place -/

namespace Place

variable {α : Type} (place : Place)

/-- The place with the node that its node stands for. -/
def resolved : Place :=
  { place with node := place.document.resolve place.node }

theorem run_follow_alias (document : Document) (path : Path) (number before : Nat) :
    (follow ⟨document, path, .alias number⟩).run before =
      if document.referenceLimit < before + 1 then .error .tooManyReferences
      else .ok (⟨document, path, document.target number⟩, before + 1) := by
  unfold follow
  simp only [StateT.run_bind, StateT.run_get, StateT.run_set, pure_bind]
  split <;> rfl

theorem takes_follow :
    Takes place.document.referenceLimit place.follow place.node.references
      (· = place.resolved) := by
  obtain ⟨document, path, node⟩ := place
  rcases node.alias_or_plain with ⟨number, rfl⟩ | ⟨hreferences, hresolve⟩
  · intro before _ value after
    rw [run_follow_alias]
    have hresolved : resolved ⟨document, path, .alias number⟩ =
        ⟨document, path, document.target number⟩ := rfl
    rw [hresolved]
    change _ ↔ _ ∧ after = before + 1 ∧ after ≤ document.referenceLimit
    split
    · simp only [reduceCtorEq, false_iff]
      omega
    · rw [Except.ok.injEq, Prod.mk.injEq]
      constructor
      · rintro ⟨rfl, rfl⟩
        exact ⟨rfl, rfl, by omega⟩
      · rintro ⟨rfl, rfl, -⟩
        exact ⟨rfl, rfl⟩
  · have hfollow : follow ⟨document, path, node⟩ = pure ⟨document, path, node⟩ := by
      unfold follow
      split
      next target number htarget =>
        have hnode : node = .alias number := htarget
        subst hnode
        cases hreferences
      next => rfl
    rw [hfollow, hreferences]
    refine (takes_pure _).congr fun value => ?_
    rw [resolved, hresolve]

/-- A place that holds something else is refused. -/
theorem takes_refuse (wanted : String) (limit count : Nat) :
    Takes limit (place.refuse wanted : Reading α) count fun _ => False :=
  takes_of_yields_false (place.yields_refuse wanted) count

theorem takes_written (kind wanted : String) (read : String → Option α) :
    Takes place.document.referenceLimit (place.written kind wanted read) place.node.references
      (place.document.Writes kind read place.node) := by
  unfold written
  rw [← Nat.add_zero place.node.references]
  refine place.takes_follow.after ?_
  split
  next scalar hscalar =>
    have hresolve : place.document.resolve place.node = .scalar scalar := hscalar
    split
    next value hvalue =>
      refine (takes_pure value).congr fun other => ?_
      rw [Document.writes_iff hresolve, hvalue, Option.some.injEq, eq_comm]
    next hnone =>
      refine (takes_refuse _ wanted _ 0).congr fun other => ?_
      rw [Document.writes_iff hresolve, hnone]
      simp
  next hother =>
    refine (takes_refuse _ wanted _ 0).congr fun other => ⟨False.elim, ?_⟩
    rintro ⟨found, hfound, -⟩
    exact hother found hfound

/-- A place that holds a text is refused with its name. -/
theorem run_refuse_scalar {scalar : Scalar} (hnode : place.node = .scalar scalar)
    (wanted : String) (before : Nat) :
    ∃ fault, (place.refuse wanted : Reading α).run before = .error (.data place.path fault) := by
  unfold refuse
  rw [hnode]
  dsimp only
  split
  next found => exact ⟨_, rfl⟩
  next mismatch => exact ⟨_, rfl⟩

/-- A text that does not write what is wanted is refused with the name of its place. -/
theorem run_written_of_none {kind : String} {read : String → Option α} {scalar : Scalar}
    (hresolve : place.document.resolve place.node = .scalar scalar)
    (hnone : (if scalar.mayWrite kind then read scalar.text else none) = none) (wanted : String)
    {before : Nat} (hlimit : before + place.node.references ≤ place.document.referenceLimit) :
    ∃ fault, (place.written kind wanted read).run before = .error (.data place.path fault) := by
  have hfollow : place.follow.run before = .ok (place.resolved, before + place.node.references) :=
    (place.takes_follow before (by omega) _ _).mpr ⟨rfl, rfl, hlimit⟩
  have hnode : place.resolved.node = .scalar scalar := hresolve
  obtain ⟨fault, hrefuse⟩ := place.resolved.run_refuse_scalar (α := α) hnode wanted
    (before + place.node.references)
  refine ⟨fault, ?_⟩
  rw [written, run_bind_of_ok hfollow]
  simp only [hnode, hnone]
  exact hrefuse

theorem takes_natural (wanted : String) :
    Takes place.document.referenceLimit (place.natural wanted) place.node.references
      (place.document.IsNatural place.node) := by
  refine (place.takes_written "int" wanted _).congr fun number => ?_
  simp only [Document.IsNatural, Document.Writes, Option.filter_eq_some_iff, decide_eq_true_eq]
  constructor
  · rintro ⟨scalar, hresolve, hmay, hread, hbound⟩
    exact ⟨⟨scalar, hresolve, hmay, hread⟩, hbound⟩
  · rintro ⟨⟨scalar, hresolve, hmay, hread⟩, hbound⟩
    exact ⟨scalar, hresolve, hmay, hread, hbound⟩

theorem takes_truth :
    Takes place.document.referenceLimit place.truth place.node.references
      (place.document.IsTruth place.node) :=
  place.takes_written "bool" "a boolean" truth?

theorem takes_optional (wanted : String) :
    Takes place.document.referenceLimit (place.optional (·.natural wanted))
      (place.document.optionalReferences place.node)
      (place.document.IsOptional place.node) := by
  have hsomething (hsome : ∀ scalar, place.document.resolve place.node = .scalar scalar →
      scalar.isNothing = .ok false) :
      Takes place.document.referenceLimit (do return some (← place.resolved.natural wanted))
        (place.document.resolve place.node).references
        (place.document.IsOptional place.node) :=
    ((place.resolved.takes_natural wanted).map some).congr fun value =>
      (Document.isOptional_iff_of_something hsome value).symm
  unfold optional
  refine place.takes_follow.after ?_
  split
  next scalar hscalar =>
    have hresolve : place.document.resolve place.node = .scalar scalar := hscalar
    split
    next hnothing =>
      rw [hresolve]
      exact (takes_pure none).congr fun value =>
        (Document.isOptional_iff_of_nothing hresolve hnothing value).symm
    next hnothing =>
      refine hsomething fun found hfound => ?_
      rw [hresolve] at hfound
      cases hfound
      exact hnothing
    next mismatch hmismatch =>
      exact (takes_throw _ _).congr fun value =>
        (iff_false_intro (Document.not_isOptional_of_mismatch hresolve hmismatch value)).symm
  next hother => exact hsomething fun found hfound => (hother found hfound).elim

theorem takes_entries (wanted : String) :
    Takes place.document.referenceLimit (place.entries wanted) place.node.references
      (place.document.IsMap place.node) := by
  unfold entries
  rw [← Nat.add_zero place.node.references]
  refine place.takes_follow.after ?_
  split
  next entries hentries =>
    have hresolve : place.document.resolve place.node = .mapping entries := hentries
    refine (takes_pure entries).congr fun found => ⟨?_, ?_⟩
    · rintro rfl
      exact .inl hresolve
    · rintro (hfound | ⟨scalar, hscalar, -⟩)
      · exact Node.mapping.inj (hfound.symm.trans hresolve)
      · cases hscalar.symm.trans hresolve
  next scalar hscalar =>
    have hresolve : place.document.resolve place.node = .scalar scalar := hscalar
    split
    next habsent =>
      refine (takes_pure []).congr fun found => ?_
      simp [Document.IsMap, hresolve, habsent]
    next habsent =>
      refine (takes_refuse _ wanted _ 0).congr fun found => ?_
      simp [Document.IsMap, hresolve, habsent]
  next hmapping hscalar =>
    refine (takes_refuse _ wanted _ 0).congr fun found => ⟨False.elim, ?_⟩
    rintro (hresolve | ⟨scalar, hresolve, -⟩)
    · exact hmapping found hresolve
    · exact hscalar scalar hresolve

theorem takes_keyName (key : Node) :
    Takes place.document.referenceLimit (place.keyName key) key.references
      fun name => place.document.keyText? key = some name := by
  unfold keyName
  rw [← Nat.add_zero key.references]
  refine (takes_follow { place with node := key }).after ?_
  split
  next scalar hscalar =>
    have hresolve : place.document.resolve key = .scalar scalar := hscalar
    refine (takes_pure scalar.text).congr fun found => ?_
    simp [Document.keyText?, hresolve, eq_comm]
  next hother =>
    refine (takes_refuse _ _ _ 0).congr fun found => ⟨False.elim, fun hname => ?_⟩
    unfold Document.keyText? at hname
    split at hname
    next scalar hresolve => exact hother scalar hresolve
    next => cases hname

section List

variable {want : Place → Reading α} {counts : Node → Nat} {gives : Node → α → Prop}

theorem takes_itemsFrom
    (hwant : ∀ position node, Takes place.document.referenceLimit
      (want (place.move (.item position) node)) (counts node) (gives node))
    (position : Nat) (nodes : List Node) :
    Takes place.document.referenceLimit (place.itemsFrom want position nodes)
      (nodes.map counts).sum (List.Forall₂ gives nodes) := by
  induction nodes generalizing position with
  | nil => exact (takes_pure []).congr fun values => List.forall₂_nil_left_iff.symm
  | cons node rest ih =>
      rw [List.map_cons, List.sum_cons]
      refine ((hwant position node).bind _ fun value _ =>
        (ih (position + 1)).map (value :: ·)).congr fun values => ?_
      rw [List.forall₂_cons_left_iff]
      constructor
      · rintro ⟨value, hvalue, others, hothers, rfl⟩
        exact ⟨value, others, hvalue, hothers, rfl⟩
      · rintro ⟨value, others, hvalue, hothers, rfl⟩
        exact ⟨value, hvalue, others, hothers, rfl⟩

theorem takes_list
    (hwant : ∀ position node, Takes place.document.referenceLimit
      (want (place.move (.item position) node)) (counts node) (gives node)) :
    Takes place.document.referenceLimit (place.list want)
      (place.document.listReferences counts place.node)
      (place.document.IsList gives place.node) := by
  unfold list
  refine place.takes_follow.after ?_
  split
  next items hitems =>
    have hresolve : place.document.resolve place.node = .sequence items := hitems
    rw [hresolve]
    refine (place.resolved.takes_itemsFrom hwant 0 items).congr fun found => ?_
    simp [Document.IsList, hresolve]
  next scalar hscalar =>
    have hresolve : place.document.resolve place.node = .scalar scalar := hscalar
    rw [hresolve]
    split
    next habsent =>
      refine (takes_pure []).congr fun found => ?_
      simp [Document.IsList, hresolve, habsent]
    next habsent =>
      refine (takes_refuse _ _ _ 0).congr fun found => ?_
      simp [Document.IsList, hresolve, habsent]
  next hsequence hscalar =>
    refine (takes_refuse _ _ _ _).congr fun found => ⟨False.elim, ?_⟩
    rintro (⟨items, hresolve, -⟩ | ⟨scalar, hresolve, -⟩)
    · exact hsequence items hresolve
    · exact hscalar scalar hresolve

end List

end Place
end Yaml
end ChipEight
