import Mathlib
import ChipEight.Proofs.Yaml.Record

/-!
# The order of keys

Two documents hold the same data if they differ in nothing but the order in which the keys
of their mappings stand.  A node may also be written out in one of them where the other has
a reference.

Since a node can contain a reference to itself, this is said with a relation that holds of
two nodes only if it holds of their parts (`Document.Matches`).  What a node gives, its
counterpart gives as well (`Carries`).
-/

namespace ChipEight
namespace Yaml

/-- Entries with related keys and values, whatever their order. -/
def EntriesAlike (same : Node → Node → Prop) (entries others : List (Node × Node)) : Prop :=
  ∃ ordered, entries.Perm ordered ∧
    List.Forall₂ (fun entry other => same entry.1 other.1 ∧ same entry.2 other.2) ordered others

/-- Nodes that are built in the same way out of parts that are related, whatever the order of
the keys. -/
inductive Alike (same : Node → Node → Prop) : Node → Node → Prop where
  | scalar (scalar : Scalar) : Alike same (.scalar scalar) (.scalar scalar)
  | sequence {items others : List Node} (hitems : List.Forall₂ same items others) :
    Alike same (.sequence items) (.sequence others)
  | mapping {entries others : List (Node × Node)} (hentries : EntriesAlike same entries others) :
    Alike same (.mapping entries) (.mapping others)
  | reference {number other : Nat} (hsame : same (.alias number) (.alias other)) :
    Alike same (.alias number) (.alias other)
  | cut : Alike same .cut .cut

theorem Alike.refl {same : Node → Node → Prop} (hrefl : ∀ node, same node node) (node : Node) :
    Alike same node node := by
  match node with
  | .scalar text => exact .scalar text
  | .sequence items => exact .sequence (List.forall₂_same.mpr fun item _ => hrefl item)
  | .mapping entries =>
    exact .mapping ⟨entries, .refl entries,
      List.forall₂_same.mpr fun entry _ => ⟨hrefl entry.1, hrefl entry.2⟩⟩
  | .alias number => exact .reference (hrefl (.alias number))
  | .cut => exact .cut

namespace Document

/-- A relation between the nodes of two documents that goes on to their parts. -/
def Matches (document other : Document) (same : Node → Node → Prop) : Prop :=
  ∀ ⦃node counterpart⦄, same node counterpart →
    Alike same (document.resolve node) (other.resolve counterpart)

/-- Two documents hold the same data. -/
def SameData (document other : Document) : Prop :=
  ∃ same, document.Matches other same ∧ same (document.root.getD .absent) (other.root.getD .absent)

theorem Matches.flip {document other : Document} {same : Node → Node → Prop}
    (hmatches : document.Matches other same) : other.Matches document (flip same) := by
  intro counterpart node hsame
  have halike := hmatches hsame
  generalize document.resolve node = resolved at halike ⊢
  generalize other.resolve counterpart = matched at halike ⊢
  cases halike with
  | scalar scalar => exact .scalar scalar
  | sequence hitems => exact .sequence hitems.flip
  | mapping hentries =>
      obtain ⟨ordered, horder, hentries⟩ := hentries
      obtain ⟨reordered, hothers, hperm⟩ := List.perm_comp_forall₂ horder hentries
      exact .mapping ⟨reordered, hperm.symm, hothers.flip⟩
  | reference hsame => exact .reference hsame
  | cut => exact .cut

theorem SameData.symm {document other : Document} (hdata : SameData document other) :
    SameData other document := by
  obtain ⟨same, hmatches, hroots⟩ := hdata
  exact ⟨flip same, hmatches.flip, hroots⟩

/-- A document in which the keys of the whole are put into another order. -/
theorem SameData.of_perm {document : Document} {entries ordered : List (Node × Node)}
    (hroot : document.root = some (.mapping entries)) (horder : entries.Perm ordered) :
    SameData document { document with root := some (.mapping ordered) } := by
  refine ⟨fun node counterpart => node = counterpart ∨
    node = .mapping entries ∧ counterpart = .mapping ordered, ?_, .inr ⟨?_, rfl⟩⟩
  · rintro node counterpart (rfl | ⟨rfl, rfl⟩)
    · exact Alike.refl (fun _ => .inl rfl) (document.resolve node)
    · exact .mapping ⟨ordered, horder, List.forall₂_same.mpr fun _ _ => ⟨.inl rfl, .inl rfl⟩⟩
  · rw [hroot]
    rfl

end Document

/-! ## What is carried over -/

/-- What a node gives, every node that is related to it gives as well. -/
def Carries {α : Type} (same : Node → Node → Prop) (gives given : Node → α → Prop) : Prop :=
  ∀ ⦃node counterpart⦄, same node counterpart → ∀ ⦃value⦄, gives node value →
    given counterpart value

namespace Carries

variable {α : Type} {same : Node → Node → Prop} {gives given : Node → α → Prop}
  (hcarries : Carries same gives given)

include hcarries

theorem forall₂ {items others : List Node} (hsame : List.Forall₂ same items others)
    {values : List α} (hvalues : List.Forall₂ gives items values) :
    List.Forall₂ given others values := by
  induction hsame generalizing values with
  | nil =>
      cases hvalues
      exact .nil
  | cons hfirst _ ih =>
      cases hvalues with
      | cons hvalue hrest => exact .cons (hcarries hfirst hvalue) (ih hrest)

/-- A value that may be missing.  There is at most one node, so that the order does not
matter. -/
theorem setting {nodes ordered others : List Node} (horder : nodes.Perm ordered)
    (hsame : List.Forall₂ same ordered others) {missing value : α}
    (hvalue : Setting gives missing nodes value) : Setting given missing others value := by
  match nodes with
  | [] =>
      cases horder.nil_eq
      cases hsame
      exact hvalue
  | [node] =>
      cases List.singleton_perm.mp horder
      cases hsame with
      | cons hfirst hrest =>
          cases hrest
          exact hcarries hfirst hvalue
  | _ :: _ :: _ => exact hvalue.elim

theorem required {nodes ordered others : List Node} (horder : nodes.Perm ordered)
    (hsame : List.Forall₂ same ordered others) {value : α}
    (hvalue : Required gives nodes value) : Required given others value := by
  obtain ⟨node, rfl, hgives⟩ := hvalue
  cases List.singleton_perm.mp horder
  cases hsame with
  | cons hfirst hrest =>
      cases hrest
      exact ⟨_, rfl, hcarries hfirst hgives⟩

end Carries

namespace Document
namespace Matches

variable {document other : Document} {same : Node → Node → Prop}
  (hmatches : document.Matches other same)

include hmatches

/-- A text is the same as its counterpart. -/
theorem resolve_scalar {node counterpart : Node} (hsame : same node counterpart)
    {scalar : Scalar} (hnode : document.resolve node = .scalar scalar) :
    other.resolve counterpart = .scalar scalar := by
  have halike := hmatches hsame
  generalize other.resolve counterpart = matched at halike ⊢
  rw [hnode] at halike
  cases halike
  rfl

theorem carries_writes {α : Type} (kind : String) (read : String → Option α) :
    Carries same (document.Writes kind read) (other.Writes kind read) := by
  rintro node counterpart hsame value ⟨scalar, hnode, hmay, hread⟩
  exact ⟨scalar, hmatches.resolve_scalar hsame hnode, hmay, hread⟩

theorem carries_isNatural : Carries same document.IsNatural other.IsNatural :=
  fun _ _ hsame _ hnumber => ⟨hmatches.carries_writes _ _ hsame hnumber.1, hnumber.2⟩

theorem carries_isInteger : Carries same document.IsInteger other.IsInteger :=
  hmatches.carries_writes _ _

theorem carries_isTruth : Carries same document.IsTruth other.IsTruth :=
  hmatches.carries_writes _ _

theorem carries_isOptional : Carries same document.IsOptional other.IsOptional := by
  intro node counterpart hsame value hvalue
  cases value with
  | none =>
      obtain ⟨scalar, hnode, hnothing⟩ := hvalue
      exact ⟨scalar, hmatches.resolve_scalar hsame hnode, hnothing⟩
  | some number =>
      obtain ⟨hsome, ⟨scalar, htwice, hmay, hread⟩, hbound⟩ := hvalue
      -- Only a text writes a number.  It is the node itself, unless that is a reference again.
      have halike := hmatches hsame
      generalize hnode : document.resolve node = resolved at halike hsome htwice
      generalize hcounterpart : other.resolve counterpart = matched at halike
      cases halike with
      | scalar found =>
          cases htwice
          refine ⟨fun text htext => hsome text ?_, ⟨scalar, ?_, hmay, hread⟩, hbound⟩
          · rw [← htext, hcounterpart]
          · rw [hcounterpart]
            rfl
      | reference hnext =>
          refine ⟨?_, ?_⟩
          · rw [hcounterpart]
            exact fun _ htext => nomatch htext
          · rw [hcounterpart]
            exact hmatches.carries_isNatural hnext ⟨⟨scalar, htwice, hmay, hread⟩, hbound⟩
      | sequence | mapping | cut => cases htwice

theorem carries_isList {α : Type} {gives given : Node → α → Prop}
    (hcarries : Carries same gives given) :
    Carries same (document.IsList gives) (other.IsList given) := by
  rintro node counterpart hsame values (⟨items, hnode, hitems⟩ | ⟨scalar, hnode, habsent, rfl⟩)
  · have halike := hmatches hsame
    rw [hnode] at halike
    generalize hcounterpart : other.resolve counterpart = matched at halike
    cases halike with
    | sequence hothers => exact .inl ⟨_, hcounterpart, hcarries.forall₂ hothers hitems⟩
  · exact .inr ⟨scalar, hmatches.resolve_scalar hsame hnode, habsent, rfl⟩

theorem isMap {node counterpart : Node} (hsame : same node counterpart)
    {entries : List (Node × Node)} (hmap : document.IsMap node entries) :
    ∃ others, other.IsMap counterpart others ∧ EntriesAlike same entries others := by
  rcases hmap with hnode | ⟨scalar, hnode, habsent, rfl⟩
  · have halike := hmatches hsame
    rw [hnode] at halike
    generalize hcounterpart : other.resolve counterpart = matched at halike
    cases halike with
    | mapping hentries => exact ⟨_, .inl hcounterpart, hentries⟩
  · exact ⟨[], .inr ⟨scalar, hmatches.resolve_scalar hsame hnode, habsent, rfl⟩, [], .nil, .nil⟩

/-- Mappings write the same if it does not matter how their entries are ordered. -/
theorem carries_gives {α : Type} {writes written : List (Node × Node) → α → Prop}
    (hwrites : ∀ entries others, EntriesAlike same entries others → ∀ value,
      writes entries value → written others value) :
    Carries same (document.Gives writes) (other.Gives written) := by
  rintro node counterpart hsame value ⟨entries, hmap, hvalue⟩
  obtain ⟨others, hothers, hentries⟩ := hmatches.isMap hsame hmap
  exact ⟨others, hothers, hwrites entries others hentries value hvalue⟩

theorem keyText?_eq {key counterpart : Node} (hsame : same key counterpart) :
    document.keyText? key = other.keyText? counterpart := by
  have halike := hmatches hsame
  unfold keyText?
  generalize document.resolve key = resolved at halike ⊢
  generalize other.resolve counterpart = matched at halike ⊢
  cases halike <;> rfl

section Entries

variable {entries others : List (Node × Node)} (hentries : EntriesAlike same entries others)

include hentries

/-- The keys have the same texts, up to their order. -/
theorem perm_keyTexts : (entries.map fun entry => document.keyText? entry.1).Perm
    (others.map fun entry => other.keyText? entry.1) := by
  obtain ⟨ordered, horder, hothers⟩ := hentries
  have htexts : ordered.map (fun entry => document.keyText? entry.1) =
      others.map fun entry => other.keyText? entry.1 := by
    clear horder
    induction hothers with
    | nil => rfl
    | cons hfirst _ ih =>
        rw [List.map_cons, List.map_cons, ih, hmatches.keyText?_eq hfirst.1]
  exact htexts ▸ horder.map _

theorem exists_entry {entry : Node × Node} (hentry : entry ∈ others) :
    ∃ found ∈ entries, document.keyText? found.1 = other.keyText? entry.1 :=
  List.mem_map.mp ((hmatches.perm_keyTexts hentries).mem_iff.mpr (List.mem_map_of_mem hentry))

theorem hasKeys {names : List String} (hkeys : document.HasKeys names entries) :
    other.HasKeys names others := by
  refine ⟨fun entry hentry => ?_,
    (hmatches.perm_keyTexts hentries).nodup_iff.mp hkeys.distinct⟩
  obtain ⟨found, hfound, htext⟩ := hmatches.exists_entry hentries hentry
  obtain ⟨name, hname, hknown⟩ := hkeys.known found hfound
  exact ⟨name, hname, htext.symm.trans hknown⟩

theorem exists_perm_valuesOf (name : String) :
    ∃ ordered, (document.valuesOf entries name).Perm ordered ∧
      List.Forall₂ same ordered (other.valuesOf others name) := by
  obtain ⟨ordered, horder, hothers⟩ := hentries
  refine ⟨document.valuesOf ordered name, horder.filterMap _, ?_⟩
  clear horder
  induction hothers with
  | nil => exact .nil
  | @cons first second rest others hfirst hrest ih =>
      obtain ⟨key, value⟩ := first
      obtain ⟨otherKey, otherValue⟩ := second
      have htext := hmatches.keyText?_eq hfirst.1
      by_cases hname : document.keyText? key = some name
      · rw [valuesOf_cons_of_eq _ hname, valuesOf_cons_of_eq _ (htext.symm.trans hname)]
        exact .cons hfirst.2 ih
      · rw [valuesOf_cons_of_ne _ hname, valuesOf_cons_of_ne _ (htext ▸ hname)]
        exact ih

/-- A field of a record is written the same in whatever place it stands. -/
theorem setting {α : Type} {gives given : Node → α → Prop} (hcarries : Carries same gives given)
    {name : String} {missing value : α}
    (hvalue : Setting gives missing (document.valuesOf entries name) value) :
    Setting given missing (other.valuesOf others name) value := by
  obtain ⟨ordered, horder, hsame⟩ := hmatches.exists_perm_valuesOf hentries name
  exact hcarries.setting horder hsame hvalue

theorem required {α : Type} {gives given : Node → α → Prop} (hcarries : Carries same gives given)
    {name : String} {value : α} (hvalue : Required gives (document.valuesOf entries name) value) :
    Required given (other.valuesOf others name) value := by
  obtain ⟨ordered, horder, hsame⟩ := hmatches.exists_perm_valuesOf hentries name
  exact hcarries.required horder hsame hvalue

end Entries

end Matches
end Document
end Yaml
end ChipEight
