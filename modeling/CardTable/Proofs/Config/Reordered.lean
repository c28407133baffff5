import Mathlib.Data.List.Forall2
import CardTable.Proofs.Config.Written

namespace CardTable
namespace Config

open Yaml (Value Field Content Entry Sheet)
open List (Perm Forall₂)

/-!
# The order of entries

Two sheets may have the same entries in another order, and their sections the same
fields in another order.  They have the same keys then, and write the same
configurations.
-/

/-- The same value, or a section with the same fields in any order and at any
depth. -/
inductive SameContent : Content -> Content -> Prop where
  | value (single : Value) : SameContent (.value single) (.value single)
  | nested {depth lower : Nat} {inside : 0 < depth} {below : 0 < lower}
      {first next : Field} {others more : List Field}
      (same : Perm (first :: others) (next :: more)) :
      SameContent (.nested depth inside first others) (.nested lower below next more)

/-- The same key with the same content. -/
def SameEntry (entry other : Entry) : Prop :=
  entry.key.name = other.key.name ∧ SameContent entry.content other.content

/-- The same entries in any order. -/
def Reordered (sheet other : Sheet) : Prop :=
  Exists fun middle => Perm sheet middle ∧ Forall₂ SameEntry middle other

theorem SameContent.fields {content other : Content} (same : SameContent content other) :
    Perm content.fields other.fields := by
  cases same with
  | value single => exact .refl _
  | nested same => exact same

theorem SameContent.names {content other : Content} (same : SameContent content other) :
    Perm content.names other.names :=
  same.fields.map _

theorem SameContent.number? {content other : Content} (same : SameContent content other) :
    content.number? = other.number? := by
  cases same with
  | value single => rfl
  | nested same => rfl

theorem SameContent.symm {content other : Content} (same : SameContent content other) :
    SameContent other content := by
  cases same with
  | value single => exact .value single
  | nested same => exact .nested same.symm

theorem SameContent.holds {content other : Content} (same : SameContent content other)
    {kind : Type} {name : String} {take : Value -> Option kind} {written : kind}
    (holds : content.Holds name take written) : other.Holds name take written := by
  rcases holds with ⟨field, member, found⟩
  exact ⟨field, same.fields.mem_iff.mp member, found⟩

theorem SameContent.gives {content other : Content} (same : SameContent content other)
    {kind : Type} {name : String} {take : Value -> Option kind} {default written : kind}
    (gives : Gives content name take default written) :
    Gives other name take default written := by
  rcases gives with holds | ⟨absent, isDefault⟩
  · exact Or.inl (same.holds holds)
  · exact Or.inr ⟨fun member => absent (same.names.mem_iff.mpr member), isDefault⟩

theorem SameEntry.fits {entry other : Entry} (same : SameEntry entry other)
    (fits : FitsEntry entry) : FitsEntry other := by
  rcases entry with ⟨key, content⟩
  rcases other with ⟨otherKey, otherContent⟩
  rcases same with ⟨name, contents⟩
  change key.name = otherKey.name at name
  unfold FitsEntry at fits ⊢
  cases contents with
  | value single =>
      rw [← name]
      exact fits
  | nested same =>
      refine ⟨fun isVersion => fits.1 (name.trans isVersion), fun field member => ?_⟩
      exact fits.2 field (same.mem_iff.mpr member)

/-- Each entry of a sheet has its like in another one, and the keys are the same. -/
structure Covers (sheet other : Sheet) : Prop where
  names : Perm sheet.names other.names
  entry : forall entry, entry ∈ sheet ->
    Exists fun like => like ∈ other ∧ SameEntry entry like

theorem SameEntry.symm {entry other : Entry} (same : SameEntry entry other) :
    SameEntry other entry :=
  ⟨same.1.symm, same.2.symm⟩

theorem names_eq_of_alike {sheet other : Sheet} (alike : Forall₂ SameEntry sheet other) :
    sheet.names = other.names := by
  induction alike with
  | nil => rfl
  | cons same _ inductionHypothesis => exact congrArg₂ List.cons same.1 inductionHypothesis

theorem exists_alike {sheet other : Sheet} (alike : Forall₂ SameEntry sheet other) (entry : Entry)
    (member : entry ∈ sheet) : Exists fun like => like ∈ other ∧ SameEntry entry like := by
  induction alike with
  | nil => cases member
  | cons same _ inductionHypothesis =>
      rcases List.mem_cons.mp member with rfl | later
      · exact ⟨_, List.mem_cons_self, same⟩
      · rcases inductionHypothesis later with ⟨like, among, alike⟩
        exact ⟨like, List.mem_cons_of_mem _ among, alike⟩

theorem Reordered.covers {sheet other : Sheet} (reordered : Reordered sheet other) :
    Covers sheet other ∧ Covers other sheet := by
  rcases reordered with ⟨middle, moved, alike⟩
  have names : Perm sheet.names other.names :=
    names_eq_of_alike alike ▸ moved.map _
  have back : Forall₂ SameEntry other middle := alike.flip.imp fun _ _ => SameEntry.symm
  refine ⟨⟨names, fun entry member => ?_⟩, names.symm, fun entry member => ?_⟩
  · exact exists_alike alike entry (moved.mem_iff.mp member)
  · rcases exists_alike back entry member with ⟨like, among, same⟩
    exact ⟨like, moved.mem_iff.mpr among, same⟩

section

variable {sheet other : Sheet} (covers : Covers sheet other)

include covers

theorem Covers.fits (fits : Fits other) : Fits sheet := by
  intro entry member
  rcases covers.entry entry member with ⟨like, among, same⟩
  exact same.symm.fits (fits like among)

theorem Covers.hasRightKeys (keys : HasRightKeys other) : HasRightKeys sheet where
  top := keys.top.imp covers.names.trans covers.names.trans
  server entry member named := by
    rcases covers.entry entry member with ⟨like, among, same⟩
    exact same.2.names.subperm.trans (keys.server like among (same.1.symm.trans named))
  player entry member named := by
    rcases covers.entry entry member with ⟨like, among, same⟩
    exact same.2.names.trans (keys.player like among (same.1.symm.trans named))

theorem Covers.writes {config : Config} (writes : Writes sheet config) : Writes other config where
  version := by
    rcases writes.version with ⟨entry, member, named, number⟩
    rcases covers.entry entry member with ⟨like, among, same⟩
    exact ⟨like, among, same.1.symm.trans named, same.2.number?.symm.trans number⟩
  server := by
    rcases writes.server with ⟨entry, member, named, settings⟩ | ⟨absent, default⟩
    · rcases covers.entry entry member with ⟨like, among, same⟩
      exact Or.inl ⟨like, among, same.1.symm.trans named, same.2.gives settings.url,
        same.2.gives settings.joinPath, same.2.gives settings.outboundQueue⟩
    · exact Or.inr ⟨fun member => absent (covers.names.mem_iff.mpr member), default⟩
  player := by
    rcases writes.player with ⟨entry, member, named, names⟩
    rcases covers.entry entry member with ⟨like, among, same⟩
    exact ⟨like, among, same.1.symm.trans named, same.2.holds names.name,
      same.2.holds names.room⟩

end

end Config
end CardTable
