import CardTable.Proofs.Json.Members
import CardTable.Proofs.Text.ByteOrder
import Mathlib.Data.List.Nodup

namespace CardTable
namespace Json
namespace Members

/-!
# Objects in the order of their keys

What becomes of members that are set one after another is settled by two facts:
the keys ascend, byte by byte, and each key has the value that was set last.  So
an object that is written in its order makes itself.
-/

/-- The keys ascend in the order of their bytes, so none comes twice. -/
def Ascending (members : Members) : Prop :=
  members.Pairwise fun first second => Text.bytes first.1 < Text.bytes second.1

theorem ascending_iff {members : Members} :
    members.Ascending ↔ members.Pairwise fun first second => first.1 < second.1 := by
  simp only [Ascending, Text.bytes_lt_iff]

theorem ascending_cons_iff {key : String} {value : Value} {rest : Members} :
    Ascending ((key, value) :: rest) ↔
      (forall member, member ∈ rest -> key < member.1) ∧ rest.Ascending := by
  rw [ascending_iff, ascending_iff, List.pairwise_cons]

theorem mem_insert {members : Members} {key : String} {value : Value} {member : String × Value}
    (found : member ∈ members.insert key value) : member = (key, value) ∨ member ∈ members := by
  induction members with
  | nil => exact Or.inl (List.mem_singleton.mp found)
  | cons first rest inductionHypothesis =>
      rcases first with ⟨name, old⟩
      rw [insert] at found
      split at found
      · exact (List.mem_cons.mp found).imp_right (List.mem_cons_of_mem _)
      · split at found
        · exact List.mem_cons.mp found
        · rcases List.mem_cons.mp found with same | later
          · exact Or.inr (same ▸ List.mem_cons_self)
          · exact (inductionHypothesis later).imp_right (List.mem_cons_of_mem _)

theorem ascending_insert {members : Members} (ascending : members.Ascending) (key : String)
    (value : Value) : (members.insert key value).Ascending := by
  induction members with
  | nil => exact List.pairwise_singleton _ _
  | cons first rest inductionHypothesis =>
      rcases first with ⟨name, old⟩
      rw [ascending_cons_iff] at ascending
      rcases ascending with ⟨above, others⟩
      rcases lt_trichotomy key name with before | rfl | behind
      · rw [insert_before before]
        refine ascending_cons_iff.mpr ⟨?_, ascending_cons_iff.mpr ⟨above, others⟩⟩
        refine List.forall_mem_cons.mpr ⟨before, ?_⟩
        exact fun member among => lt_trans before (above member among)
      · rw [insert, if_pos rfl]
        exact ascending_cons_iff.mpr ⟨above, others⟩
      · rw [insert_behind behind]
        refine ascending_cons_iff.mpr ⟨?_, inductionHypothesis others⟩
        intro member among
        rcases mem_insert among with rfl | older
        · exact behind
        · exact above member older

theorem ascending_insertAll {members : Members} (ascending : members.Ascending)
    (more : List (String × Value)) : (members.insertAll more).Ascending := by
  induction more generalizing members with
  | nil => exact ascending
  | cons member rest inductionHypothesis =>
      rcases member with ⟨key, value⟩
      rw [insertAll_cons]
      exact inductionHypothesis (ascending_insert ascending key value)

theorem Ascending.nodup_keys {members : Members} (ascending : members.Ascending) :
    (members.map Prod.fst).Nodup := by
  rw [ascending_iff] at ascending
  rw [List.Nodup, List.pairwise_map]
  exact ascending.imp ne_of_lt

/-- Where no name comes twice, the last value of a name is its only one. -/
theorem Ascending.get?_eq_lastValue? {members : Members} (ascending : members.Ascending)
    (name : String) : members.get? name = lastValue? members name := by
  induction members with
  | nil => rfl
  | cons member rest inductionHypothesis =>
      rcases member with ⟨key, value⟩
      have once := ascending.nodup_keys
      rw [List.map_cons, List.nodup_cons] at once
      rw [get?_cons, lastValue?_cons, inductionHypothesis (ascending_cons_iff.mp ascending).2]
      split
      · next same =>
        subst same
        cases again : lastValue? rest key with
        | none => rfl
        | some other => exact absurd (List.mem_map_of_mem (mem_of_lastValue? again)) once.1
      · exact Option.or_none.symm

theorem Ascending.get?_eq_some_iff {members : Members} (ascending : members.Ascending)
    {name : String} {value : Value} :
    members.get? name = some value ↔ (name, value) ∈ members := by
  rw [ascending.get?_eq_lastValue?]
  exact ⟨mem_of_lastValue?, lastValue?_of_mem ascending.nodup_keys⟩

/-- Members in ascending order are determined by what is looked up in them. -/
theorem Ascending.eq_of_get? {members others : Members} (ascending : members.Ascending)
    (ascendingToo : others.Ascending) (same : forall name, members.get? name = others.get? name) :
    members = others := by
  have mem_iff (member : String × Value) : member ∈ members ↔ member ∈ others := by
    rcases member with ⟨name, value⟩
    rw [← ascending.get?_eq_some_iff, ← ascendingToo.get?_eq_some_iff, same]
  have permuted : members.Perm others :=
    (List.perm_ext_iff_of_nodup (ascending.nodup_keys.of_map _)
      (ascendingToo.nodup_keys.of_map _)).mpr mem_iff
  rw [ascending_iff] at ascending ascendingToo
  exact permuted.eq_of_pairwise
    (fun first second _ _ before behind => absurd before (lt_asymm behind))
    ascending ascendingToo

/-- The object that members make is the one whose keys ascend and have the values
that are set last. -/
theorem insertAll_nil_eq_iff {members : List (String × Value)} {kept : Members} :
    insertAll [] members = kept ↔
      kept.Ascending ∧ forall name, kept.get? name = lastValue? members name := by
  have ascending : (insertAll [] members).Ascending := ascending_insertAll .nil members
  constructor
  · rintro rfl
    exact ⟨ascending, get?_insertAll_nil members⟩
  · rintro ⟨ascendingToo, same⟩
    apply ascending.eq_of_get? ascendingToo
    intro name
    rw [get?_insertAll_nil, same]

/-- An object that is written in its order makes itself. -/
theorem Ascending.insertAll_nil {members : Members} (ascending : members.Ascending) :
    insertAll [] members = members :=
  insertAll_nil_eq_iff.mpr ⟨ascending, ascending.get?_eq_lastValue?⟩

theorem mem_of_mem_insertAll_nil {members : List (String × Value)} {member : String × Value}
    (found : member ∈ insertAll [] members) : member ∈ members := by
  have ascending : (insertAll [] members).Ascending := ascending_insertAll .nil members
  rcases member with ⟨name, value⟩
  rw [← ascending.get?_eq_some_iff, get?_insertAll_nil] at found
  exact mem_of_lastValue? found

end Members
end Json
end CardTable
