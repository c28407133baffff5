import CardTable.Text.Cased
import CardTable.Text.Extending
import CardTable.Text.Unprintable

namespace CardTable
namespace Text

/-!
# One range for each character

The ranges of a table ascend, with a gap between neighbours.  So each range lies
wholly below those behind it, and a character that has the property of the table
has it from one range alone.
-/

namespace Ranges

/-- The character lies between the ends of the range. -/
def Spans (range : Nat × Nat) (c : Char) : Prop :=
  range.1 ≤ c.toNat ∧ c.toNat ≤ range.2

variable {ranges : Ranges} {c : Char}

theorem holds_iff :
    ranges.holds c = true ↔ Exists fun range => range ∈ ranges ∧ Spans range c := by
  rw [holds, List.any_eq_true]
  simp only [Bool.and_eq_true, decide_eq_true_eq, Spans]

/-- Ranges that ascend are in order, each of them and all together. -/
theorem ordered_of_ascending (ascends : ranges.ascending = true) :
    (forall range, range ∈ ranges -> range.1 ≤ range.2) ∧
      ranges.Pairwise fun lower upper => lower.2 + 1 < upper.1 := by
  induction ranges with
  | nil => exact ⟨List.forall_mem_nil _, .nil⟩
  | cons range rest inductionHypothesis =>
      cases rest with
      | nil =>
          exact ⟨List.forall_mem_singleton.mpr (of_decide_eq_true ascends),
            List.pairwise_singleton _ range⟩
      | cons next rest =>
          simp only [ascending, Bool.and_eq_true, decide_eq_true_eq] at ascends
          rcases ascends with ⟨⟨ordered, apart⟩, behind⟩
          rcases inductionHypothesis behind with ⟨each, pairs⟩
          refine ⟨List.forall_mem_cons.mpr ⟨ordered, each⟩, .cons ?_ pairs⟩
          have first := each next List.mem_cons_self
          have above := (List.pairwise_cons.mp pairs).1
          refine List.forall_mem_cons.mpr ⟨apart, fun later member => ?_⟩
          have further := above later member
          omega

theorem not_spans_of_gap {lower upper : Nat × Nat} (apart : lower.2 + 1 < upper.1)
    (inLower : Spans lower c) : ¬ Spans upper c := by
  intro inUpper
  have below := inLower.2
  have above := inUpper.1
  omega

/-- Two ranges of an ascending table that span one character are the same. -/
theorem eq_of_spans (ascends : ranges.ascending = true) {first second : Nat × Nat}
    (firstMember : first ∈ ranges) (secondMember : second ∈ ranges) (inFirst : Spans first c)
    (inSecond : Spans second c) : first = second := by
  have pairs := (ordered_of_ascending ascends).2
  exact List.Pairwise.forall_of_forall_of_flip
    (R := fun one other => Spans one c -> Spans other c -> one = other)
    (fun _ _ _ _ => rfl)
    (pairs.imp fun apart inLower inUpper => absurd inUpper (not_spans_of_gap apart inLower))
    (pairs.imp fun apart inUpper inLower => absurd inUpper (not_spans_of_gap apart inLower))
    firstMember secondMember inFirst inSecond

end Ranges

/-- The tables of character properties. -/
def tables : List Ranges :=
  [cased, caseIgnorable, extending, unprintable]

theorem ascending_of_mem_tables {table : Ranges} (member : table ∈ tables) :
    table.ascending = true := by
  revert table
  decide +kernel

/-- A table holds a character exactly if one of its ranges spans it and no other. -/
theorem holds_iff_one_range {table : Ranges} (member : table ∈ tables) (c : Char) :
    table.holds c = true ↔
      Exists fun range => range ∈ table ∧ Ranges.Spans range c ∧
        forall other, other ∈ table -> Ranges.Spans other c -> other = range := by
  rw [Ranges.holds_iff]
  constructor
  · rintro ⟨range, inside, spans⟩
    exact ⟨range, inside, spans, fun other among inOther =>
      Ranges.eq_of_spans (ascending_of_mem_tables member) among inside inOther spans⟩
  · rintro ⟨range, inside, spans, _⟩
    exact ⟨range, inside, spans⟩

end Text
end CardTable
