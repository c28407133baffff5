import CardTable.Text.Lowercase

namespace CardTable
namespace Text

/-!
# Text that is in lower case

Of ASCII, only the capital letters are changed by the lower-case mapping.  A text
of other ASCII characters is therefore its own lower case, whatever stands where
in it: the one rule that looks at the surroundings is about a Greek letter.
-/

theorem toLower_eq_self {c : Char} (small : c.isUpper = false) : c.toLower = c := by
  unfold Char.toLower
  exact dif_neg (of_decide_eq_false small)

/-- An ASCII character that is no capital letter. -/
def IsSmall (c : Char) : Prop :=
  c.toNat < 0x80 ∧ c.isUpper = false

theorem lowerForm_of_isSmall {c : Char} (small : IsSmall c) (before after : List Char) :
    lowerForm before c after = [c] := by
  rw [lowerForm, if_pos small.1, toLower_eq_self small.2]

theorem lowerFrom_of_isSmall {text : List Char} (small : forall c, c ∈ text -> IsSmall c)
    (before : List Char) : lowerFrom before text = text := by
  induction text generalizing before with
  | nil => rfl
  | cons c rest inductionHypothesis =>
      have parts := List.forall_mem_cons.mp small
      rw [lowerFrom, lowerForm_of_isSmall parts.1, inductionHypothesis parts.2]
      rfl

theorem lower_of_isSmall {text : String} (small : forall c, c ∈ text.toList -> IsSmall c) :
    lower text = text := by
  rw [lower, lowerFrom_of_isSmall small, String.ofList_toList]

theorem bounds_of_between {c : Char} (between : 'a' ≤ c ∧ c ≤ 'z') :
    97 ≤ c.toNat ∧ c.toNat ≤ 122 :=
  ⟨UInt32.le_iff_toNat_le.mp between.1, UInt32.le_iff_toNat_le.mp between.2⟩

/-- The letters from a to z. -/
theorem isSmall_of_between {c : Char} (between : 'a' ≤ c ∧ c ≤ 'z') : IsSmall c := by
  have bounds := bounds_of_between between
  refine ⟨by omega, decide_eq_false fun capital => ?_⟩
  have below : c.toNat ≤ 90 := UInt32.le_iff_toNat_le.mp capital.2
  omega

end Text
end CardTable
