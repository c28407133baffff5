import CardTable.Markup
import Mathlib.Data.List.Infix
import Mathlib.Data.List.TakeWhile

namespace CardTable
namespace Markup

/-!
# Dropping tags

A tag reaches from an opening bracket to the first closing bracket behind it.
`Untagged` reads a text from left to right and says which characters are left;
there is one such reading, and it is the one that is carried out.

What is left has no tag in it, so nothing is dropped from it a second time.  Two
texts give the same together as one behind the other, unless the first has a
bracket that is closed in the second one only.  Then everything between the two
brackets is lost.
-/

/-- What is left of a text without its tags.  A bracket opens a tag if any
bracket behind it closes one, and the tag ends at the first that does. -/
inductive Untagged : List Char -> List Char -> Prop where
  | done : Untagged [] []
  | tag {inside rest kept : List Char} :
      '>' ∉ inside -> Untagged rest kept -> Untagged ('<' :: (inside ++ '>' :: rest)) kept
  | kept {c : Char} {rest kept : List Char} :
      ¬ (c = '<' ∧ '>' ∈ rest) -> Untagged rest kept -> Untagged (c :: rest) (c :: kept)

/-- There is no tag in the text: behind an opening bracket, no bracket closes. -/
def Tagless (text : List Char) : Prop :=
  forall before behind, text = before ++ '<' :: behind -> '>' ∉ behind

/-- The text has an opening bracket, and none behind it that closes. -/
def Unclosed (text : List Char) : Prop :=
  Exists fun before => Exists fun inside => text = before ++ '<' :: inside ∧ '>' ∉ inside

section

variable {c : Char} {first rest text kept inside behind : List Char}

/-! ## One step -/

theorem strip_nil : strip [] = [] := by
  rw [strip]

theorem strip_cons (notOpening : c ≠ '<') : strip (c :: rest) = c :: strip rest := by
  rw [strip, if_neg notOpening]

theorem strip_tag (unbroken : '>' ∉ inside) :
    strip ('<' :: (inside ++ '>' :: behind)) = strip behind := by
  have closing : (inside ++ '>' :: behind).dropWhile (· ≠ '>') = '>' :: behind := by
    rw [List.dropWhile_append_of_pos fun _ member =>
      decide_eq_true (ne_of_mem_of_not_mem member unbroken)]
    rfl
  rw [strip, if_pos rfl]
  split
  · next none =>
    rw [closing] at none
    cases none
  · next after found =>
    rw [closing] at found
    cases found
    rfl

theorem strip_of_not_mem (none : '>' ∉ text) : strip text = text := by
  induction text with
  | nil => exact strip_nil
  | cons c rest inductionHypothesis =>
      have apart := not_or.mp (mt List.mem_cons.mpr none)
      by_cases opening : c = '<'
      · have unbroken : rest.dropWhile (· ≠ '>') = [] :=
          List.dropWhile_eq_nil_iff.mpr fun _ member =>
            decide_eq_true (ne_of_mem_of_not_mem member apart.2)
        rw [strip, if_pos opening]
        split
        · rfl
        · next after found =>
          rw [unbroken] at found
          cases found
      · rw [strip_cons opening, inductionHypothesis apart.2]

/-- A character stays unless it opens a tag. -/
theorem strip_kept (stays : ¬ (c = '<' ∧ '>' ∈ rest)) : strip (c :: rest) = c :: strip rest := by
  by_cases opening : c = '<'
  · have unclosed : '>' ∉ rest := fun closes => stays ⟨opening, closes⟩
    have none : '>' ∉ c :: rest := by
      rw [opening, List.mem_cons]
      exact not_or.mpr ⟨by decide, unclosed⟩
    rw [strip_of_not_mem none, strip_of_not_mem unclosed]
  · exact strip_cons opening

/-! ## The reading of a whole text -/

theorem Untagged.eq_strip (untagged : Untagged text kept) : kept = strip text := by
  induction untagged with
  | done => exact strip_nil.symm
  | tag unbroken _ inductionHypothesis => rw [strip_tag unbroken, inductionHypothesis]
  | kept stays _ inductionHypothesis => rw [strip_kept stays, inductionHypothesis]

/-- What is kept is read by the rules, by induction on the length of the text:
behind a tag, the reading goes on after its first closing bracket. -/
theorem untagged_strip (text : List Char) : Untagged text (strip text) := by
  match text with
  | [] =>
      rw [strip_nil]
      exact .done
  | c :: rest =>
      by_cases tag : c = '<' ∧ '>' ∈ rest
      · have closes := tag.2
        obtain ⟨inside, behind, split, unbroken⟩ := List.eq_append_cons_of_mem closes
        have shorter : behind.length < rest.length := by
          rw [split, List.length_append, List.length_cons]
          omega
        rw [tag.1, split, strip_tag unbroken]
        exact .tag unbroken (untagged_strip behind)
      · rw [strip_kept tag]
        exact .kept tag (untagged_strip rest)
termination_by text.length
decreasing_by
  · exact Nat.lt_succ_of_lt shorter
  · exact Nat.lt_succ_self _

theorem untagged_iff : Untagged text kept ↔ kept = strip text := by
  constructor
  · exact Untagged.eq_strip
  · rintro rfl
    exact untagged_strip text

/-! ## Texts without tags -/

theorem Untagged.sublist (untagged : Untagged text kept) : kept.Sublist text := by
  induction untagged with
  | done => exact .slnil
  | tag _ _ inductionHypothesis =>
      exact .cons _ ((inductionHypothesis.cons _).trans (List.sublist_append_right _ _))
  | kept _ _ inductionHypothesis => exact inductionHypothesis.cons_cons _

theorem strip_sublist (text : List Char) : (strip text).Sublist text :=
  (untagged_strip text).sublist

theorem tagless_cons_iff : Tagless (c :: rest) ↔ ¬ (c = '<' ∧ '>' ∈ rest) ∧ Tagless rest := by
  constructor
  · intro tagless
    refine ⟨?_, fun before behind split => tagless (c :: before) behind (by rw [split]; rfl)⟩
    rintro ⟨rfl, closes⟩
    exact tagless [] rest rfl closes
  · rintro ⟨stays, tagless⟩ before behind split closes
    cases before with
    | nil =>
        cases split
        exact stays ⟨rfl, closes⟩
    | cons d before =>
        cases split
        exact tagless before behind rfl closes

theorem Untagged.tagless (untagged : Untagged text kept) : Tagless kept := by
  induction untagged with
  | done =>
      intro before behind split
      cases before <;> cases split
  | tag _ _ inductionHypothesis => exact inductionHypothesis
  | kept stays untagged inductionHypothesis =>
      refine tagless_cons_iff.mpr ⟨?_, inductionHypothesis⟩
      rintro ⟨opening, closes⟩
      exact stays ⟨opening, untagged.sublist.subset closes⟩

theorem tagless_strip (text : List Char) : Tagless (strip text) :=
  (untagged_strip text).tagless

theorem strip_eq_self_iff : strip text = text ↔ Tagless text := by
  constructor
  · intro same
    rw [← same]
    exact tagless_strip text
  · intro tagless
    induction text with
    | nil => exact strip_nil
    | cons c rest inductionHypothesis =>
        have parts := tagless_cons_iff.mp tagless
        rw [strip_kept parts.1, inductionHypothesis parts.2]

/-! ## One text behind another -/

theorem strip_append_of_not_mem (bare : '<' ∉ first) (rest : List Char) :
    strip (first ++ rest) = first ++ strip rest := by
  induction first with
  | nil => rfl
  | cons c others inductionHypothesis =>
      have apart := not_or.mp (mt List.mem_cons.mpr bare)
      rw [List.cons_append, strip_cons (Ne.symm apart.1), inductionHypothesis apart.2]
      rfl

/-- A bracket that is not closed stands behind every one that closes. -/
theorem unclosed_append_cons_iff : Unclosed (inside ++ '>' :: behind) ↔ Unclosed behind := by
  constructor
  · rintro ⟨before, unclosed, split, none⟩
    rcases List.append_eq_append_iff.mp split with ⟨between, _, tail⟩ | ⟨between, _, tail⟩
    · cases between with
      | nil => cases tail
      | cons d between =>
          cases tail
          exact ⟨between, unclosed, rfl, none⟩
    · cases between with
      | nil => cases tail
      | cons d between =>
          cases tail
          exact absurd (List.mem_append_right _ List.mem_cons_self) none
  · rintro ⟨before, unclosed, rfl, none⟩
    exact ⟨inside ++ '>' :: before, unclosed, by simp, none⟩

theorem unclosed_cons_iff :
    Unclosed (c :: rest) ↔ (c = '<' ∧ '>' ∉ rest) ∨ Unclosed rest := by
  constructor
  · rintro ⟨before, unclosed, split, none⟩
    cases before with
    | nil =>
        cases split
        exact Or.inl ⟨rfl, none⟩
    | cons d before =>
        cases split
        exact Or.inr ⟨before, unclosed, rfl, none⟩
  · rintro (⟨rfl, none⟩ | ⟨before, unclosed, rfl, none⟩)
    · exact ⟨[], rest, rfl, none⟩
    · exact ⟨c :: before, unclosed, rfl, none⟩

/-- Two texts give the same together as apart, unless the second one closes what
the first one leaves open. -/
theorem strip_append (apart : Unclosed first -> '>' ∉ rest) :
    strip (first ++ rest) = strip first ++ strip rest := by
  have read := untagged_strip first
  generalize strip first = kept at read
  induction read with
  | done => rfl
  | tag unbroken _ inductionHypothesis =>
      rw [List.cons_append, List.append_assoc, List.cons_append, strip_tag unbroken]
      apply inductionHypothesis
      intro unclosed
      exact apart (unclosed_cons_iff.mpr (Or.inr (unclosed_append_cons_iff.mpr unclosed)))
  | kept stays _ inductionHypothesis =>
      rw [List.cons_append, strip_kept, inductionHypothesis, List.cons_append]
      · intro unclosed
        exact apart (unclosed_cons_iff.mpr (Or.inr unclosed))
      · rintro ⟨opening, closes⟩
        have within : '>' ∉ _ := fun closed => stays ⟨opening, closed⟩
        rcases List.mem_append.mp closes with closed | behind
        · exact within closed
        · exact apart (unclosed_cons_iff.mpr (Or.inl ⟨opening, within⟩)) behind

/-- Otherwise everything from the one bracket to the other is lost. -/
theorem strip_append_of_unclosed (unclosed : Unclosed first) (unbroken : '>' ∉ inside)
    (behind : List Char) :
    Exists fun before => Exists fun lost => strip first = before ++ '<' :: lost ∧
      strip (first ++ (inside ++ '>' :: behind)) = before ++ strip behind := by
  have read := untagged_strip first
  generalize strip first = kept at read
  induction read with
  | done =>
      rcases unclosed with ⟨before, lost, split, _⟩
      cases before <;> cases split
  | tag closed _ inductionHypothesis =>
      rcases unclosed_cons_iff.mp unclosed with ⟨_, none⟩ | later
      · exact absurd (List.mem_append_right _ List.mem_cons_self) none
      · rw [List.cons_append, List.append_assoc, List.cons_append, strip_tag closed]
        exact inductionHypothesis (unclosed_append_cons_iff.mp later)
  | @kept c rest kept stays read inductionHypothesis =>
      by_cases opening : c = '<' ∧ '>' ∉ rest
      · obtain ⟨rfl, none⟩ := opening
        refine ⟨[], kept, rfl, ?_⟩
        rw [List.cons_append, ← List.append_assoc, strip_tag, List.nil_append]
        rw [List.mem_append]
        exact not_or.mpr ⟨none, unbroken⟩
      · have later := (unclosed_cons_iff.mp unclosed).resolve_left opening
        have other : c ≠ '<' := by
          intro same
          exact stays ⟨same, not_not.mp fun none => opening ⟨same, none⟩⟩
        rcases inductionHypothesis later with ⟨before, lost, split, whole⟩
        refine ⟨c :: before, lost, by rw [split]; rfl, ?_⟩
        rw [List.cons_append, strip_cons other, whole]
        rfl

/-- What stands behind a closing bracket is left, whatever stands before it. -/
theorem strip_suffix (unbroken : '>' ∉ inside) (behind : List Char) :
    strip behind <:+ strip (inside ++ '>' :: behind) := by
  induction inside with
  | nil =>
      rw [List.nil_append, strip_cons (by decide)]
      exact List.suffix_cons _ _
  | cons c others inductionHypothesis =>
      have apart := not_or.mp (mt List.mem_cons.mpr unbroken)
      by_cases opening : c = '<'
      · rw [opening, List.cons_append, strip_tag apart.2]
      · rw [List.cons_append, strip_cons opening]
        exact (inductionHypothesis apart.2).trans (List.suffix_cons _ _)

/-- Two texts together never leave more than each of them alone. -/
theorem strip_append_sublist (first rest : List Char) :
    (strip (first ++ rest)).Sublist (strip first ++ strip rest) := by
  by_cases meets : Unclosed first ∧ '>' ∈ rest
  · obtain ⟨inside, behind, rfl, unbroken⟩ := List.eq_append_cons_of_mem meets.2
    obtain ⟨before, lost, split, whole⟩ := strip_append_of_unclosed meets.1 unbroken behind
    rw [split, whole, List.append_assoc]
    apply List.Sublist.append_left
    exact (strip_suffix unbroken behind).sublist.trans (List.sublist_append_right _ _)
  · rw [strip_append fun unclosed closes => meets ⟨unclosed, closes⟩]

/-- A character between two brackets, of which one text has the first and
another the second, is lost when they are put together. -/
theorem count_strip_append_lt (unclosed : Unclosed first) (closes : '>' ∈ rest)
    (notOpening : c ≠ '<') (notClosing : c ≠ '>') :
    (strip (first ++ c :: rest)).count c < (strip first).count c + (strip (c :: rest)).count c := by
  obtain ⟨inside, behind, rfl, unbroken⟩ := List.eq_append_cons_of_mem closes
  have none : '>' ∉ c :: inside := by
    rw [List.mem_cons]
    exact not_or.mpr ⟨Ne.symm notClosing, unbroken⟩
  obtain ⟨before, lost, split, whole⟩ := strip_append_of_unclosed unclosed none behind
  rw [List.cons_append] at whole
  rw [split, whole, strip_cons notOpening, List.count_append, List.count_append,
    List.count_cons_self]
  have left := (strip_suffix unbroken behind).sublist.count_le c
  omega

end

end Markup
end CardTable
