import CardTable.Roster
import Mathlib.Data.List.Infix
import Mathlib.Data.List.TakeWhile

namespace CardTable
namespace Roster

/-!
# Marked names

The scan for player names goes on behind each mark that it comes upon, so it
could step over the beginning of another one.  It does not.  A mark begins with
an angle bracket.  Inside a mark there is one bracket more, that of the closing
text, and what follows that one is not how a mark begins.

So the scan finds every mark there is, wherever it stands and whatever broken
markup stands around it: a name is found exactly when it can stand in a mark and
the mark is a part of the text.
-/

/-- A name that can stand in a mark. -/
def IsMarkable (name : String) : Prop :=
  name ≠ "" ∧ '<' ∉ name.toList

/-- The name stands in the text between the two texts that mark it. -/
def Marks (play name : String) : Prop :=
  Exists fun before => Exists fun behind =>
    play = before ++ ("<span class=\x22playerName\x22>" ++ name ++ "</span>") ++ behind

theorem toList_mark (name : String) :
    ("<span class=\x22playerName\x22>" ++ name ++ "</span>").toList = mark name := by
  rw [String.toList_append, String.toList_append, List.append_assoc]
  rfl

theorem marks_iff_infix (play name : String) : Marks play name ↔ mark name <:+: play.toList := by
  rw [← toList_mark]
  constructor
  · rintro ⟨before, behind, rfl⟩
    refine ⟨before.toList, behind.toList, ?_⟩
    simp only [String.toList_append]
  · rintro ⟨before, behind, whole⟩
    refine ⟨String.ofList before, String.ofList behind, ?_⟩
    apply String.toList_inj.mp
    rw [String.toList_append, String.toList_append, String.toList_ofList, String.toList_ofList,
      whole]

/-! ## A mark at the start of a text -/

/-- The name in front of the next angle bracket. -/
theorem span_name {name : String} (markable : IsMarkable name) (behind : List Char) :
    (name.toList ++ (closing ++ behind)).takeWhile (· ≠ '<') = name.toList ∧
      (name.toList ++ (closing ++ behind)).dropWhile (· ≠ '<') = closing ++ behind := by
  have inside : forall c, c ∈ name.toList -> decide (c ≠ '<') = true := by
    intro c member
    apply decide_eq_true
    rintro rfl
    exact markable.2 member
  constructor
  · rw [List.takeWhile_append_of_pos inside]
    exact List.append_nil _
  · rw [List.dropWhile_append_of_pos inside]
    rfl

theorem nameAt?_eq_some_iff (text : List Char) (name : String) :
    nameAt? text = some name ↔ IsMarkable name ∧ mark name <+: text := by
  constructor
  · intro found
    unfold nameAt? at found
    split at found
    · cases found
    · next rest opens =>
      dsimp only at found
      split at found
      · next closes =>
        cases found
        rw [Bool.and_eq_true, Bool.not_eq_true', List.isPrefixOf_iff_prefix] at closes
        rcases closes with ⟨some, behind, ends⟩
        rw [List.isPrefixOf?_eq_some_iff_append_eq] at opens
        refine ⟨⟨?_, ?_⟩, behind, ?_⟩
        · intro empty
          rw [← String.toList_eq_nil_iff, String.toList_ofList] at empty
          rw [empty] at some
          cases some
        · intro member
          rw [String.toList_ofList] at member
          have bare := List.mem_takeWhile_imp member
          cases bare
        · rw [mark, String.toList_ofList, List.append_assoc, List.append_assoc, ends,
            List.takeWhile_append_dropWhile, opens]
      · cases found
  · rintro ⟨markable, behind, rfl⟩
    have opens : opening.isPrefixOf? (mark name ++ behind) =
        some (name.toList ++ (closing ++ behind)) := by
      rw [List.isPrefixOf?_eq_some_iff_append_eq, mark, List.append_assoc, List.append_assoc]
    have some : name.toList.isEmpty = false := by
      rw [Bool.eq_false_iff]
      intro empty
      exact markable.1 (String.toList_eq_nil_iff.mp (List.isEmpty_iff.mp empty))
    have closes : closing.isPrefixOf (closing ++ behind) = true :=
      List.isPrefixOf_iff_prefix.mpr (List.prefix_append _ _)
    unfold nameAt?
    rw [opens]
    dsimp only
    rw [(span_name markable behind).1, (span_name markable behind).2, some, closes,
      String.ofList_toList]
    rfl

/-! ## No mark begins inside another -/

/-- A part of a text that begins with an angle bracket does not begin before the
first one. -/
theorem suffix_of_suffix_append {skipped rest later : List Char} (without : '<' ∉ skipped)
    (bracket : later.head? = some '<') (part : later <:+ skipped ++ rest) : later <:+ rest := by
  induction skipped with
  | nil => exact part
  | cons c others inductionHypothesis =>
      have apart := not_or.mp (mt List.mem_cons.mpr without)
      rcases List.suffix_cons_iff.mp part with same | later
      · rw [same] at bracket
        exact absurd (Option.some.inj bracket).symm apart.1
      · exact inductionHypothesis apart.2 later

/-- A part that begins as marks do is the whole of a marked text, or stands
behind the mark. -/
theorem suffix_behind_mark {name : String} (markable : IsMarkable name) {behind later : List Char}
    (opens : opening <+: later) (part : later <:+ mark name ++ behind) :
    later = mark name ++ behind ∨ later <:+ behind := by
  rcases opens with ⟨inside, rfl⟩
  have bracket : (opening ++ inside).head? = some '<' := rfl
  have split : mark name ++ behind =
      '<' :: ((opening.tail ++ name.toList) ++ ('<' :: (closing.tail ++ behind))) := by
    rw [mark, List.append_assoc, List.append_assoc, List.append_assoc]
    rfl
  rw [split] at part ⊢
  rcases List.suffix_cons_iff.mp part with whole | behindFirst
  · exact Or.inl whole
  · have noBracket : '<' ∉ opening.tail ++ name.toList := by
      intro member
      rcases List.mem_append.mp member with opened | named
      · revert opened
        decide
      · exact markable.2 named
    have atClosing := suffix_of_suffix_append noBracket bracket behindFirst
    rcases List.suffix_cons_iff.mp atClosing with closes | behindSecond
    · cases closes
    · exact Or.inr (suffix_of_suffix_append (by decide) bracket behindSecond)

/-! ## The scan -/

theorem mem_names_iff (text : List Char) (name : String) :
    name ∈ names text ↔ IsMarkable name ∧ mark name <:+: text := by
  induction text using names.induct with
  | case1 =>
      rw [names]
      constructor
      · intro impossible
        cases impossible
      · rintro ⟨_, part⟩
        have length := part.length_le
        exact absurd (length_mark_pos name) (Nat.not_lt.mpr length)
  | case2 c rest other found inductionHypothesis =>
      rcases (nameAt?_eq_some_iff _ _).mp found with ⟨markable, behind, whole⟩
      rw [← whole, List.drop_left] at inductionHypothesis
      rw [names, found]
      dsimp only
      rw [← whole, List.drop_left, List.mem_cons, inductionHypothesis]
      constructor
      · rintro (rfl | ⟨named, part⟩)
        · exact ⟨markable, (List.prefix_append _ _).isInfix⟩
        · exact ⟨named, part.trans (List.suffix_append _ _).isInfix⟩
      · rintro ⟨named, part⟩
        rcases List.infix_iff_prefix_suffix.mp part with ⟨later, begins, ends⟩
        have opens : opening <+: later := (List.prefix_append _ _).trans begins
        rcases suffix_behind_mark markable opens ends with same | behindMark
        · rw [same, whole] at begins
          have first := (nameAt?_eq_some_iff _ _).mpr ⟨named, begins⟩
          rw [found] at first
          exact Or.inl (Option.some.inj first).symm
        · exact Or.inr ⟨named, begins.isInfix.trans behindMark.isInfix⟩
  | case3 c rest found inductionHypothesis =>
      rw [names, found]
      dsimp only
      rw [inductionHypothesis, List.infix_cons_iff]
      constructor
      · rintro ⟨named, part⟩
        exact ⟨named, Or.inr part⟩
      · rintro ⟨named, begins | part⟩
        · rw [(nameAt?_eq_some_iff _ _).mpr ⟨named, begins⟩] at found
          cases found
        · exact ⟨named, part⟩

/-- The players of a play area are the names that it marks. -/
theorem isActive_ofPlay_iff (play name : String) :
    (ofPlay play).isActive name = true ↔ IsMarkable name ∧ Marks play name := by
  rw [isActive, List.contains_iff_mem, ofPlay, mem_names_iff, marks_iff_infix]

/-- A name opened twice, an empty one, and one that is not closed. -/
example :
    (ofPlay ("<span class=\x22playerName\x22><span class=\x22playerName\x22>ada</span>" ++
      "<span class=\x22playerName\x22></span><span class=\x22playerName\x22>bob")).players =
        ["ada"] := by
  decide +kernel

end Roster
end CardTable
