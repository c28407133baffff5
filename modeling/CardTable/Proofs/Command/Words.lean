import Mathlib.Data.List.Forall2
import CardTable.Command

namespace CardTable
namespace Command

/-!
# The words of the commands

A typed word asks for a command when it is one of the words of that command up
to the case of ASCII letters.  This is said here without folding anything, by
comparing the two words letter by letter against the table of known words, and
the look-up is shown to find exactly that command.
-/

/-- A capital letter of ASCII, and the small letter that goes with it. -/
def IsCapitalOf (capital small : Char) : Prop :=
  'A'.toNat ≤ capital.toNat ∧ capital.toNat ≤ 'Z'.toNat ∧ small.toNat = capital.toNat + 32

/-- Two characters that are the same, or one letter of ASCII in either case. -/
def SameLetter (c d : Char) : Prop :=
  c = d ∨ IsCapitalOf c d ∨ IsCapitalOf d c

/-- Two words that differ at most in the case of ASCII letters. -/
def Alike (word other : String) : Prop :=
  List.Forall₂ SameLetter word.toList other.toList

/-- The words under which a command is known. -/
def words : Command -> List String
  | help => ["help", "h"]
  | draw => ["draw", "d"]
  | play => ["play", "p"]
  | endTurn => ["end", "e"]
  | inspect => ["inspect", "i"]
  | discard => ["discard"]
  | move => ["move", "m"]
  | say => ["say", "s"]

/-- The word asks for the command. -/
def Named (word : String) (command : Command) : Prop :=
  Exists fun known => known ∈ command.words ∧ Alike word known

/-! ## Folding -/

theorem toNat_toLower (c : Char) :
    c.toLower.toNat =
      if 'A'.toNat ≤ c.toNat ∧ c.toNat ≤ 'Z'.toNat then c.toNat + 32 else c.toNat := by
  unfold Char.toLower
  by_cases capital : c.val ≥ 'A'.val ∧ c.val ≤ 'Z'.val
  · have bounds : 'A'.toNat ≤ c.toNat ∧ c.toNat ≤ 'Z'.toNat := by
      simpa [UInt32.le_iff_toNat_le, ← Char.toNat_val] using capital
    rw [dif_pos capital, if_pos bounds]
    have small : c.toNat + 32 < 2 ^ 32 := by
      have last : 'Z'.toNat = 90 := rfl
      omega
    change (c.val + ('a'.val - 'A'.val)).toNat = c.toNat + 32
    rw [UInt32.toNat_add]
    exact Nat.mod_eq_of_lt small
  · have bounds : ¬ ('A'.toNat ≤ c.toNat ∧ c.toNat ≤ 'Z'.toNat) := by
      simpa [UInt32.le_iff_toNat_le, ← Char.toNat_val] using capital
    rw [dif_neg capital, if_neg bounds]

/-- Characters have one lower case exactly when they are the same letter. -/
theorem toLower_eq_iff {c d : Char} : c.toLower = d.toLower ↔ SameLetter c d := by
  have first : 'A'.toNat = 65 := rfl
  have last : 'Z'.toNat = 90 := rfl
  rw [← Char.toNat_inj, toNat_toLower, toNat_toLower, SameLetter, IsCapitalOf, IsCapitalOf,
    ← Char.toNat_inj, first, last]
  split <;> split <;> omega

theorem map_toLower_eq_iff {word other : List Char} :
    word.map Char.toLower = other.map Char.toLower ↔ List.Forall₂ SameLetter word other := by
  induction word generalizing other with
  | nil => cases other <;> simp
  | cons c rest inductionHypothesis =>
      cases other with
      | nil => simp
      | cons d others => simp [toLower_eq_iff, inductionHypothesis]

theorem folded_eq_iff {word other : String} : folded word = folded other ↔ Alike word other := by
  rw [Alike, folded, folded, ← String.toList_inj, String.toList_map, String.toList_map,
    map_toLower_eq_iff]

/-- A word without capitals is what any word alike is folded to. -/
theorem folded_eq_iff_alike {word known : String} (small : folded known = known) :
    folded word = known ↔ Alike word known := by
  rw [← folded_eq_iff, small]

/-! ## Looking a word up -/

theorem folded_of_mem_words {command : Command} {known : String}
    (member : known ∈ command.words) : folded known = known := by
  have small : forall known, known ∈ command.words -> folded known = known := by
    cases command <;> decide +kernel
  exact small known member

theorem named_iff {word : String} {command : Command} :
    Named word command ↔ folded word ∈ command.words := by
  constructor
  · rintro ⟨known, member, alike⟩
    rwa [(folded_eq_iff_alike (folded_of_mem_words member)).mpr alike]
  · intro member
    refine ⟨folded word, member, ?_⟩
    exact (folded_eq_iff_alike (folded_of_mem_words member)).mp rfl

/-- The test of the look-up: the folded word is one of the words of the command. -/
theorem test_iff {word : String} {command : Command} :
    (command.name == folded word || command.shorthand? == some (folded word)) = true ↔
      folded word ∈ command.words := by
  rw [Bool.or_eq_true, beq_iff_eq, beq_iff_eq]
  cases command <;>
    simp only [name, shorthand?, words, Option.some.injEq, reduceCtorEq, List.mem_cons,
      List.not_mem_nil, or_false, eq_comm]

/-- No word belongs to two commands. -/
theorem eq_of_mem_words {known : String} {command other : Command}
    (first : known ∈ command.words) (second : known ∈ other.words) : command = other := by
  cases command <;> simp only [words, List.mem_cons, List.not_mem_nil, or_false] at first <;>
    rcases first with rfl | rfl <;> revert second <;> cases other <;> decide

/-- A word is looked up as a command exactly when it asks for it. -/
theorem ofWord?_eq_some_iff {word : String} {command : Command} :
    ofWord? word = some command ↔ Named word command := by
  rw [named_iff]
  constructor
  · intro found
    have passed := List.find?_some found
    exact test_iff.mp passed
  · intro member
    cases found : ofWord? word with
    | none =>
        have refused := List.find?_eq_none.mp found command (by cases command <;> decide)
        exact absurd (test_iff.mpr member) refused
    | some other =>
        have passed := List.find?_some found
        rw [eq_of_mem_words member (test_iff.mp passed)]

theorem ofWord?_eq_none_iff {word : String} :
    ofWord? word = none ↔ forall command, ¬ Named word command := by
  constructor
  · intro unknown command named
    rw [ofWord?_eq_some_iff.mpr named] at unknown
    cases unknown
  · intro unknown
    cases found : ofWord? word with
    | none => rfl
    | some command => exact absurd (ofWord?_eq_some_iff.mp found) (unknown command)

end Command
end CardTable
