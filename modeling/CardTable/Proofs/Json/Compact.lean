import CardTable.Json.Writer
import CardTable.Proofs.Json.Spelling
import CardTable.Proofs.Text.Numeral
import Mathlib.Tactic.SplitIfs

namespace CardTable
namespace Json

/-!
# The compact text among the spellings

The writer puts down one of the texts of a value: it has no blanks, and it uses
the short escapes where there are some.  Control characters are always escaped,
so the text can be sent as one line.
-/

/-! ## Strings -/

theorem mem_shortEscapes {c letter : Char} (escaped : escapeLetter? c = some letter) :
    (letter, c) ∈ shortEscapes := by
  unfold escapeLetter? at escaped
  simp only [Bool.or_eq_true, decide_eq_true_eq] at escaped
  split_ifs at escaped with itself backspace feed line carriage tab
  · cases escaped
    rcases itself with rfl | rfl <;> decide
  all_goals
    cases escaped
    subst_vars
    decide

theorem spellsUnit_of_control {n : Nat} (control : n < 0x20) :
    SpellsUnit n '0' '0' (hexDigit (n / 16)) (hexDigit n) := by
  have all : forall m : Fin 0x20,
      Text.digitsFrom? 16 0 ['0', '0', hexDigit (m / 16), hexDigit m] = some m.val := by
    decide
  exact all ⟨n, control⟩

theorem spellsString_writeChar {c : Char} {characters text : List Char}
    (spelled : SpellsString characters text) :
    SpellsString (c :: characters) (writeChar c ++ text) := by
  unfold writeChar
  split
  · next letter escaped => exact .short (mem_shortEscapes escaped) spelled
  · next plain =>
    split
    · next control =>
      have unit := SpellsString.unit (spellsUnit_of_control control)
        (fun half => absurd half.1 (by omega)) (fun half => absurd half.1 (by omega)) spelled
      rw [Char.ofNat_toNat] at unit
      exact unit
    · next printed =>
      refine .plain (Nat.le_of_not_lt printed) ?_ ?_ spelled
      · rintro rfl
        cases plain
      · rintro rfl
        cases plain

theorem spellsString_write (characters : List Char) :
    SpellsString characters (characters.flatMap writeChar) := by
  induction characters with
  | nil => exact .nil
  | cons c rest inductionHypothesis => exact spellsString_writeChar inductionHypothesis

theorem spells_writeString (levels : Nat) (text : String) :
    Spells levels (.string text) (writeString text) := by
  have spelled : Spells levels (.string (String.ofList text.toList)) (writeString text) :=
    .string (spellsString_write text.toList)
  rwa [String.ofList_toList] at spelled

/-! ## Numbers and members -/

theorem fits_ofNat {n : Nat} (below : n < Nat.pow 2 64) : Fits n := by
  rw [Fits, Nat.pow_eq, Nat.pow_eq]
  rw [Nat.pow_eq] at below
  omega

theorem spellsMember_writeString {levels : Nat} (key : String) {value : Value}
    {text : List Char} (spelled : Spells levels value text) :
    SpellsMember levels (key, value) (writeString key ++ ':' :: text) := by
  have member := SpellsMember.pair (spellsString_write key.toList) blanks_nil blanks_nil spelled
  rw [String.ofList_toList] at member
  simpa only [writeString, List.cons_append, List.append_assoc, List.nil_append] using member

/-- The compact text of members spells them, as long as it does so for their
values. -/
theorem spellsMembers_write {levels : Nat} {members : List (String × Value)}
    (values : forall key value, (key, value) ∈ members -> Spells levels value (write value)) :
    SpellsMembers levels members (writeMembers members) := by
  induction members with
  | nil => exact .none blanks_nil
  | cons member rest inductionHypothesis =>
      rcases member with ⟨key, value⟩
      have first := spellsMember_writeString key (values key value List.mem_cons_self)
      have others := inductionHypothesis fun name other among =>
        values name other (List.mem_cons_of_mem _ among)
      cases rest with
      | nil =>
          have spelled := SpellsMembers.last blanks_nil first blanks_nil
          simpa only [writeMembers, List.append_assoc, List.cons_append, List.nil_append]
            using spelled
      | cons next more =>
          have spelled := SpellsMembers.more blanks_nil first blanks_nil others
          simpa only [writeMembers, List.append_assoc, List.cons_append, List.nil_append]
            using spelled

theorem spellsObject_write {members : List (String × Value)}
    (values : forall key value, (key, value) ∈ members ->
      Spells (depthLimit - 1) value (write value)) :
    SpellsObject members (String.ofList ('\x7b' :: writeMembers members)) := by
  refine ⟨[], writeMembers members, [], blanks_nil, spellsMembers_write values, blanks_nil, ?_⟩
  rw [String.toList_ofList, List.append_nil, List.nil_append]

/-! ## No control characters -/

/-- No character of the text is a control character. -/
def Printed (text : List Char) : Prop :=
  forall c, c ∈ text -> 0x20 ≤ c.toNat

instance (text : List Char) : Decidable (Printed text) :=
  List.decidableBAll (fun c : Char => 0x20 ≤ c.toNat) text

theorem printed_nil : Printed [] :=
  fun _ impossible => nomatch impossible

theorem printed_cons {c : Char} {text : List Char} (first : 0x20 ≤ c.toNat)
    (rest : Printed text) : Printed (c :: text) :=
  List.forall_mem_cons.mpr ⟨first, rest⟩

theorem printed_append {first second : List Char} (before : Printed first)
    (after : Printed second) : Printed (first ++ second) :=
  List.forall_mem_append.mpr ⟨before, after⟩

theorem hexDigit_printed (n : Nat) : 0x20 ≤ (hexDigit n).toNat := by
  have all : forall m : Fin 16, 0x20 ≤ (Nat.digitChar m).toNat := by
    decide
  exact all ⟨n % 16, Nat.mod_lt n (by decide)⟩

theorem writeChar_printed (c : Char) : Printed (writeChar c) := by
  unfold writeChar
  split
  · next letter escaped =>
    have all : forall row, row ∈ shortEscapes -> 0x20 ≤ row.1.toNat := by
      decide
    exact printed_cons (by decide)
      (printed_cons (all (letter, c) (mem_shortEscapes escaped)) printed_nil)
  · split
    · have digits : Printed [hexDigit (c.toNat / 16), hexDigit c.toNat] :=
        printed_cons (hexDigit_printed _) (printed_cons (hexDigit_printed _) printed_nil)
      exact printed_append (by decide : Printed ['\\', 'u', '0', '0']) digits
    · next notControl => exact printed_cons (Nat.le_of_not_lt notControl) printed_nil

theorem writeString_printed (text : String) : Printed (writeString text) := by
  have inside : Printed (text.toList.flatMap writeChar) := by
    intro c member
    rcases List.mem_flatMap.mp member with ⟨source, _, among⟩
    exact writeChar_printed source c among
  exact printed_append (printed_cons (by decide) inside) (printed_cons (by decide) printed_nil)

theorem decimal_printed (n : Nat) : Printed (Text.decimal n) := by
  intro c member
  have digit := Char.isDigit_iff_toNat.mp (Text.isDigit_of_mem_decimal member)
  exact Nat.le_trans (by decide) digit.1

theorem writeMembers_printed {members : List (String × Value)}
    (values : forall key value, (key, value) ∈ members -> Printed (write value)) :
    Printed (writeMembers members) := by
  induction members with
  | nil => exact printed_cons (by decide) printed_nil
  | cons member rest inductionHypothesis =>
      rcases member with ⟨key, value⟩
      have others := inductionHypothesis fun name other among =>
        values name other (List.mem_cons_of_mem _ among)
      have first : Printed (writeString key ++ ':' :: write value) :=
        printed_append (writeString_printed key)
          (printed_cons (by decide) (values key value List.mem_cons_self))
      cases rest with
      | nil =>
          rw [writeMembers]
          exact printed_append first (printed_cons (by decide) printed_nil)
      | cons next more =>
          rw [writeMembers]
          · exact printed_append first (printed_cons (by decide) others)
          · exact List.cons_ne_nil _ _

end Json
end CardTable
