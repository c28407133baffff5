import CardTable.Choosing
import CardTable.Proofs.Markup.Entities
import CardTable.Proofs.Text.Numeral

namespace CardTable

/-!
# Options that carry markup

The options of a choice are numbered first and cleaned afterwards, all in one
text.  Decoding is no danger to them: each label begins on a new line, and no
entity reaches over the end of a line.  A tag does.  An option with a bracket
that it does not close itself is joined to the next one that has a closing
bracket, and everything between the two is lost, the labels with it.

That is the only way in which one option meddles with another.  `SelfContained`
says that it does not happen, and then the list is what it would be if each
option had been cleaned by itself.
-/

namespace Markup

def withoutTags (text : String) : String :=
  String.ofList (strip text.toList)

def withoutEntities (text : String) : String :=
  String.ofList (decode text.toList)

end Markup

namespace Choosing

/-- No option has a bracket that only a later option closes. -/
def SelfContained (options : List String) : Prop :=
  options.Pairwise fun option later => Markup.Unclosed option.toList -> '>' ∉ later.toList

/-- What stands before an option. -/
def label (number : Nat) : String :=
  "\n [" ++ String.ofList (Text.decimal number) ++ "] "

section

variable {number : Nat} {option : String} {options : List String}

/-! ## Labels and lines -/

theorem optionLines_cons :
    (optionLines number (option :: options)).toList =
      (label number).toList ++ (option.toList ++ (optionLines (number + 1) options).toList) := by
  rw [optionLines, optionLine, ← label, String.toList_append, String.toList_append,
    List.append_assoc]

/-- The options in their order, each behind its number. -/
theorem listing_eq (options : List String) :
    listing options =
      "Options:" ++ String.join (options.mapIdx fun index option =>
        "\n [" ++ toString (index + 1) ++ "] " ++ option) := by
  have lines (number : Nat) : optionLines (number + 1) options =
      String.join (options.mapIdx fun index option =>
        "\n [" ++ toString (index + number + 1) ++ "] " ++ option) := by
    induction options generalizing number with
    | nil => rfl
    | cons option options inductionHypothesis =>
        rw [optionLines, inductionHypothesis, List.mapIdx_cons, String.join_cons, Nat.zero_add]
        simp only [Nat.add_right_comm _ 1, ← Nat.add_assoc]
        rfl
  exact congrArg ("Options:" ++ ·) (lines 0)

/-- A label has no part in a tag or an entity. -/
theorem not_mem_label {c : Char} (mark : c ∈ ['<', '>', '&']) (number : Nat) :
    c ∉ (label number).toList := by
  intro member
  rw [label, String.toList_append, String.toList_append, List.mem_append, List.mem_append] at member
  simp only [List.mem_cons, List.not_mem_nil, or_false] at mark
  rcases member with (opening | digit) | closing
  · rcases mark with rfl | rfl | rfl <;> revert opening <;> decide
  · rw [String.toList_ofList] at digit
    have isDigit := Text.isDigit_of_mem_decimal digit
    rcases mark with rfl | rfl | rfl <;> cases isDigit
  · rcases mark with rfl | rfl | rfl <;> revert closing <;> decide

/-- Every option begins a line. -/
theorem exists_break (filled : options ≠ []) (number : Nat) :
    Exists fun rest => (optionLines number options).toList = '\n' :: rest := by
  cases options with
  | nil => exact absurd rfl filled
  | cons option options =>
      refine ⟨((label number).toList ++ (option.toList ++
        (optionLines (number + 1) options).toList)).tail, ?_⟩
      rw [optionLines_cons, label, String.toList_append, String.toList_append]
      rfl

/-- A bracket that closes belongs to an option. -/
theorem closing_mem_optionLines_iff :
    '>' ∈ (optionLines number options).toList ↔
      Exists fun option => option ∈ options ∧ '>' ∈ option.toList := by
  induction options generalizing number with
  | nil => simp [optionLines]
  | cons option options inductionHypothesis =>
      have outside := not_mem_label (c := '>') (by decide) number
      rw [optionLines_cons, List.mem_append, List.mem_append, inductionHypothesis,
        or_iff_right outside]
      simp only [List.mem_cons, or_and_right, exists_or, exists_eq_left]

/-! ## Dropping the tags -/

theorem selfContained_cons_iff (number : Nat) :
    SelfContained (option :: options) ↔
      (Markup.Unclosed option.toList -> '>' ∉ (optionLines number options).toList) ∧
        SelfContained options := by
  rw [SelfContained, List.pairwise_cons, closing_mem_optionLines_iff, ← SelfContained]
  refine and_congr_left fun _ => ⟨?_, ?_⟩
  · rintro apart unclosed ⟨later, member, closes⟩
    exact apart later member unclosed closes
  · intro apart later member unclosed closes
    exact apart unclosed ⟨later, member, closes⟩

theorem strip_optionLines_cons :
    Markup.strip (optionLines number (option :: options)).toList =
      (label number).toList ++
        Markup.strip (option.toList ++ (optionLines (number + 1) options).toList) := by
  rw [optionLines_cons, Markup.strip_append_of_not_mem (not_mem_label (by decide) number)]

/-- Options that close their own brackets lose their own tags. -/
theorem strip_optionLines (contained : SelfContained options) (number : Nat) :
    Markup.strip (optionLines number options).toList =
      (optionLines number (options.map Markup.withoutTags)).toList := by
  induction options generalizing number with
  | nil => exact Markup.strip_nil
  | cons option options inductionHypothesis =>
      have parts := (selfContained_cons_iff (number + 1)).mp contained
      rw [strip_optionLines_cons, Markup.strip_append parts.1, inductionHypothesis parts.2,
        List.map_cons, optionLines_cons, Markup.withoutTags, String.toList_ofList]

theorem strip_optionLines_sublist (options : List String) (number : Nat) :
    (Markup.strip (optionLines number options).toList).Sublist
      (optionLines number (options.map Markup.withoutTags)).toList := by
  induction options generalizing number with
  | nil => exact Markup.strip_sublist _
  | cons option options inductionHypothesis =>
      rw [strip_optionLines_cons, List.map_cons, optionLines_cons, Markup.withoutTags,
        String.toList_ofList]
      apply List.Sublist.append_left
      exact (Markup.strip_append_sublist _ _).trans
        ((inductionHypothesis (number + 1)).append_left _)

/-- If options meet in a tag, the label between them is lost, and with it the line
break that it begins with. -/
theorem count_strip_optionLines_lt (meeting : ¬ SelfContained options) (number : Nat) :
    (Markup.strip (optionLines number options).toList).count '\n' <
      (optionLines number (options.map Markup.withoutTags)).toList.count '\n' := by
  induction options generalizing number with
  | nil => exact absurd List.Pairwise.nil meeting
  | cons option options inductionHypothesis =>
      have others := (strip_optionLines_sublist options (number + 1)).count_le '\n'
      rw [strip_optionLines_cons, List.map_cons, optionLines_cons, Markup.withoutTags,
        String.toList_ofList, List.count_append, List.count_append, List.count_append]
      apply Nat.add_lt_add_left
      by_cases apart : Markup.Unclosed option.toList ->
          '>' ∉ (optionLines (number + 1) options).toList
      · have meetsLater : ¬ SelfContained options := fun contained =>
          meeting ((selfContained_cons_iff (number + 1)).mpr ⟨apart, contained⟩)
        have later := inductionHypothesis meetsLater (number + 1)
        rw [Markup.strip_append apart, List.count_append]
        omega
      · obtain ⟨unclosed, closes⟩ := Classical.not_imp.mp apart
        rw [not_not] at closes
        have filled : options ≠ [] := by
          rintro rfl
          cases closes
        obtain ⟨rest, line⟩ := exists_break filled (number + 1)
        rw [line] at closes others ⊢
        have closesBehind := (List.mem_cons.mp closes).resolve_left (by decide)
        have lost := Markup.count_strip_append_lt unclosed closesBehind
          (c := '\n') (by decide) (by decide)
        omega

/-! ## Decoding the entities -/

theorem decode_optionLines (options : List String) (number : Nat) :
    Markup.decode (optionLines number options).toList =
      (optionLines number (options.map Markup.withoutEntities)).toList := by
  induction options generalizing number with
  | nil => exact Markup.decode_nil
  | cons option options inductionHypothesis =>
      have apart : Markup.decode (option.toList ++ (optionLines (number + 1) options).toList) =
          Markup.decode option.toList ++
            Markup.decode (optionLines (number + 1) options).toList := by
        by_cases filled : options = []
        · rw [filled, optionLines, String.toList_empty, Markup.decode_nil, List.append_nil,
            List.append_nil]
        · obtain ⟨rest, line⟩ := exists_break filled (number + 1)
          rw [line]
          exact Markup.decode_append_cons (fun _ _ entity => entity.no_break.1) _ _
      rw [optionLines_cons, Markup.decode_append_of_not_mem (not_mem_label (by decide) number),
        apart, inductionHypothesis, List.map_cons, optionLines_cons, Markup.withoutEntities,
        String.toList_ofList]

/-! ## Cleaning the list -/

theorem toList_plain_listing (options : List String) :
    (Markup.plain (listing options)).toList =
      "Options:".toList ++ Markup.decode (Markup.strip (optionLines 1 options).toList) := by
  rw [Markup.plain, listing, String.toList_ofList, String.toList_append,
    Markup.strip_append_of_not_mem (by decide), Markup.decode_append_of_not_mem (by decide)]

theorem toList_listing_map_plain (options : List String) :
    (listing (options.map Markup.plain)).toList =
      "Options:".toList ++
        Markup.decode (optionLines 1 (options.map Markup.withoutTags)).toList := by
  have stages : Markup.plain = Markup.withoutEntities ∘ Markup.withoutTags := by
    funext text
    rw [Function.comp_apply, Markup.plain, Markup.withoutEntities, Markup.withoutTags,
      String.toList_ofList]
  rw [decode_optionLines, List.map_map, ← stages, listing, String.toList_append]

theorem plain_listing (contained : SelfContained options) :
    Markup.plain (listing options) = listing (options.map Markup.plain) := by
  rw [← String.toList_inj, toList_plain_listing, toList_listing_map_plain,
    strip_optionLines contained]

theorem count_plain_listing_lt (meeting : ¬ SelfContained options) :
    (Markup.plain (listing options)).toList.count '\n' <
      (listing (options.map Markup.plain)).toList.count '\n' := by
  rw [toList_plain_listing, toList_listing_map_plain, List.count_append, List.count_append,
    Markup.count_decode, Markup.count_decode]
  exact Nat.add_lt_add_left (count_strip_optionLines_lt meeting 1) _

end
end Choosing
end CardTable
