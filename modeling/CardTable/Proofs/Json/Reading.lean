import CardTable.Proofs.Json.Scalar

namespace CardTable
namespace Json

/-!
# Every spelling is read

A text that spells a value is read as that value, whatever follows it.  The
reader counts its steps, and a text of `n` characters takes at most `3 * n` of
them: on the way from one value to the next there is a bracket, a comma or a
quote, which pays for the three steps there.

The items of an array are entered in two ways, behind the bracket and behind a
comma, and so are the members of an object.  The induction over the spelling
keeps both.
-/

variable {levels steps : Nat}

/-- A value begins with a character that is neither a blank nor a closing
bracket. -/
theorem Spells.head {value : Value} {text : List Char} (spelled : Spells levels value text) :
    Exists fun c => Exists fun rest => text = c :: rest ∧ isBlank c = false ∧ c ≠ ']' := by
  cases spelled with
  | null => exact ⟨'n', _, rfl, by decide, by decide⟩
  | truth => exact ⟨'t', _, rfl, by decide, by decide⟩
  | falsity => exact ⟨'f', _, rfl, by decide, by decide⟩
  | string _ => exact ⟨Text.doubleQuote, _, rfl, by decide, by decide⟩
  | array _ => exact ⟨'[', _, rfl, by decide, by decide⟩
  | object _ => exact ⟨'\x7b', _, rfl, by decide, by decide⟩
  | @whole _ whole _ =>
      rw [Text.integer]
      split
      · exact ⟨'-', _, rfl, by decide, by decide⟩
      · cases digits : Text.decimal whole.natAbs with
        | nil => exact absurd digits (Text.decimal_ne_nil _)
        | cons c rest =>
            have digit := Text.isDigit_of_mem_decimal (digits ▸ List.mem_cons_self)
            have apart := isDigit_apart digit
            exact ⟨c, rest, rfl, apart.1, apart.2.2.2.2.2⟩

/-! ## One step -/

theorem readItems_close {blanks : List Char} (areBlanks : Blanks blanks) (first : Bool)
    (rest : List Char) :
    readItems levels (steps + 1) first (blanks ++ ']' :: rest) = .ok ([], rest) := by
  rw [readItems, skipBlanks_append areBlanks, skipBlanks_cons (by decide)]
  exact if_pos rfl

/-- Blanks in front of a comma are skipped. -/
theorem readItems_blanks {blanks : List Char} (areBlanks : Blanks blanks) (first : Bool)
    (text : List Char) :
    readItems levels steps first (blanks ++ text) = readItems levels steps first text := by
  cases steps with
  | zero => rw [readItems, readItems]
  | succ steps => rw [readItems, readItems, skipBlanks_append areBlanks]

/-- An item is entered behind the opening bracket, and behind a comma. -/
theorem readItems_enter (levels steps : Nat) {blanks : List Char} (areBlanks : Blanks blanks)
    {item : Value} {text : List Char} (spelled : Spells levels item text) (rest : List Char) :
    readItems levels (steps + 1) true (blanks ++ (text ++ rest)) =
        readItem levels steps (text ++ rest) ∧
      readItems levels (steps + 1) false (',' :: (blanks ++ (text ++ rest))) =
        readItem levels steps (text ++ rest) := by
  rcases spelled.head with ⟨c, more, same, notBlank, notClose⟩
  have skipped : skipBlanks (blanks ++ (text ++ rest)) = c :: (more ++ rest) := by
    rw [skipBlanks_append areBlanks, same, List.cons_append, skipBlanks_cons notBlank]
  have begins : text ++ rest = c :: (more ++ rest) := by
    rw [same, List.cons_append]
  constructor
  · rw [readItems, skipped, begins]
    dsimp only
    rw [if_neg notClose, if_pos rfl]
  · rw [readItems, skipBlanks_cons (by decide)]
    dsimp only
    rw [if_neg (by decide), if_neg Bool.false_ne_true, if_pos rfl, skipped, begins]
    dsimp only
    rw [if_neg notClose]

theorem readItem_step {item : Value} {items : List Value} {text rest after : List Char}
    (value : readValue levels steps text = .ok (item, rest))
    (others : readItems levels steps false rest = .ok (items, after)) :
    readItem levels (steps + 1) text = .ok (item :: items, after) := by
  rw [readItem, value]
  dsimp only
  rw [others]
  rfl

theorem readMembers_close {blanks : List Char} (areBlanks : Blanks blanks) (first : Bool)
    (members : Members) (rest : List Char) :
    readMembers levels (steps + 1) first members (blanks ++ '\x7d' :: rest) =
      .ok (members, rest) := by
  rw [readMembers, skipBlanks_append areBlanks, skipBlanks_cons (by decide)]
  exact if_pos rfl

theorem readMembers_blanks {blanks : List Char} (areBlanks : Blanks blanks) (first : Bool)
    (members : Members) (text : List Char) :
    readMembers levels steps first members (blanks ++ text) =
      readMembers levels steps first members text := by
  cases steps with
  | zero => rw [readMembers, readMembers]
  | succ steps => rw [readMembers, readMembers, skipBlanks_append areBlanks]

/-- A member is entered behind the opening brace, and behind a comma. -/
theorem readMembers_enter (levels steps : Nat) {blanks : List Char} (areBlanks : Blanks blanks)
    (members : Members) (text : List Char) :
    readMembers levels (steps + 1) true members (blanks ++ Text.doubleQuote :: text) =
        readMember levels steps members text ∧
      readMembers levels (steps + 1) false members
          (',' :: (blanks ++ Text.doubleQuote :: text)) =
        readMember levels steps members text := by
  have skipped : skipBlanks (blanks ++ Text.doubleQuote :: text) = Text.doubleQuote :: text := by
    rw [skipBlanks_append areBlanks, skipBlanks_cons (by decide)]
  constructor
  · rw [readMembers, skipped]
    dsimp only
    rw [if_neg (by decide), if_pos rfl, if_pos rfl]
  · rw [readMembers, skipBlanks_cons (by decide)]
    dsimp only
    rw [if_neg (by decide), if_neg Bool.false_ne_true, if_pos rfl, skipped]
    dsimp only
    rw [if_pos rfl]

theorem readMember_step {members all : Members} {characters key : List Char} {value : Value}
    {blanks text rest after : List Char} (spelled : SpellsString characters key)
    (areBlanks : Blanks blanks) (read : readValue levels steps text = .ok (value, rest))
    (others : readMembers levels steps false (members.insert (String.ofList characters) value)
      rest = .ok (all, after)) :
    readMember levels (steps + 1) members
      (key ++ Text.doubleQuote :: (blanks ++ ':' :: text)) = .ok (all, after) := by
  rw [readMember, readString_of_spells spelled]
  dsimp only
  rw [skipBlanks_append areBlanks, skipBlanks_cons (by decide)]
  dsimp only
  rw [if_pos rfl, read]
  exact others

/-- Blanks in front of a value are skipped. -/
theorem readValue_blanks {blanks : List Char} (areBlanks : Blanks blanks) (text : List Char) :
    readValue levels steps (blanks ++ text) = readValue levels steps text := by
  cases steps with
  | zero => rw [readValue, readValue]
  | succ steps => rw [readValue, readValue, skipBlanks_append areBlanks]

/-! ## Whole spellings -/

theorem readWord_append (value : Value) (letters rest : List Char) :
    readWord value letters (letters ++ rest) = .ok (value, rest) := by
  induction letters with
  | nil => rw [List.nil_append, readWord]
  | cons letter letters inductionHypothesis =>
      rw [List.cons_append, readWord, if_pos rfl, inductionHypothesis]

mutual

theorem readValue_of_spells {levels : Nat} {value : Value} {text : List Char}
    (spelled : Spells levels value text) {steps : Nat} (enough : 3 * text.length ≤ steps)
    {rest : List Char} (stops : Stops rest) :
    readValue levels steps (text ++ rest) = .ok (value, rest) := by
  obtain ⟨remaining, rfl⟩ : Exists fun remaining => steps = remaining + 1 := by
    rcases spelled.head with ⟨c, more, same, _⟩
    rw [same, List.length_cons] at enough
    exact ⟨steps - 1, by omega⟩
  match spelled with
  | .null =>
      have begins : "null".toList ++ rest = 'n' :: ("ull".toList ++ rest) := rfl
      rw [begins, readValue, skipBlanks_cons (by decide)]
      exact readWord_append .null _ rest
  | .truth =>
      have begins : "true".toList ++ rest = 't' :: ("rue".toList ++ rest) := rfl
      rw [begins, readValue, skipBlanks_cons (by decide)]
      exact readWord_append (.bool true) _ rest
  | .falsity =>
      have begins : "false".toList ++ rest = 'f' :: ("alse".toList ++ rest) := rfl
      rw [begins, readValue, skipBlanks_cons (by decide)]
      exact readWord_append (.bool false) _ rest
  | .whole fits => exact readValue_integer fits stops levels remaining
  | .string spelledString =>
      rw [List.cons_append, readValue, skipBlanks_cons (by decide)]
      dsimp only
      rw [if_pos rfl, List.append_assoc, List.singleton_append, readString_of_spells spelledString]
      rfl
  | @Spells.array levels items text spelledItems =>
      have enoughInside : 3 * text.length ≤ remaining := by
        rw [List.length_cons] at enough
        omega
      have read := (readItems_of_spells spelledItems enoughInside rest).1
      rw [List.cons_append, readValue, skipBlanks_cons (by decide)]
      dsimp only
      rw [if_neg (by decide), if_pos rfl, read]
      rfl
  | @Spells.object levels members text spelledMembers =>
      have enoughInside : 3 * text.length ≤ remaining := by
        rw [List.length_cons] at enough
        omega
      have read := (readMembers_of_spells spelledMembers enoughInside [] rest).1
      rw [List.cons_append, readValue, skipBlanks_cons (by decide)]
      dsimp only
      rw [if_neg (by decide), if_neg (by decide), if_pos rfl, read]
      rfl

theorem readItems_of_spells {levels : Nat} {items : List Value} {text : List Char}
    (spelled : SpellsItems levels items text) {steps : Nat} (enough : 3 * text.length ≤ steps)
    (rest : List Char) :
    readItems levels steps true (text ++ rest) = .ok (items, rest) ∧
      (items ≠ [] ->
        readItems levels steps false (',' :: (text ++ rest)) = .ok (items, rest)) := by
  match spelled with
  | .none areBlanks =>
      obtain ⟨remaining, rfl⟩ : Exists fun remaining => steps = remaining + 1 := by
        rw [List.length_append, List.length_singleton] at enough
        exact ⟨steps - 1, by omega⟩
      rw [List.append_assoc]
      exact ⟨readItems_close areBlanks true rest, fun filled => absurd rfl filled⟩
  | @SpellsItems.last _ item before text after areBefore spelledItem areAfter =>
      simp only [List.length_append, List.length_singleton] at enough
      obtain ⟨remaining, rfl⟩ : Exists fun remaining => steps = remaining + 3 :=
        ⟨steps - 3, by omega⟩
      have enoughInside : 3 * text.length ≤ remaining + 1 := by omega
      have value := readValue_of_spells spelledItem enoughInside
        (stops_append areAfter (Or.inr (Or.inl rfl)) rest)
      have read := readItem_step value (readItems_close areAfter false rest)
      have entered := readItems_enter levels (remaining + 2) areBefore spelledItem
        (after ++ ']' :: rest)
      simp only [List.append_assoc, List.singleton_append]
      rw [entered.1, entered.2, read]
      exact ⟨rfl, fun _ => rfl⟩
  | @SpellsItems.more _ item next items before text after others areBefore spelledItem areAfter
      spelledOthers =>
      simp only [List.length_append, List.length_cons] at enough
      obtain ⟨remaining, rfl⟩ : Exists fun remaining => steps = remaining + 2 :=
        ⟨steps - 2, by omega⟩
      have enoughInside : 3 * text.length ≤ remaining := by omega
      have enoughLater : 3 * others.length ≤ remaining := by omega
      have value := readValue_of_spells spelledItem enoughInside
        (stops_append areAfter (Or.inl rfl) (others ++ rest))
      have later := (readItems_of_spells spelledOthers enoughLater rest).2 (List.cons_ne_nil _ _)
      rw [← readItems_blanks areAfter] at later
      have read := readItem_step value later
      have entered := readItems_enter levels (remaining + 1) areBefore spelledItem
        (after ++ ',' :: (others ++ rest))
      simp only [List.append_assoc, List.cons_append]
      rw [entered.1, entered.2, read]
      exact ⟨rfl, fun _ => rfl⟩

theorem readMembers_of_spells {levels : Nat} {members : List (String × Value)} {text : List Char}
    (spelled : SpellsMembers levels members text) {steps : Nat}
    (enough : 3 * text.length ≤ steps) (earlier : Members) (rest : List Char) :
    readMembers levels steps true earlier (text ++ rest) =
        .ok (earlier.insertAll members, rest) ∧
      (members ≠ [] ->
        readMembers levels steps false earlier (',' :: (text ++ rest)) =
          .ok (earlier.insertAll members, rest)) := by
  match spelled with
  | .none areBlanks =>
      obtain ⟨remaining, rfl⟩ : Exists fun remaining => steps = remaining + 1 := by
        rw [List.length_append, List.length_singleton] at enough
        exact ⟨steps - 1, by omega⟩
      rw [List.append_assoc]
      exact ⟨readMembers_close areBlanks true earlier rest, fun filled => absurd rfl filled⟩
  | @SpellsMembers.last _ _ before _ after areBefore
      (@SpellsMember.pair _ characters key value blanks gap text spelledKey areBlanks areGap
        spelledValue) areAfter =>
      simp only [List.length_append, List.length_cons, List.length_nil] at enough
      obtain ⟨remaining, rfl⟩ : Exists fun remaining => steps = remaining + 3 :=
        ⟨steps - 3, by omega⟩
      have enoughInside : 3 * text.length ≤ remaining + 1 := by omega
      have read := readValue_of_spells spelledValue enoughInside
        (stops_append areAfter (Or.inr (Or.inr rfl)) rest)
      rw [← readValue_blanks areGap] at read
      have member := readMember_step spelledKey areBlanks read
        (readMembers_close areAfter false (earlier.insert (String.ofList characters) value) rest)
      have entered := readMembers_enter levels (remaining + 2) areBefore earlier
        (key ++ Text.doubleQuote :: (blanks ++ ':' :: (gap ++ (text ++ (after ++ '\x7d' :: rest)))))
      simp only [List.append_assoc, List.cons_append, List.nil_append]
      rw [entered.1, entered.2, member]
      exact ⟨rfl, fun _ => rfl⟩
  | @SpellsMembers.more _ _ next members before _ after others areBefore
      (@SpellsMember.pair _ characters key value blanks gap text spelledKey areBlanks areGap
        spelledValue) areAfter spelledOthers =>
      simp only [List.length_append, List.length_cons] at enough
      obtain ⟨remaining, rfl⟩ : Exists fun remaining => steps = remaining + 2 :=
        ⟨steps - 2, by omega⟩
      have enoughInside : 3 * text.length ≤ remaining := by omega
      have enoughLater : 3 * others.length ≤ remaining := by omega
      have read := readValue_of_spells spelledValue enoughInside
        (stops_append areAfter (Or.inl rfl) (others ++ rest))
      rw [← readValue_blanks areGap] at read
      have later := (readMembers_of_spells spelledOthers enoughLater
        (earlier.insert (String.ofList characters) value) rest).2 (List.cons_ne_nil _ _)
      rw [← readMembers_blanks areAfter] at later
      have member := readMember_step spelledKey areBlanks read later
      have entered := readMembers_enter levels (remaining + 1) areBefore earlier
        (key ++ Text.doubleQuote ::
          (blanks ++ ':' :: (gap ++ (text ++ (after ++ ',' :: (others ++ rest))))))
      simp only [List.append_assoc, List.cons_append]
      rw [entered.1, entered.2, member]
      exact ⟨rfl, fun _ => rfl⟩

end

/-- An object is read as what its members make of it. -/
theorem read_of_spellsObject {members : List (String × Value)} {text : String}
    (spelled : SpellsObject members text) :
    read text = .ok (.object (Members.insertAll [] members)) := by
  rcases spelled with ⟨before, body, after, areBefore, spelledBody, areAfter, same⟩
  have object : Spells depthLimit (.object (Members.insertAll [] members)) ('\x7b' :: body) :=
    .object spelledBody
  have stops : Stops after := by
    intro c rest split
    exact Or.inl (areAfter c (split ▸ List.mem_cons_self))
  have enough : 3 * ('\x7b' :: body).length ≤ 3 * text.toList.length + 3 := by
    simp only [same, List.length_append, List.length_cons]
    omega
  have value := readValue_of_spells object enough stops
  rw [← readValue_blanks areBefore, List.cons_append, ← same] at value
  rw [read, value]
  dsimp only
  rw [skipBlanks_eq_nil areAfter]
  rfl

end Json
end CardTable
