import CardTable.Proofs.Json.Compact
import CardTable.Proofs.Json.KeyOrder
import CardTable.Proofs.Text.Denotation

namespace CardTable
namespace Json

/-!
# The canonical text of a value

One of the texts of a value is canonical.  There are no blanks between its
tokens, integers are their literals, the members of each object stand in the
order of the bytes of their keys, and a character of a string is escaped only
where it has to be.  A value has no other canonical text than the one that is
written, and whatever can be spelled at all has it.
-/

/-- The canonical text of a string, between its quotes.  A character is written as
itself, by a short escape, or by its number if it is a control character without
one. -/
inductive CanonicalString : List Char -> List Char -> Prop where
  | nil : CanonicalString [] []
  | plain {c : Char} {characters text : List Char} :
      0x20 ≤ c.toNat -> c ≠ Text.doubleQuote -> c ≠ '\\' -> CanonicalString characters text ->
      CanonicalString (c :: characters) (c :: text)
  | short {letter c : Char} {characters text : List Char} :
      (letter, c) ∈ shortEscapes -> letter ≠ '/' -> CanonicalString characters text ->
      CanonicalString (c :: characters) ('\\' :: letter :: text)
  | control {c : Char} {characters text : List Char} :
      c.toNat < 0x20 -> (forall letter, (letter, c) ∉ shortEscapes) ->
      CanonicalString characters text ->
      CanonicalString (c :: characters)
        ('\\' :: 'u' :: '0' :: '0' :: hexDigit (c.toNat / 16) :: hexDigit c.toNat :: text)

mutual

/-- The canonical text of a value whose numbers are whole. -/
inductive Canonical : Value -> List Char -> Prop where
  | null : Canonical .null "null".toList
  | truth : Canonical (.bool true) "true".toList
  | falsity : Canonical (.bool false) "false".toList
  | whole {value : Int} {text : List Char} :
      Text.Literal text value -> Canonical (.number (.whole value)) text
  | string {text : String} {spelled : List Char} :
      CanonicalString text.toList spelled ->
      Canonical (.string text) (Text.doubleQuote :: (spelled ++ [Text.doubleQuote]))
  | array {items : List Value} {text : List Char} :
      CanonicalItems items text -> Canonical (.array items) ('[' :: text)
  | object {members : Members} {text : List Char} :
      members.Ascending -> CanonicalMembers members text ->
      Canonical (.object members) ('\x7b' :: text)

/-- The canonical text of items, with the bracket that closes them. -/
inductive CanonicalItems : List Value -> List Char -> Prop where
  | none : CanonicalItems [] [']']
  | last {item : Value} {text : List Char} :
      Canonical item text -> CanonicalItems [item] (text ++ [']'])
  | more {item next : Value} {items : List Value} {text rest : List Char} :
      Canonical item text -> CanonicalItems (next :: items) rest ->
      CanonicalItems (item :: next :: items) (text ++ ',' :: rest)

/-- The canonical text of members, with the brace that closes them. -/
inductive CanonicalMembers : List (String × Value) -> List Char -> Prop where
  | none : CanonicalMembers [] ['\x7d']
  | last {member : String × Value} {text : List Char} :
      CanonicalMember member text -> CanonicalMembers [member] (text ++ ['\x7d'])
  | more {member next : String × Value} {members : List (String × Value)} {text rest : List Char} :
      CanonicalMember member text -> CanonicalMembers (next :: members) rest ->
      CanonicalMembers (member :: next :: members) (text ++ ',' :: rest)

/-- The canonical text of one member. -/
inductive CanonicalMember : String × Value -> List Char -> Prop where
  | pair {key : String} {spelled : List Char} {value : Value} {text : List Char} :
      CanonicalString key.toList spelled -> Canonical value text ->
      CanonicalMember (key, value)
        (Text.doubleQuote :: (spelled ++ Text.doubleQuote :: ':' :: text))

end

/-! ## There is only one -/

theorem writeChar_of_plain {c : Char} (printed : 0x20 ≤ c.toNat)
    (notQuote : c ≠ Text.doubleQuote) (notBackslash : c ≠ '\\') : writeChar c = [c] := by
  have noLetter : escapeLetter? c = none := by
    have apart (d : Char) (control : d.toNat < 0x20) : c ≠ d := by
      rintro rfl
      omega
    simp [escapeLetter?, notQuote, notBackslash, apart '\x08' (by decide),
      apart '\x0c' (by decide), apart '\n' (by decide), apart '\r' (by decide),
      apart '\t' (by decide)]
  rw [writeChar, noLetter]
  exact if_neg (Nat.not_lt.mpr printed)

theorem writeChar_of_short {letter c : Char} (escape : (letter, c) ∈ shortEscapes)
    (notSlash : letter ≠ '/') : writeChar c = ['\\', letter] := by
  have all : forall row, row ∈ shortEscapes -> row.1 ≠ '/' -> writeChar row.2 = ['\\', row.1] := by
    decide
  exact all (letter, c) escape notSlash

theorem writeChar_of_control {c : Char} (control : c.toNat < 0x20)
    (noShort : forall letter, (letter, c) ∉ shortEscapes) :
    writeChar c = ['\\', 'u', '0', '0', hexDigit (c.toNat / 16), hexDigit c.toNat] := by
  rw [writeChar]
  split
  · next letter escaped => exact absurd (mem_shortEscapes escaped) (noShort letter)
  · exact if_pos control

theorem CanonicalString.eq_write {characters text : List Char}
    (canonical : CanonicalString characters text) : text = characters.flatMap writeChar := by
  induction canonical with
  | nil => rfl
  | plain printed notQuote notBackslash _ inductionHypothesis =>
      rw [List.flatMap_cons, writeChar_of_plain printed notQuote notBackslash,
        ← inductionHypothesis]
      rfl
  | short escape notSlash _ inductionHypothesis =>
      rw [List.flatMap_cons, writeChar_of_short escape notSlash, ← inductionHypothesis]
      rfl
  | control control noShort _ inductionHypothesis =>
      rw [List.flatMap_cons, writeChar_of_control control noShort, ← inductionHypothesis]
      rfl

theorem canonicalString_writeChar {c : Char} {characters text : List Char}
    (canonical : CanonicalString characters text) :
    CanonicalString (c :: characters) (writeChar c ++ text) := by
  by_cases short : Exists fun letter => (letter, c) ∈ shortEscapes ∧ letter ≠ '/'
  · rcases short with ⟨letter, escape, notSlash⟩
    rw [writeChar_of_short escape notSlash]
    exact .short escape notSlash canonical
  · by_cases control : c.toNat < 0x20
    · have noShort (letter : Char) : (letter, c) ∉ shortEscapes := by
        intro escape
        have slash : forall row, row ∈ shortEscapes -> row.1 = '/' -> 0x20 ≤ row.2.toNat := by
          decide
        refine short ⟨letter, escape, fun same => ?_⟩
        exact absurd control (Nat.not_lt.mpr (slash (letter, c) escape same))
      rw [writeChar_of_control control noShort]
      exact .control control noShort canonical
    · have notQuote : c ≠ Text.doubleQuote := by
        rintro rfl
        exact short ⟨Text.doubleQuote, by decide, by decide⟩
      have notBackslash : c ≠ '\\' := by
        rintro rfl
        exact short ⟨'\\', by decide, by decide⟩
      have printed := Nat.le_of_not_lt control
      rw [writeChar_of_plain printed notQuote notBackslash]
      exact .plain printed notQuote notBackslash canonical

theorem canonicalString_write (characters : List Char) :
    CanonicalString characters (characters.flatMap writeChar) := by
  induction characters with
  | nil => exact .nil
  | cons c rest inductionHypothesis => exact canonicalString_writeChar inductionHypothesis

mutual

theorem Canonical.eq_write {value : Value} {text : List Char} (canonical : Canonical value text) :
    text = write value := by
  match canonical with
  | .null => rw [write]
  | .truth => rw [write]
  | .falsity => rw [write]
  | .whole literal => rw [write, writeNumber, Text.literal_iff.mp literal]
  | .string spelled => rw [write, writeString, spelled.eq_write, List.cons_append]
  | .array items => rw [write, items.eq_write]
  | .object _ members => rw [write, members.eq_write]

theorem CanonicalItems.eq_write {items : List Value} {text : List Char}
    (canonical : CanonicalItems items text) : text = writeItems items := by
  match canonical with
  | .none => rw [writeItems]
  | .last item => rw [writeItems, item.eq_write]
  | .more item others =>
      rw [writeItems, item.eq_write, others.eq_write]
      exact List.cons_ne_nil _ _

theorem CanonicalMembers.eq_write {members : List (String × Value)} {text : List Char}
    (canonical : CanonicalMembers members text) : text = writeMembers members := by
  match canonical with
  | .none => rw [writeMembers]
  | @CanonicalMembers.last (key, value) _ member => rw [writeMembers, member.eq_write]
  | @CanonicalMembers.more (key, value) _ _ _ _ member others =>
      rw [writeMembers, member.eq_write, others.eq_write]
      exact List.cons_ne_nil _ _

theorem CanonicalMember.eq_write {member : String × Value} {text : List Char}
    (canonical : CanonicalMember member text) :
    text = writeString member.1 ++ ':' :: write member.2 := by
  match canonical with
  | .pair key value =>
      rw [key.eq_write, value.eq_write, writeString, List.append_assoc, List.singleton_append,
        List.cons_append]

end

/-! ## Whatever is spelled has it -/

theorem canonicalItems_write {items : List Value}
    (canonical : forall item, item ∈ items -> Canonical item (write item)) :
    CanonicalItems items (writeItems items) := by
  induction items with
  | nil => exact .none
  | cons item rest inductionHypothesis =>
      rw [List.forall_mem_cons] at canonical
      have others := inductionHypothesis canonical.2
      cases rest with
      | nil => exact .last canonical.1
      | cons next more => exact .more canonical.1 others

theorem canonicalMember_write (key : String) {value : Value}
    (canonical : Canonical value (write value)) :
    CanonicalMember (key, value) (writeString key ++ ':' :: write value) := by
  have member := CanonicalMember.pair (canonicalString_write key.toList) canonical
  rwa [writeString, List.append_assoc, List.singleton_append, List.cons_append]

theorem canonicalMembers_write {members : List (String × Value)}
    (canonical : forall member, member ∈ members -> Canonical member.2 (write member.2)) :
    CanonicalMembers members (writeMembers members) := by
  induction members with
  | nil => exact .none
  | cons member rest inductionHypothesis =>
      rcases member with ⟨key, value⟩
      rw [List.forall_mem_cons] at canonical
      have others := inductionHypothesis canonical.2
      have first := canonicalMember_write key canonical.1
      cases rest with
      | nil => exact .last first
      | cons next more => exact .more first others

theorem spellsItems_write {levels : Nat} {items : List Value}
    (spelled : forall item, item ∈ items -> Spells levels item (write item)) :
    SpellsItems levels items (writeItems items) := by
  induction items with
  | nil => exact .none blanks_nil
  | cons item rest inductionHypothesis =>
      rw [List.forall_mem_cons] at spelled
      have others := inductionHypothesis spelled.2
      cases rest with
      | nil => exact .last blanks_nil spelled.1 blanks_nil
      | cons next more => exact .more blanks_nil spelled.1 blanks_nil others

/-- The text that is written for a value is canonical, and it spells the value. -/
structure WritesBack (levels : Nat) (value : Value) : Prop where
  canonical : Canonical value (write value)
  spells : Spells levels value (write value)

theorem writesBack_array {levels : Nat} {items : List Value}
    (all : forall item, item ∈ items -> WritesBack levels item) :
    WritesBack (levels + 1) (.array items) where
  canonical := by
    rw [write]
    exact .array (canonicalItems_write fun item member => (all item member).canonical)
  spells := by
    rw [write]
    exact .array (spellsItems_write fun item member => (all item member).spells)

theorem writesBack_object {levels : Nat} {members : List (String × Value)}
    (all : forall member, member ∈ members -> WritesBack levels member.2) :
    WritesBack (levels + 1) (.object (Members.insertAll [] members)) := by
  have ascending : (Members.insertAll [] members).Ascending :=
    Members.ascending_insertAll .nil members
  have kept (member : String × Value) (among : member ∈ Members.insertAll [] members) :=
    all member (Members.mem_of_mem_insertAll_nil among)
  constructor
  · rw [write]
    exact .object ascending (canonicalMembers_write fun member among => (kept member among).canonical)
  · have spelled := Spells.object (spellsMembers_write fun key value among =>
      (kept (key, value) among).spells)
    rwa [ascending.insertAll_nil, ← write] at spelled

mutual

theorem writesBack_of_spells {levels : Nat} {value : Value} {text : List Char}
    (spelled : Spells levels value text) : WritesBack levels value := by
  match spelled with
  | .null => exact ⟨.null, .null⟩
  | .truth => exact ⟨.truth, .truth⟩
  | .falsity => exact ⟨.falsity, .falsity⟩
  | .whole fits => exact ⟨.whole (Text.literal_iff.mpr rfl), .whole fits⟩
  | .string _ => exact ⟨.string (canonicalString_write _), spells_writeString _ _⟩
  | .array items => exact writesBack_array (writesBack_of_spellsItems items)
  | .object members => exact writesBack_object (writesBack_of_spellsMembers members)

theorem writesBack_of_spellsItems {levels : Nat} {items : List Value} {text : List Char}
    (spelled : SpellsItems levels items text) :
    forall item, item ∈ items -> WritesBack levels item := by
  match spelled with
  | .none _ => exact List.forall_mem_nil _
  | .last _ item _ => exact List.forall_mem_singleton.mpr (writesBack_of_spells item)
  | .more _ item _ others =>
      exact List.forall_mem_cons.mpr ⟨writesBack_of_spells item, writesBack_of_spellsItems others⟩

theorem writesBack_of_spellsMembers {levels : Nat} {members : List (String × Value)}
    {text : List Char} (spelled : SpellsMembers levels members text) :
    forall member, member ∈ members -> WritesBack levels member.2 := by
  match spelled with
  | .none _ => exact List.forall_mem_nil _
  | .last _ member _ => exact List.forall_mem_singleton.mpr (writesBack_of_spellsMember member)
  | .more _ member _ others =>
      exact List.forall_mem_cons.mpr
        ⟨writesBack_of_spellsMember member, writesBack_of_spellsMembers others⟩

theorem writesBack_of_spellsMember {levels : Nat} {member : String × Value} {text : List Char}
    (spelled : SpellsMember levels member text) : WritesBack levels member.2 := by
  match spelled with
  | .pair _ _ _ value => exact writesBack_of_spells value

end

end Json
end CardTable
