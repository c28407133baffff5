import CardTable.Proofs.Frame.LastMember
import CardTable.Proofs.Json.Canonical

namespace CardTable
namespace Frame

/-!
# The data of a message

A message shows a string as it is and any other value by its canonical text.
How the value was spelled has no part in it: two spellings show the same, and
data that is spelled by the canonical text shows that text again.
-/

/-- The text of a message whose data is spelled by this text. -/
def messageText (data : String) : String :=
  "\x7b\"type\":\"message\",\"data\":" ++ data ++ "\x7d"

/-- What is shown for a value. -/
inductive Shown : Json.Value -> String -> Prop where
  | string {text : String} : Shown (.string text) text
  | other {value : Json.Value} {data : String} :
      (forall text, value ≠ .string text) -> Json.Canonical value data.toList -> Shown value data

/-! ## Frames that are messages -/

theorem toList_messageText (text : String) :
    (messageText text).toList =
      '\x7b' :: ((Json.writeString "type" ++ ':' :: Json.writeString "message") ++
        ',' :: ((Json.writeString "data" ++ ':' :: text.toList) ++ ['\x7d'])) := by
  have opening : "\x7b\"type\":\"message\",\"data\":".toList =
      '\x7b' :: ((Json.writeString "type" ++ ':' :: Json.writeString "message") ++
        ',' :: (Json.writeString "data" ++ [':'])) := by
    decide
  have closing : "\x7d".toList = ['\x7d'] := rfl
  unfold messageText
  rw [String.toList_append, String.toList_append, opening, closing]
  simp only [List.cons_append, List.append_assoc, List.nil_append]

theorem spellsObject_messageText {value : Json.Value} {text : String}
    (spelled : Json.Spells (Json.depthLimit - 1) value text.toList) :
    Json.SpellsObject [("type", .string "message"), ("data", value)] (messageText text) := by
  have type := Json.spellsMember_writeString "type"
    (Json.spells_writeString (Json.depthLimit - 1) "message")
  have data := Json.spellsMember_writeString "data" spelled
  have members := Json.SpellsMembers.more Json.blanks_nil type Json.blanks_nil
    (.last Json.blanks_nil data Json.blanks_nil)
  refine ⟨[], _, [], Json.blanks_nil, members, Json.blanks_nil, ?_⟩
  simp only [toList_messageText, List.nil_append, List.append_nil]

theorem read_message {members : List (String × Json.Value)} {text : String} {value : Json.Value}
    (spelled : Json.SpellsObject members text)
    (type : Json.lastValue? members "type" = some (.string "message"))
    (data : Json.lastValue? members "data" = some value) :
    read text = .ok (.message (fragment value)) := by
  rw [read_of_spellsObject spelled, ofMembers_ok_iff, get?_eq_lastValue?]
  exact ⟨type, by rw [Shows, data]; rfl⟩

theorem read_messageText {value : Json.Value} {text : String}
    (spelled : Json.Spells (Json.depthLimit - 1) value text.toList) :
    read (messageText text) = .ok (.message (fragment value)) :=
  read_message (spellsObject_messageText spelled) rfl rfl

/-! ## What they show -/

theorem fragment_of_not_string {value : Json.Value} (other : forall text, value ≠ .string text) :
    fragment value = String.ofList (Json.write value) := by
  cases value with
  | string text => exact absurd rfl (other text)
  | _ => rfl

/-- A value that can be spelled shows one thing. -/
theorem shown_iff {levels : Nat} {value : Json.Value} (writes : Json.WritesBack levels value)
    {data : String} : Shown value data ↔ data = fragment value := by
  constructor
  · intro shown
    cases shown with
    | string => rfl
    | other other canonical =>
        rw [fragment_of_not_string other, ← canonical.eq_write, String.ofList_toList]
  · rintro rfl
    by_cases string : Exists fun text => value = .string text
    · rcases string with ⟨text, rfl⟩
      exact .string
    · have other (text : String) : value ≠ .string text := fun same => string ⟨text, same⟩
      rw [fragment_of_not_string other]
      refine .other other ?_
      rw [String.toList_ofList]
      exact writes.canonical

/-- The data of a message is the string itself, or the canonical text.

All frames that spell the same value for the data of a message give the same
data, and it is what the value shows: nothing but that.  Unless the value is a
string, the data spells the value once more.  The last two parts say what the
spellings leave open: members make the object whose keys ascend and have the
values that came last, and every integer literal of at most 64 bits, which the
canonical text keeps digit for digit, spells its value. -/
theorem message_data :
    (forall value (text : String), Json.Spells (Json.depthLimit - 1) value text.toList ->
      Exists fun data =>
        (forall shown, Shown value shown ↔ shown = data) ∧
        (forall other : String, Json.Spells (Json.depthLimit - 1) value other.toList ->
          read (messageText other) = .ok (.message data)) ∧
        (forall members frame, Json.SpellsObject members frame ->
          Json.lastValue? members "type" = some (.string "message") ->
          Json.lastValue? members "data" = some value ->
          read frame = .ok (.message data)) ∧
        ((forall string, value ≠ .string string) ->
          Json.Spells (Json.depthLimit - 1) value data.toList ∧
            read (messageText data) = .ok (.message data))) ∧
    (forall members (kept : Json.Members), Json.Members.insertAll [] members = kept ↔
      kept.Ascending ∧ forall name, kept.get? name = Json.lastValue? members name) ∧
    (forall levels value literal, Text.Literal literal value -> Json.Fits value ->
      Json.Spells levels (.number (.whole value)) literal) := by
  refine ⟨?_, fun _ _ => Json.Members.insertAll_nil_eq_iff, ?_⟩
  · intro value text spelled
    have writes := Json.writesBack_of_spells spelled
    refine ⟨fragment value, fun _ => shown_iff writes, fun _ => read_messageText, ?_, ?_⟩
    · intro members frame
      exact read_message
    · intro notString
      have again : Json.Spells (Json.depthLimit - 1) value (fragment value).toList := by
        rw [fragment_of_not_string notString, String.toList_ofList]
        exact writes.spells
      exact ⟨again, read_messageText again⟩
  · intro levels value literal spelled fits
    rw [Text.literal_iff.mp spelled]
    exact .whole fits

end Frame
end CardTable
