import CardTable.Frame
import CardTable.Proofs.Json.Compact
import CardTable.Proofs.Json.Reading
import CardTable.Proofs.Steps

namespace CardTable
namespace Frame

/-!
# Frames by the last value of each member

What a frame carries is decided by what its members say last.  `Carries` lists
for each kind of frame what that has to be, as a rule on lookups alone; texts,
orders of members and overwritten members do not occur in it.  A frame that is
read is the one that the rule allows, and a frame is refused exactly if its type
is known and a member that the type requires is missing or of the wrong kind.
-/

/-- The types that are known. -/
def kinds : List String :=
  ["message", "update", "inspect", "choices"]

/-- The members that a type requires. -/
def required (kind : String) : List String :=
  if kind = "message" then ["data"]
  else if kind = "update" then ["hand", "play"]
  else if kind = "inspect" then ["url", "title", "value", "flags", "tags"]
  else if kind = "choices" then ["choices"]
  else []

/-- What a member says last, by its name. -/
abbrev Lookup := String -> Option Json.Value

/-- The text that is displayed for a member. -/
def Shows (value : Lookup) (name text : String) : Prop :=
  (value name).map fragment = some text

/-- The frame that is carried by members with these last values. -/
def Carries (value : Lookup) : Frame -> Prop
  | message data => value "type" = some (.string "message") ∧ Shows value "data" data
  | update hand play =>
      value "type" = some (.string "update") ∧ Shows value "hand" hand ∧ Shows value "play" play
  | inspect card =>
      value "type" = some (.string "inspect") ∧ Shows value "url" card.url ∧
        Shows value "title" card.title ∧ Shows value "value" card.value ∧
        Shows value "flags" card.flags ∧ Shows value "tags" card.tags
  | choices options =>
      value "type" = some (.string "choices") ∧
        value "choices" = some (.array (options.map .string))
  | unknown (some kind) => value "type" = some (.string kind) ∧ kind ∉ kinds
  | unknown none => forall kind, value "type" ≠ some (.string kind)

/-- The members that a type requires are there, and of the right kind. -/
def Complete (value : Lookup) (kind : String) : Prop :=
  (forall name, name ∈ required kind -> value name ≠ none) ∧
    (kind = "choices" ->
      Exists fun options : List String => value "choices" = some (.array (options.map .string)))

theorem not_mem_kinds {kind : String} :
    kind ∉ kinds ↔
      kind ≠ "message" ∧ kind ≠ "update" ∧ kind ≠ "inspect" ∧ kind ≠ "choices" := by
  simp [kinds]

/-! ## Single fields -/

theorem field_ok_iff {kind : String} {members : Json.Members} {name text : String} :
    field kind members name = .ok text ↔ Shows members.get? name text := by
  rw [field, Shows]
  cases members.get? name <;> simp

theorem options_ok_iff {kind : String} {items : List Json.Value} {texts : List String} :
    options kind items = .ok texts ↔ items = texts.map .string := by
  induction items generalizing texts with
  | nil => cases texts <;> simp [options]
  | cons item rest inductionHypothesis =>
      cases item with
      | string text =>
          rw [options]
          cases texts with
          | nil => cases options kind rest <;> simp [Except.map]
          | cons first others =>
              have tail : options kind rest = .ok others ↔ rest = others.map .string :=
                inductionHypothesis
              cases read : options kind rest <;> simp_all [Except.map]
      | _ => cases texts <;> simp [options]

/-! ## Objects -/

theorem carries_of_ofMembers {members : Json.Members} {frame : Frame}
    (read : ofMembers members = .ok frame) : Carries members.get? frame := by
  unfold ofMembers at read
  split at read
  · next type =>
    rcases bind_ok_iff.mp read with ⟨data, found, same⟩
    cases same
    exact ⟨type, field_ok_iff.mp found⟩
  · next type =>
    rcases bind_ok_iff.mp read with ⟨hand, foundHand, rest⟩
    rcases bind_ok_iff.mp rest with ⟨play, foundPlay, same⟩
    cases same
    exact ⟨type, field_ok_iff.mp foundHand, field_ok_iff.mp foundPlay⟩
  · next type =>
    rcases bind_ok_iff.mp read with ⟨url, foundUrl, afterUrl⟩
    rcases bind_ok_iff.mp afterUrl with ⟨title, foundTitle, afterTitle⟩
    rcases bind_ok_iff.mp afterTitle with ⟨value, foundValue, afterValue⟩
    rcases bind_ok_iff.mp afterValue with ⟨flags, foundFlags, afterFlags⟩
    rcases bind_ok_iff.mp afterFlags with ⟨tags, foundTags, same⟩
    cases same
    exact ⟨type, field_ok_iff.mp foundUrl, field_ok_iff.mp foundTitle,
      field_ok_iff.mp foundValue, field_ok_iff.mp foundFlags, field_ok_iff.mp foundTags⟩
  · next type =>
    split at read
    · next items found =>
      cases texts : options "choices" items with
      | error fault =>
          rw [texts] at read
          cases read
      | ok options =>
          rw [texts] at read
          cases read
          rw [options_ok_iff] at texts
          exact ⟨type, texts ▸ found⟩
    · cases read
    · cases read
  · next kind notMessage notUpdate notInspect notChoices type =>
    cases read
    exact ⟨type, not_mem_kinds.mpr ⟨notMessage, notUpdate, notInspect, notChoices⟩⟩
  · next noText =>
    cases read
    exact noText

theorem ofMembers_of_carries {members : Json.Members} {frame : Frame}
    (carries : Carries members.get? frame) : ofMembers members = .ok frame := by
  rcases frame with data | ⟨hand, play⟩ | card | options | kind
  case message =>
      rcases carries with ⟨type, shown⟩
      simp only [ofMembers, type]
      exact bind_ok_iff.mpr ⟨data, field_ok_iff.mpr shown, rfl⟩
  case update =>
      rcases carries with ⟨type, shownHand, shownPlay⟩
      simp only [ofMembers, type]
      refine bind_ok_iff.mpr ⟨hand, field_ok_iff.mpr shownHand, ?_⟩
      exact bind_ok_iff.mpr ⟨play, field_ok_iff.mpr shownPlay, rfl⟩
  case inspect =>
      rcases carries with ⟨type, shownUrl, shownTitle, shownValue, shownFlags, shownTags⟩
      simp only [ofMembers, type]
      refine bind_ok_iff.mpr ⟨card.url, field_ok_iff.mpr shownUrl, ?_⟩
      refine bind_ok_iff.mpr ⟨card.title, field_ok_iff.mpr shownTitle, ?_⟩
      refine bind_ok_iff.mpr ⟨card.value, field_ok_iff.mpr shownValue, ?_⟩
      refine bind_ok_iff.mpr ⟨card.flags, field_ok_iff.mpr shownFlags, ?_⟩
      exact bind_ok_iff.mpr ⟨card.tags, field_ok_iff.mpr shownTags, rfl⟩
  case choices =>
      rcases carries with ⟨type, texts⟩
      simp only [ofMembers, type, texts]
      rw [options_ok_iff.mpr rfl]
      rfl
  case unknown =>
      unfold ofMembers
      cases kind with
      | some kind =>
          rcases carries with ⟨type, other⟩
          rcases not_mem_kinds.mp other with ⟨notMessage, notUpdate, notInspect, notChoices⟩
          rw [type]
          split
          · next same => exact absurd (Json.Value.string.inj (Option.some.inj same)) notMessage
          · next same => exact absurd (Json.Value.string.inj (Option.some.inj same)) notUpdate
          · next same => exact absurd (Json.Value.string.inj (Option.some.inj same)) notInspect
          · next same => exact absurd (Json.Value.string.inj (Option.some.inj same)) notChoices
          · next same => cases same; rfl
          · next noText => exact absurd rfl (noText kind)
      | none =>
          split
          · next type => exact absurd type (carries _)
          · next type => exact absurd type (carries _)
          · next type => exact absurd type (carries _)
          · next type => exact absurd type (carries _)
          · next type => exact absurd type (carries _)
          · rfl

/-- The rule for frames is what the reader of objects follows. -/
theorem ofMembers_ok_iff {members : Json.Members} {frame : Frame} :
    ofMembers members = .ok frame ↔ Carries members.get? frame :=
  ⟨carries_of_ofMembers, ofMembers_of_carries⟩

/-! ## Refused frames -/

theorem shows_of_ne_none {value : Lookup} {name : String} (there : value name ≠ none) :
    Exists fun text => Shows value name text := by
  rcases Option.ne_none_iff_exists'.mp there with ⟨found, same⟩
  exact ⟨fragment found, by rw [Shows, same]; rfl⟩

theorem Shows.ne_none {value : Lookup} {name text : String} (shown : Shows value name text) :
    value name ≠ none := by
  intro missing
  rw [Shows, missing] at shown
  cases shown

theorem complete_of_carries {value : Lookup} {frame : Frame} {kind : String}
    (type : value "type" = some (.string kind)) (known : kind ∈ kinds)
    (carries : Carries value frame) : Complete value kind := by
  rcases frame with data | ⟨hand, play⟩ | card | options | other
  case message =>
      rcases carries with ⟨message, shown⟩
      cases type.symm.trans message
      refine ⟨?_, by simp⟩
      simpa [required] using shown.ne_none
  case update =>
      rcases carries with ⟨update, shownHand, shownPlay⟩
      cases type.symm.trans update
      refine ⟨?_, by simp⟩
      simpa [required] using And.intro shownHand.ne_none shownPlay.ne_none
  case inspect =>
      rcases carries with ⟨inspect, shownUrl, shownTitle, shownValue, shownFlags, shownTags⟩
      cases type.symm.trans inspect
      refine ⟨?_, by simp⟩
      simp [required, shownUrl.ne_none, shownTitle.ne_none, shownValue.ne_none,
        shownFlags.ne_none, shownTags.ne_none]
  case choices =>
      rcases carries with ⟨choices, texts⟩
      cases type.symm.trans choices
      exact ⟨by simp [required, texts], fun _ => ⟨options, texts⟩⟩
  case unknown =>
      cases other with
      | some other =>
          rcases carries with ⟨unknown, absent⟩
          cases type.symm.trans unknown
          exact absurd known absent
      | none => exact absurd type (carries kind)

theorem exists_carries {value : Lookup}
    (complete : forall kind, kind ∈ kinds -> value "type" = some (.string kind) ->
      Complete value kind) : Exists fun frame => Carries value frame := by
  by_cases text : Exists fun kind => value "type" = some (.string kind)
  · rcases text with ⟨kind, type⟩
    by_cases known : kind ∈ kinds
    · have shown (name : String) (needed : name ∈ required kind) :=
        shows_of_ne_none ((complete kind known type).1 name needed)
      simp only [kinds, List.mem_cons, List.not_mem_nil, or_false] at known
      rcases known with rfl | rfl | rfl | rfl
      · rcases shown "data" (by simp [required]) with ⟨data, shownData⟩
        exact ⟨message data, type, shownData⟩
      · rcases shown "hand" (by simp [required]) with ⟨hand, shownHand⟩
        rcases shown "play" (by simp [required]) with ⟨play, shownPlay⟩
        exact ⟨update hand play, type, shownHand, shownPlay⟩
      · rcases shown "url" (by simp [required]) with ⟨url, shownUrl⟩
        rcases shown "title" (by simp [required]) with ⟨title, shownTitle⟩
        rcases shown "value" (by simp [required]) with ⟨words, shownValue⟩
        rcases shown "flags" (by simp [required]) with ⟨flags, shownFlags⟩
        rcases shown "tags" (by simp [required]) with ⟨tags, shownTags⟩
        exact ⟨inspect ⟨url, title, words, flags, tags⟩, type, shownUrl, shownTitle,
          shownValue, shownFlags, shownTags⟩
      · rcases (complete "choices" (by simp [kinds]) type).2 rfl with ⟨options, texts⟩
        exact ⟨choices options, type, texts⟩
    · exact ⟨unknown (some kind), type, known⟩
  · exact ⟨unknown none, fun kind type => text ⟨kind, type⟩⟩

/-- Objects are refused exactly if their type is known and something that it
requires is missing. -/
theorem ofMembers_error_iff {members : Json.Members} :
    (Exists fun fault => ofMembers members = .error fault) ↔
      Exists fun kind => kind ∈ kinds ∧ members.get? "type" = some (.string kind) ∧
        ¬ Complete members.get? kind := by
  constructor
  · rintro ⟨fault, refused⟩
    by_contra complete
    have carried : Exists fun frame => Carries members.get? frame :=
      exists_carries fun kind known type =>
        by_contra fun lacking => complete ⟨kind, known, type, lacking⟩
    rcases carried with ⟨frame, carries⟩
    rw [ofMembers_of_carries carries] at refused
    cases refused
  · rintro ⟨kind, known, type, lacking⟩
    cases outcome : ofMembers members with
    | error fault => exact ⟨fault, rfl⟩
    | ok frame =>
        exact absurd (complete_of_carries type known (carries_of_ofMembers outcome)) lacking

/-! ## What the outcome depends on -/

theorem field_congr {members others : Json.Members} {kind name : String}
    (same : others.get? name = members.get? name) :
    field kind others name = field kind members name := by
  rw [field, field, same]

/-- Two objects have the same outcome, and the same fault if there is one, as soon
as they agree on the type and on what it requires. -/
theorem ofMembers_congr {members others : Json.Members}
    (type : others.get? "type" = members.get? "type")
    (same : forall kind, members.get? "type" = some (.string kind) ->
      forall name, name ∈ required kind -> others.get? name = members.get? name) :
    ofMembers others = ofMembers members := by
  unfold ofMembers
  rw [type]
  split
  · next message =>
    rw [field_congr (same _ message "data" (by simp [required]))]
  · next update =>
    rw [field_congr (same _ update "hand" (by simp [required])),
      field_congr (same _ update "play" (by simp [required]))]
  · next inspect =>
    rw [field_congr (same _ inspect "url" (by simp [required])),
      field_congr (same _ inspect "title" (by simp [required])),
      field_congr (same _ inspect "value" (by simp [required])),
      field_congr (same _ inspect "flags" (by simp [required])),
      field_congr (same _ inspect "tags" (by simp [required]))]
  · next choices =>
    rw [same _ choices "choices" (by simp [required])]
  · rfl
  · rfl

/-! ## From the text -/

theorem read_of_spellsObject {members : List (String × Json.Value)} {text : String}
    (spelled : Json.SpellsObject members text) :
    read text = ofMembers (Json.Members.insertAll [] members) := by
  rw [read, Json.read_of_spellsObject spelled]

theorem get?_eq_lastValue? (members : List (String × Json.Value)) :
    (Json.Members.insertAll [] members).get? = Json.lastValue? members :=
  funext (Json.Members.get?_insertAll_nil members)

theorem read_congr {members others : List (String × Json.Value)} {text otherText : String}
    (spelled : Json.SpellsObject members text)
    (spelledToo : Json.SpellsObject others otherText)
    (type : Json.lastValue? others "type" = Json.lastValue? members "type")
    (same : forall kind, Json.lastValue? members "type" = some (.string kind) ->
      forall name, name ∈ required kind ->
        Json.lastValue? others name = Json.lastValue? members name) :
    read otherText = read text := by
  rw [read_of_spellsObject spelled, read_of_spellsObject spelledToo]
  apply ofMembers_congr
  · rw [get?_eq_lastValue?, get?_eq_lastValue?]
    exact type
  · rw [get?_eq_lastValue?, get?_eq_lastValue?]
    exact same

/-- A frame is what its members say last.

Whatever text an object has, `Carries` says of the last value of each member
which frame is read, and a frame is refused as malformed exactly if its type is
known and something that it requires is missing.  Two texts have the same
outcome as soon as they agree on the type and on what that type requires: so
they do if members that come once each are put in another order, and if members
with other names are added. -/
theorem read_by_last_values {members : List (String × Json.Value)} {text : String}
    (spelled : Json.SpellsObject members text) :
    (forall frame, read text = .ok frame ↔ Carries (Json.lastValue? members) frame) ∧
    ((Exists fun fault => read text = .error fault) ↔
      Exists fun kind => kind ∈ kinds ∧
        Json.lastValue? members "type" = some (.string kind) ∧
        ¬ Complete (Json.lastValue? members) kind) ∧
    (forall fault, read text = .error fault ->
      fault.toError.code.label = "MALFORMED_INBOUND") ∧
    (forall others otherText, Json.SpellsObject others otherText ->
      Json.lastValue? others "type" = Json.lastValue? members "type" ->
      (forall kind, Json.lastValue? members "type" = some (.string kind) ->
        forall name, name ∈ required kind ->
          Json.lastValue? others name = Json.lastValue? members name) ->
      read otherText = read text) ∧
    (forall others otherText, Json.SpellsObject others otherText -> members.Perm others ->
      (members.map Prod.fst).Nodup -> read otherText = read text) ∧
    (forall others otherText (kept : String -> Bool), Json.SpellsObject others otherText ->
      (others.filter fun member => kept member.1) = members -> kept "type" = true ->
      (forall kind, Json.lastValue? members "type" = some (.string kind) ->
        forall name, name ∈ required kind -> kept name = true) ->
      read otherText = read text) := by
  refine ⟨?_, ?_, fun _ _ => rfl, ?_, ?_, ?_⟩
  · intro frame
    rw [read_of_spellsObject spelled, ofMembers_ok_iff, get?_eq_lastValue?]
  · rw [read_of_spellsObject spelled, ofMembers_error_iff, get?_eq_lastValue?]
  · intro others otherText spelledToo type same
    exact read_congr spelled spelledToo type same
  · intro others otherText spelledToo permuted once
    have same := Json.lastValue?_of_perm permuted once
    exact read_congr spelled spelledToo (same "type") fun _ _ name _ => same name
  · intro others otherText kept spelledToo rfl keepsType keeps
    refine read_congr spelled spelledToo ?_ ?_
    · exact (Json.lastValue?_filter others kept keepsType).symm
    · intro kind type name needed
      exact (Json.lastValue?_filter others kept (keeps kind type name needed)).symm

/-- A message whose members are spelled with blanks and escapes.  Its type comes
twice, and what it carries is no string. -/
theorem spellsObject_overwritten_type :
    Json.SpellsObject
      [("type", .string "update"), ("data", .array [.null, .number (.whole (-7))]),
        ("type", .string "message")]
      "\t\x7b \"type\" : \"update\" ,\n\"data\": [null, -7],\"typ\\u0065\" :\"message\"\x7d\n" := by
  have blank (c : Char) (isBlank : Json.isBlank c = true) : Json.Blanks [c] :=
    List.forall_mem_singleton.mpr isBlank
  have data : Json.Spells (Json.depthLimit - 1) (.array [.null, .number (.whole (-7))])
      "[null, -7]".toList :=
    .array (.more Json.blanks_nil .null Json.blanks_nil
      (.last (blank ' ' rfl) (.whole ⟨by decide, by decide⟩) Json.blanks_nil))
  have letter : Json.SpellsUnit 0x65 '0' '0' '6' '5' := rfl
  have escaped : Json.SpellsString ['t', 'y', 'p', 'e'] "typ\\u0065".toList :=
    .plain (by decide) (by decide) (by decide) (.plain (by decide) (by decide) (by decide)
      (.plain (by decide) (by decide) (by decide)
        (.unit letter (by decide) (by decide) .nil)))
  have first : Json.SpellsMember (Json.depthLimit - 1) ("type", .string "update")
      "\"type\" : \"update\"".toList :=
    .pair (Json.spellsString_write "type".toList) (blank ' ' rfl) (blank ' ' rfl)
      (Json.spells_writeString _ "update")
  have second : Json.SpellsMember (Json.depthLimit - 1)
      ("data", .array [.null, .number (.whole (-7))]) "\"data\": [null, -7]".toList :=
    .pair (Json.spellsString_write "data".toList) Json.blanks_nil (blank ' ' rfl) data
  have third : Json.SpellsMember (Json.depthLimit - 1) ("type", .string "message")
      "\"typ\\u0065\" :\"message\"".toList :=
    .pair escaped (blank ' ' rfl) Json.blanks_nil (Json.spells_writeString _ "message")
  exact ⟨['\t'], _, ['\n'], blank '\t' rfl,
    .more (blank ' ' rfl) first (blank ' ' rfl)
      (.more (blank '\n' rfl) second Json.blanks_nil
        (.last Json.blanks_nil third Json.blanks_nil)), blank '\n' rfl, rfl⟩

/-- The overwritten type has no part in what is read, and neither has the order. -/
theorem read_overwritten_type :
    read "\t\x7b \"type\" : \"update\" ,\n\"data\": [null, -7],\"typ\\u0065\" :\"message\"\x7d\n" =
        .ok (.message "[null,-7]") ∧
      read "\x7b\"type\":\"message\",\"data\":null\x7d" =
        read "\x7b\"data\":null,\"type\":\"message\"\x7d" := by
  have values (key : String) (value : Json.Value)
      (member : (key, value) ∈ [("data", .null), ("type", .string "message")]) :
      Json.Spells (Json.depthLimit - 1) value (Json.write value) := by
    rcases List.mem_cons.mp member with same | later
    · cases same
      exact .null
    · cases List.mem_singleton.mp later
      exact Json.spells_writeString _ "message"
  have swapped : [("data", Json.Value.null), ("type", .string "message")].Perm
      [("type", .string "message"), ("data", .null)] :=
    .swap _ _ _
  have ordered := Json.spellsObject_write values
  have reversed := Json.spellsObject_write fun key value member =>
    values key value (swapped.mem_iff.mpr member)
  constructor
  · exact ((read_by_last_values spellsObject_overwritten_type).1 (.message "[null,-7]")).mpr
      ⟨rfl, rfl⟩
  · exact (read_by_last_values ordered).2.2.2.2.1 _ _ reversed swapped (by decide)

end Frame
end CardTable
