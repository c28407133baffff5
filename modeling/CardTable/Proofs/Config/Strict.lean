import CardTable.Proofs.Config.Accepted
import CardTable.Proofs.Config.Decoded
import CardTable.Proofs.Config.Reordered

namespace CardTable
namespace Config

open Yaml (Value Field Content Entry Sheet)

/-!
# Strict configurations

A configuration on a sheet loads exactly when its keys are right and what it writes
is valid.  A key that is unknown, repeated or missing is told before any value is
judged, even before the version.  The order of the entries never matters, neither on
the first level nor inside a section.
-/

/-! ## Keys that are too long -/

/-- The names that are known on either level. -/
def knownNames : List String :=
  ["version", "server", "player", "url", "join_path", "outbound_queue", "name", "room"]

/-- Where the keys are right, all of them are known. -/
theorem mem_knownNames_of_right {sheet : Sheet} (fits : Fits sheet) (keys : HasRightKeys sheet)
    {line : Yaml.Line} (member : line ∈ sheet.lines) : line.key.name ∈ knownNames := by
  rcases List.mem_flatMap.mp member with ⟨entry, inside, inEntry⟩
  have familiar : entry.key.name ∈ ["version", "server", "player"] :=
    (top_iff.mp keys.top).2.1 _ (List.mem_map_of_mem inside)
  have top : entry.key.name ∈ knownNames :=
    List.mem_append_left ["url", "join_path", "outbound_queue", "name", "room"] familiar
  have fitting := fits entry inside
  unfold FitsEntry at fitting
  unfold Entry.lines at inEntry
  cases content : entry.content with
  | value single =>
      rw [content, List.mem_singleton] at inEntry
      rw [inEntry]
      exact top
  | nested depth further first others =>
      rw [content] at fitting inEntry
      rcases List.mem_cons.mp inEntry with rfl | inFields
      · exact top
      · rcases List.mem_map.mp inFields with ⟨field, among, rfl⟩
        have named : field.key.name ∈ entry.content.names := by
          rw [Content.names, content]
          exact List.mem_map_of_mem among
        simp only [List.mem_cons, List.not_mem_nil, or_false] at familiar
        rcases familiar with isVersion | isServer | isPlayer
        · exact absurd isVersion fitting.1
        · have setting := (keys.server entry inside isServer).subset named
          simp only [List.mem_cons, List.not_mem_nil, or_false] at setting
          simp only [knownNames, Field.line, List.mem_cons]
          tauto
        · have setting := (keys.player entry inside isPlayer).mem_iff.mp named
          simp only [List.mem_cons, List.not_mem_nil, or_false] at setting
          simp only [knownNames, Field.line, List.mem_cons]
          tauto

/-- All names that are known are short. -/
theorem short_of_right {sheet : Sheet} (fits : Fits sheet) (keys : HasRightKeys sheet) :
    ¬sheet.HasLongKey := by
  have short : forall name, name ∈ knownNames -> name.toList.length ≤ 1024 := by decide +kernel
  rintro ⟨line, member, long⟩
  exact absurd long (Nat.not_lt.mpr (short _ (mem_knownNames_of_right fits keys member)))

theorem complete_of_ofDocument {document : Yaml.Document} {config : Config}
    (success : ofDocument document = .ok config) : document.complete = true := by
  rw [ofDocument] at success
  simp only [bind_ok_iff] at success
  rcases success with ⟨_, _, _, _, _, _, last⟩
  split at last
  · next complete => exact complete
  · cases last

/-- Whatever its keys are, a sheet is a configuration only if they are right. -/
theorem ofDocument_text {sheet : Sheet} (fits : Fits sheet) {config : Config} :
    ofDocument (Yaml.Document.read sheet.text) = .ok config ↔
      HasRightKeys sheet ∧ Writes sheet config ∧ InRange config := by
  rcases sheet.read_text with same | ⟨long, incomplete⟩
  · rw [same]
    exact ofDocument_sheet fits
  · constructor
    · intro success
      exact absurd (complete_of_ofDocument success) (by rw [incomplete]; decide)
    · rintro ⟨keys, _⟩
      exact absurd long (short_of_right fits keys)

/-! ## Refusals -/

/-- The text is refused with a code. -/
def Refused (text : String) (code : ErrorCode) : Prop :=
  Exists fun cause => read text = .error cause ∧ cause.code = code

section

variable {sheet : Sheet} {config : Config}

/-- What is no configuration at all is refused as invalid, whatever its version. -/
theorem refused_of_ofDocument {text : String}
    (failure : forall config, ofDocument (Yaml.Document.read text) ≠ .ok config) :
    Refused text .invalidConfig := by
  cases result : ofDocument (Yaml.Document.read text) with
  | ok config => exact absurd result (failure config)
  | error fault =>
      refine ⟨fault.toError, ?_, rfl⟩
      rw [read, result]
      rfl

/-- What is a configuration is judged by its values. -/
theorem read_of_ofDocument {text : String}
    (success : ofDocument (Yaml.Document.read text) = .ok config) :
    read text = config.validate >>= fun _ => .ok config := by
  rw [read, success]
  rfl

theorem read_ok_iff_writes (fits : Fits sheet) :
    read sheet.text = .ok config ↔
      HasRightKeys sheet ∧ Writes sheet config ∧ config.validate = .ok () := by
  rw [read_ok_iff, ofDocument_text fits]
  constructor
  · rintro ⟨⟨keys, writes, _⟩, valid⟩
    exact ⟨keys, writes, valid⟩
  · rintro ⟨keys, writes, valid⟩
    rcases validate_ok_iff.mp valid with ⟨version, server, _⟩
    rcases ServerSettings.validate_ok_iff.mp server with ⟨_, _, _, _, _, queue⟩
    refine ⟨⟨keys, writes, ?_, ?_⟩, valid⟩
    · rw [version]
      decide
    · exact Nat.lt_of_le_of_lt queue (by decide)

theorem refused_of_wrong_keys (fits : Fits sheet) (wrong : ¬HasRightKeys sheet) :
    Refused sheet.text .invalidConfig :=
  refused_of_ofDocument fun _ success => wrong ((ofDocument_text fits).mp success).1

end

/-! ## The code of a refusal -/

section

variable {config : Config}

theorem validate_of_version (foreign : config.version ≠ 1) :
    config.validate = .error .unsupportedVersion := by
  rw [validate, if_pos foreign]
  rfl

/-- Only another version is refused as such. -/
theorem code_of_validate (version : config.version = 1) {cause : Error}
    (refused : config.validate = .error cause) : cause.code = .invalidConfig := by
  unfold validate at refused
  split at refused
  · next foreign => exact absurd version foreign
  · rcases bind_error_iff.mp refused with server | ⟨_, _, later⟩
    · exact ServerSettings.validate_error server
    · rcases bind_error_iff.mp later with names | ⟨_, _, never⟩
      · exact Identity.create_error names
      · cases never

theorem refused_iff_of_ofDocument {text : String}
    (success : ofDocument (Yaml.Document.read text) = .ok config) {code : ErrorCode} :
    Refused text code ↔ Exists fun cause => config.validate = .error cause ∧ cause.code = code := by
  rw [Refused, read_of_ofDocument success]
  simp [bind_error_iff]

theorem refused_unsupportedVersion_iff {text : String}
    (success : ofDocument (Yaml.Document.read text) = .ok config) :
    Refused text .unsupportedVersion ↔ config.version ≠ 1 := by
  rw [refused_iff_of_ofDocument success]
  constructor
  · rintro ⟨cause, refused, code⟩ version
    rw [code_of_validate version refused] at code
    cases code
  · intro foreign
    exact ⟨.unsupportedVersion, validate_of_version foreign, rfl⟩

theorem refused_invalidConfig_iff {text : String}
    (success : ofDocument (Yaml.Document.read text) = .ok config) :
    Refused text .invalidConfig ↔ config.version = 1 ∧ config.validate ≠ .ok () := by
  rw [refused_iff_of_ofDocument success]
  constructor
  · rintro ⟨cause, refused, code⟩
    refine ⟨?_, by simp [refused]⟩
    by_contra foreign
    rw [validate_of_version foreign] at refused
    cases refused
    cases code
  · rintro ⟨version, invalid⟩
    cases judged : config.validate with
    | ok nothing => exact absurd judged invalid
    | error cause => exact ⟨cause, rfl, code_of_validate version judged⟩

end

/-! ## Strictness -/

/-- What a text is read as: a configuration, or the code of its refusal. -/
def outcome (text : String) : Except ErrorCode Config :=
  (read text).mapError Error.code

theorem outcome_of_refused {text : String} {code : ErrorCode} (refused : Refused text code) :
    outcome text = .error code := by
  rcases refused with ⟨cause, isCause, rfl⟩
  rw [outcome, isCause]
  rfl

theorem outcome_of_reordered {sheet other : Sheet} (fits : Fits sheet)
    (reordered : Reordered sheet other) : outcome sheet.text = outcome other.text := by
  rcases reordered.covers with ⟨forth, back⟩
  have otherFits := back.fits fits
  have same (config : Config) : ofDocument (Yaml.Document.read sheet.text) = .ok config ↔
      ofDocument (Yaml.Document.read other.text) = .ok config := by
    rw [ofDocument_text fits, ofDocument_text otherFits]
    constructor
    · rintro ⟨keys, writes, inRange⟩
      exact ⟨back.hasRightKeys keys, forth.writes writes, inRange⟩
    · rintro ⟨keys, writes, inRange⟩
      exact ⟨forth.hasRightKeys keys, back.writes writes, inRange⟩
  by_cases success : Exists fun config => ofDocument (Yaml.Document.read sheet.text) = .ok config
  · rcases success with ⟨config, success⟩
    rw [outcome, outcome, read_of_ofDocument success, read_of_ofDocument ((same config).mp success)]
  · rw [not_exists] at success
    have otherwise := fun config => (same config).not.mp (success config)
    rw [outcome_of_refused (refused_of_ofDocument success),
      outcome_of_refused (refused_of_ofDocument otherwise)]

/-- A configuration on a sheet loads exactly when its keys are right and what it
writes is valid, and it is what the sheet writes.  Wrong keys are refused as invalid
whatever the values are, and so are numbers that do not fit; otherwise the version
is judged before everything else.  The order of the entries does not matter. -/
theorem read_strict (sheet : Sheet) (fits : Fits sheet) :
    (forall config, read sheet.text = .ok config ↔
      HasRightKeys sheet ∧ Writes sheet config ∧ config.validate = .ok ()) ∧
    (¬HasRightKeys sheet -> Refused sheet.text .invalidConfig) ∧
    (HasRightKeys sheet -> Exists fun config =>
      Writes sheet config ∧ (forall other, Writes sheet other -> other = config) ∧
      (¬InRange config -> Refused sheet.text .invalidConfig) ∧
      (InRange config ->
        (Refused sheet.text .unsupportedVersion ↔ config.version ≠ 1) ∧
        (Refused sheet.text .invalidConfig ↔ config.version = 1 ∧ config.validate ≠ .ok ()))) ∧
    (forall other, Reordered sheet other -> outcome sheet.text = outcome other.text) := by
  refine ⟨fun config => read_ok_iff_writes fits, refused_of_wrong_keys fits, fun keys => ?_,
    fun other reordered => outcome_of_reordered fits reordered⟩
  rcases exists_writes fits keys with ⟨config, writes⟩
  refine ⟨config, writes, fun other also => writes_unique keys also writes, fun outside => ?_,
    fun inRange => ?_⟩
  · refine refused_of_ofDocument fun other success => ?_
    rcases (ofDocument_text fits).mp success with ⟨_, also, inRange⟩
    rw [writes_unique keys also writes] at inRange
    exact outside inRange
  · have success := (ofDocument_text fits).mpr ⟨keys, writes, inRange⟩
    exact ⟨refused_unsupportedVersion_iff success, refused_invalidConfig_iff success⟩

/-! ## The configuration that comes with the client -/

/-- The sheet that comes with the client. -/
def shippedSheet : Sheet :=
  [⟨⟨"version", by decide, by decide⟩, .value (.number 1)⟩,
    ⟨⟨"server", by decide, by decide⟩, .nested 2 (by decide)
      ⟨⟨"url", by decide, by decide⟩, .text "ws://127.0.0.1:8081" (by decide)⟩
      [⟨⟨"join_path", by decide, by decide⟩, .text "/join" (by decide)⟩]⟩,
    ⟨⟨"player", by decide, by decide⟩, .nested 2 (by decide)
      ⟨⟨"name", by decide, by decide⟩, .text "alice" (by decide)⟩
      [⟨⟨"room", by decide, by decide⟩, .text "lobby" (by decide)⟩]⟩]

theorem fits_shippedSheet : Fits shippedSheet := by
  simp [Fits, shippedSheet, FitsEntry, FitsField]

theorem hasRightKeys_shippedSheet : HasRightKeys shippedSheet where
  top := Or.inr (by decide)
  server := by
    simp only [shippedSheet, List.forall_mem_cons]
    decide
  player := by
    simp only [shippedSheet, List.forall_mem_cons]
    decide

theorem writes_shippedSheet : Writes shippedSheet ⟨1, {}, ⟨"alice", "lobby"⟩⟩ where
  version := ⟨_, List.mem_cons_self, rfl, rfl⟩
  server := Or.inl ⟨_, List.mem_cons_of_mem _ List.mem_cons_self, rfl,
    Or.inl ⟨_, List.mem_cons_self, rfl, rfl⟩,
    Or.inl ⟨_, List.mem_cons_of_mem _ List.mem_cons_self, rfl, rfl⟩,
    Or.inr ⟨by decide, rfl⟩⟩
  player := ⟨_, List.mem_cons_of_mem _ (List.mem_cons_of_mem _ List.mem_cons_self), rfl,
    ⟨_, List.mem_cons_self, rfl, rfl⟩, ⟨_, List.mem_cons_of_mem _ List.mem_cons_self, rfl, rfl⟩⟩

theorem read_shippedSheet :
    shippedSheet.text =
        "version: 1\nserver:\n  url: \"ws://127.0.0.1:8081\"\n  join_path: \"/join\"\n" ++
          "player:\n  name: \"alice\"\n  room: \"lobby\"\n" ∧
      Fits shippedSheet ∧ read shippedSheet.text = .ok ⟨1, {}, ⟨"alice", "lobby"⟩⟩ := by
  refine ⟨by decide +kernel, fits_shippedSheet, ?_⟩
  exact ((read_strict shippedSheet fits_shippedSheet).1 _).mpr
    ⟨hasRightKeys_shippedSheet, writes_shippedSheet, by decide +kernel⟩

end Config
end CardTable
