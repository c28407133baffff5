import CardTable.Proofs.Config.Sections
import CardTable.Proofs.Config.Written

namespace CardTable
namespace Config

open Yaml (Value Field Content Entry Sheet)
open List (Perm Subperm)

/-!
# Reading the document of a sheet

The document of a sheet is read field by field.  Each field is read as the value
that stands on the sheet, and a number only if it fits.  So what is read is what the
sheet writes, and reading fails exactly if a key is wrong or a number does not fit.
-/

/-! ## Values -/

theorem naturalBelow?_decimal (limit number : Nat) :
    Yaml.Meaning.naturalBelow? limit (Text.decimal number) =
      if number < limit then some number else none := by
  have based : Yaml.Meaning.based? (Text.decimal number) = none := by
    unfold Yaml.Meaning.based?
    split
    · next leading => cases Text.eq_nil_of_decimal_eq_zero_cons leading
    · next leading => cases Text.eq_nil_of_decimal_eq_zero_cons leading
    · next leading => cases Text.eq_nil_of_decimal_eq_zero_cons leading
    · rfl
  have padded : Yaml.Meaning.isPadded (Text.decimal number) = false := by
    cases digits : Text.decimal number with
    | nil => exact absurd digits (Text.decimal_ne_nil number)
    | cons first rest =>
        have digit : first.isDigit = true :=
          Text.isDigit_of_mem_decimal (digits ▸ List.mem_cons_self)
        have unsigned : first ≠ '-' ∧ first ≠ '+' := by
          constructor
          all_goals
            rintro rfl
            cases digit
        rw [Yaml.Meaning.isPadded]
        simp only [List.head?_cons, Option.some.injEq, unsigned.1, unsigned.2]
        by_cases zero : first = '0'
        · rw [zero] at digits
          rw [Text.eq_nil_of_decimal_eq_zero_cons digits]
          rfl
        · simp [zero]
  rw [Yaml.Meaning.naturalBelow?, Yaml.Meaning.natural?, Text.dropPlus_decimal]
  simp only [based, padded, Bool.false_eq_true, if_false, Text.natural?_decimal]
  simp only [Option.filter_some, decide_eq_true_eq]

section

variable {document : Yaml.Document} {expected : String} {field : Field}

theorem readText_ok_iff (fits : FitsField field)
    (named : field.key.name ∈ ["url", "join_path", "name", "room"]) (written : String) :
    readText document expected (.scalar field.value.scalar) = .ok written ↔
      field.value.text? = some written := by
  unfold FitsField at fits
  split at fits
  · next content _ value =>
    have read : readText document expected (.scalar field.value.scalar) = .ok content := by
      rw [value]
      exact congrArg Except.ok String.ofList_toList
    rw [read, value, Except.ok.injEq]
    exact Option.some_inj.symm
  · exact absurd named fits

theorem readNatural_number (amount written : Nat) :
    readNatural document expected (.scalar (Value.number amount).scalar) = .ok written ↔
      amount = written ∧ written < 2 ^ 64 := by
  have plain : (Value.number amount).scalar.mayBeWhole = true := rfl
  have text : (Value.number amount).scalar.text = Text.decimal amount := rfl
  have limit : Nat.pow 2 64 = 2 ^ 64 := rfl
  rw [readNatural]
  simp only [Yaml.Document.resolve, plain, text, naturalBelow?_decimal, limit]
  by_cases below : amount < 2 ^ 64
  · rw [if_pos below]
    constructor
    · rintro same
      cases same
      exact ⟨rfl, below⟩
    · rintro ⟨rfl, _⟩
      rfl
  · rw [if_neg below]
    constructor
    · intro never
      cases never
    · rintro ⟨rfl, inside⟩
      exact absurd inside below

theorem readNatural_ok_iff (fits : FitsField field) (named : field.key.name = "outbound_queue")
    (written : Nat) :
    readNatural document expected (.scalar field.value.scalar) = .ok written ↔
      field.value.number? = some written ∧ written < 2 ^ 64 := by
  unfold FitsField at fits
  split at fits
  · exact absurd named fits
  · next amount value =>
    rw [value, readNatural_number, Value.number?, Option.some_inj]

theorem readNatural32_ok_iff {entry : Entry} (fits : FitsEntry entry)
    (named : entry.key.name = "version") (written : Nat) :
    readNatural32 document entry.content.node = .ok written ↔
      entry.content.number? = some written ∧ written < 2 ^ 32 := by
  unfold FitsEntry at fits
  split at fits
  · simp [named] at fits
  · next amount content =>
    have node : entry.content.node = .scalar (Value.number amount).scalar := by rw [content]; rfl
    have limit : Nat.pow 2 32 = 2 ^ 32 := rfl
    rw [node, readNatural32, content, Content.number?, Value.number?, Option.some_inj, bind_ok_iff]
    simp only [readNatural_number, limit]
    constructor
    · rintro ⟨found, ⟨rfl, _⟩, kept⟩
      split at kept
      · next below =>
        cases kept
        exact ⟨rfl, below⟩
      · cases kept
    · rintro ⟨rfl, below⟩
      refine ⟨amount, ⟨rfl, Nat.lt_trans below (by decide)⟩, ?_⟩
      rw [if_pos below]
      rfl
  · exact absurd named fits.1

end

/-! ## Sections -/

theorem map_fst_named (fields : List Field) :
    (fields.map Field.named).map Prod.fst = fields.map (·.key.name) := by
  rw [List.map_map]
  rfl

/-- What is read from the node of a field is the value of the field, within bounds. -/
theorem holds_iff {kind : Type} {content : Content} {name : String}
    {read : Yaml.Node -> Except Fault kind} (take : Value -> Option kind) {bounded : Prop}
    {written : kind}
    (same : forall field, field ∈ content.fields -> field.key.name = name ->
      (read (.scalar field.value.scalar) = .ok written ↔
        take field.value = some written ∧ bounded)) :
    (Exists fun node => (name, node) ∈ content.fields.map Field.named ∧
        read node = .ok written) ↔
      content.Holds name take written ∧ bounded := by
  constructor
  · rintro ⟨node, member, success⟩
    rcases List.mem_map.mp member with ⟨field, inside, named⟩
    cases named
    have found := (same field inside rfl).mp success
    exact ⟨⟨field, inside, rfl, found.1⟩, found.2⟩
  · rintro ⟨⟨field, inside, rfl, found⟩, bounds⟩
    exact ⟨_, List.mem_map_of_mem inside, (same field inside rfl).mpr ⟨found, bounds⟩⟩

section

variable {document : Yaml.Document} {entry : Entry}

/-- The entries of the server and of the player are sections. -/
theorem node_of_fits (fits : FitsEntry entry) (named : entry.key.name ∈ ["server", "player"]) :
    entry.content.node = .mapping (.ofNamed (entry.content.fields.map Field.named)) := by
  unfold FitsEntry at fits
  split at fits
  · exact absurd (List.mem_cons_of_mem _ named) fits
  · exact absurd named fits
  · next content =>
    rw [content]
    rfl

variable {content : Content}
  (fitting : forall field, field ∈ content.fields -> FitsField field) {expected : String}

include fitting

theorem holds_text_iff {name : String} (named : name ∈ ["url", "join_path", "name", "room"])
    {written : String} :
    (Exists fun node => (name, node) ∈ content.fields.map Field.named ∧
        readText document expected node = .ok written) ↔
      content.Holds name Value.text? written := by
  have same : forall field, field ∈ content.fields -> field.key.name = name ->
      (readText document expected (.scalar field.value.scalar) = .ok written ↔
        field.value.text? = some written ∧ True) := by
    rintro field member rfl
    rw [readText_ok_iff (fitting field member) named, and_true]
  rw [holds_iff Value.text? same, and_true]

theorem reads_text_iff {name : String} (named : name ∈ ["url", "join_path", "name", "room"])
    {default written : String} :
    Named.Reads (content.fields.map Field.named) name (readText document expected) default
        written ↔
      Gives content name Value.text? default written := by
  rw [Named.Reads, holds_text_iff fitting named, map_fst_named, Gives, Content.names]

theorem reads_number_iff {default written : Nat} (bounded : default < 2 ^ 64) :
    Named.Reads (content.fields.map Field.named) "outbound_queue"
        (readNatural document expected) default written ↔
      Gives content "outbound_queue" Value.number? default written ∧ written < 2 ^ 64 := by
  have same : forall field, field ∈ content.fields -> field.key.name = "outbound_queue" ->
      (readNatural document expected (.scalar field.value.scalar) = .ok written ↔
        field.value.number? = some written ∧ written < 2 ^ 64) :=
    fun field member named => readNatural_ok_iff (fitting field member) named written
  rw [Named.Reads, holds_iff Value.number? same, map_fst_named, Gives, Content.names]
  constructor
  · rintro (⟨found, inside⟩ | ⟨absent, rfl⟩)
    · exact ⟨Or.inl found, inside⟩
    · exact ⟨Or.inr ⟨absent, rfl⟩, bounded⟩
  · rintro ⟨found | absent, inside⟩
    · exact Or.inl ⟨found, inside⟩
    · exact Or.inr absent

omit fitting

theorem readServer_ok_iff (fits : FitsEntry entry) (named : entry.key.name = "server")
    {settings : ServerSettings} :
    (serverSection document).readNode document {} entry.content.node = .ok settings ↔
      Subperm entry.content.names ["url", "join_path", "outbound_queue"] ∧
        WritesServer entry.content settings ∧ settings.outboundQueue < 2 ^ 64 := by
  have node := node_of_fits fits (by simp [named])
  have fitting := fitsField_of_fits fits (by simp [named])
  have filled (once : entry.content.names.Nodup)
      (known : forall name, name ∈ entry.content.names ->
        name ∈ (serverSection document).fields) :
      (serverSection document).fill {} (entry.content.fields.map Field.named) = .ok settings ↔
        WritesServer entry.content settings ∧ settings.outboundQueue < 2 ^ 64 := by
    rw [Content.names, ← map_fst_named] at once known
    rw [fill_server known once, reads_text_iff fitting (by decide),
      reads_text_iff fitting (by decide), reads_number_iff fitting (by decide)]
    constructor
    · rintro ⟨url, joinPath, outboundQueue, inside⟩
      exact ⟨⟨url, joinPath, outboundQueue⟩, inside⟩
    · rintro ⟨⟨url, joinPath, outboundQueue⟩, inside⟩
      exact ⟨url, joinPath, outboundQueue, inside⟩
  rw [node]
  change (serverSection document).readEntries document [] {} _ = _ ↔ _
  rw [Section.readEntries_ok_iff, subperm_iff (by decide), map_fst_named, ← Content.names]
  constructor
  · rintro ⟨known, once, success⟩
    have familiar := fun name member => (known name member).1
    exact ⟨⟨once, familiar⟩, (filled once familiar).mp success⟩
  · rintro ⟨⟨once, familiar⟩, writes⟩
    exact ⟨fun name member => ⟨familiar name member, List.not_mem_nil⟩, once,
      (filled once familiar).mpr writes⟩

theorem reads_some_iff {kind : Type} {entries : Named} {name : String}
    {read : Yaml.Node -> Except Fault kind} {written : kind} :
    entries.Reads name (fun node => (read node).map some) none (some written) ↔
      Exists fun node => (name, node) ∈ entries ∧ read node = .ok written := by
  simp [Named.Reads, map_ok_iff]

theorem require_ok_iff {kind : Type} {field : String} {found : Option kind} {out : kind} :
    require field found = .ok out ↔ found = some out := by
  cases found with
  | none => simp [require, refuse]
  | some value => simp [require]

theorem readPlayer_ok_iff_fields {node : Yaml.Node} {settings : PlayerSettings} :
    readPlayer document node = .ok settings ↔
      (playerSection document).readNode document {} node =
        .ok ⟨some settings.name, some settings.room⟩ := by
  rw [readPlayer]
  simp only [bind_ok_iff, require_ok_iff]
  constructor
  · rintro ⟨⟨_, _⟩, read, name, rfl, room, rfl, same⟩
    cases same
    exact read
  · intro read
    exact ⟨_, read, _, rfl, _, rfl, rfl⟩

theorem readPlayer_ok_iff (fits : FitsEntry entry) (named : entry.key.name = "player")
    {settings : PlayerSettings} :
    readPlayer document entry.content.node = .ok settings ↔
      Perm entry.content.names ["name", "room"] ∧ WritesPlayer entry.content settings := by
  have node := node_of_fits fits (by simp [named])
  have fitting := fitsField_of_fits fits (by simp [named])
  have filled (once : entry.content.names.Nodup)
      (known : forall name, name ∈ entry.content.names ->
        name ∈ (playerSection document).fields) :
      (playerSection document).fill {} (entry.content.fields.map Field.named) =
          .ok ⟨some settings.name, some settings.room⟩ ↔
        WritesPlayer entry.content settings := by
    rw [Content.names, ← map_fst_named] at once known
    rw [fill_player known once, reads_some_iff, reads_some_iff,
      holds_text_iff fitting (by decide), holds_text_iff fitting (by decide)]
    exact ⟨fun both => ⟨both.1, both.2⟩, fun writes => ⟨writes.name, writes.room⟩⟩
  rw [readPlayer_ok_iff_fields, node]
  change (playerSection document).readEntries document [] {} _ = _ ↔ _
  rw [Section.readEntries_ok_iff, perm_iff (by decide), map_fst_named, ← Content.names]
  constructor
  · rintro ⟨known, once, success⟩
    have familiar := fun name member => (known name member).1
    have writes := (filled once familiar).mp success
    refine ⟨⟨once, familiar, ?_⟩, writes⟩
    rw [List.forall_mem_cons, List.forall_mem_singleton]
    exact ⟨mem_names_of_holds writes.name, mem_names_of_holds writes.room⟩
  · rintro ⟨⟨once, familiar, _⟩, writes⟩
    exact ⟨fun name member => ⟨familiar name member, List.not_mem_nil⟩, once,
      (filled once familiar).mpr writes⟩

end

/-! ## Whole sheets -/

section

variable {sheet : Sheet} {config : Config}

theorem map_fst_sheet (sheet : Sheet) : (sheet.map Entry.named).map Prod.fst = sheet.names := by
  rw [List.map_map]
  rfl

theorem exists_named_iff {name : String} {holds : Yaml.Node -> Prop} :
    (Exists fun node => (name, node) ∈ sheet.map Entry.named ∧ holds node) ↔
      Exists fun entry => entry ∈ sheet ∧ entry.key.name = name ∧ holds entry.content.node := by
  constructor
  · rintro ⟨node, member, holds⟩
    rcases List.mem_map.mp member with ⟨entry, inside, named⟩
    cases named
    exact ⟨entry, inside, rfl, holds⟩
  · rintro ⟨entry, inside, rfl, holds⟩
    exact ⟨_, List.mem_map_of_mem inside, holds⟩

theorem ofDocument_ok_iff :
    ofDocument sheet.document = .ok config ↔
      (wholeSection sheet.document).readEntries sheet.document [] {}
        (.ofNamed (sheet.map Entry.named)) =
          .ok ⟨some config.version, config.server, some config.player⟩ := by
  have root : (wholeSection sheet.document).readNode sheet.document {} sheet.document.root =
      (wholeSection sheet.document).readEntries sheet.document [] {}
        (.ofNamed (sheet.map Entry.named)) := by
    cases sheet with
    | nil => rfl
    | cons first rest => rfl
  have complete : sheet.document.complete = true := rfl
  rw [ofDocument]
  simp only [bind_ok_iff, require_ok_iff, root, complete, if_true]
  constructor
  · rintro ⟨⟨_, _, _⟩, read, version, rfl, player, rfl, same⟩
    cases same
    exact read
  · intro read
    exact ⟨_, read, _, rfl, _, rfl, rfl⟩

theorem readEntries_sheet :
    (wholeSection sheet.document).readEntries sheet.document [] {}
        (.ofNamed (sheet.map Entry.named)) =
          .ok ⟨some config.version, config.server, some config.player⟩ ↔
      (sheet.names.Nodup ∧
        forall name, name ∈ sheet.names -> name ∈ ["version", "server", "player"]) ∧
      (Exists fun entry => entry ∈ sheet ∧ entry.key.name = "version" ∧
        readNatural32 sheet.document entry.content.node = .ok config.version) ∧
      ((Exists fun entry => entry ∈ sheet ∧ entry.key.name = "server" ∧
        (serverSection sheet.document).readNode sheet.document {} entry.content.node =
          .ok config.server) ∨
        ("server" ∉ sheet.names ∧ config.server = {})) ∧
      (Exists fun entry => entry ∈ sheet ∧ entry.key.name = "player" ∧
        readPlayer sheet.document entry.content.node = .ok config.player) := by
  rw [Section.readEntries_ok_iff, ← map_fst_sheet]
  constructor
  · rintro ⟨known, once, success⟩
    have familiar := fun name member => (known name member).1
    rw [fill_whole familiar once, reads_some_iff, reads_some_iff, Named.Reads, exists_named_iff,
      exists_named_iff, exists_named_iff] at success
    exact ⟨⟨once, familiar⟩, success⟩
  · rintro ⟨⟨once, familiar⟩, reads⟩
    refine ⟨fun name member => ⟨familiar name member, List.not_mem_nil⟩, once, ?_⟩
    rw [fill_whole familiar once, reads_some_iff, reads_some_iff, Named.Reads, exists_named_iff,
      exists_named_iff, exists_named_iff]
    exact reads

variable (fits : Fits sheet)

include fits

theorem version_iff :
    (Exists fun entry => entry ∈ sheet ∧ entry.key.name = "version" ∧
        readNatural32 sheet.document entry.content.node = .ok config.version) ↔
      (Exists fun entry => entry ∈ sheet ∧ entry.key.name = "version" ∧
        entry.content.number? = some config.version) ∧ config.version < 2 ^ 32 := by
  constructor
  · rintro ⟨entry, member, named, read⟩
    have number := (readNatural32_ok_iff (fits entry member) named config.version).mp read
    exact ⟨⟨entry, member, named, number.1⟩, number.2⟩
  · rintro ⟨⟨entry, member, named, number⟩, small⟩
    exact ⟨entry, member, named,
      (readNatural32_ok_iff (fits entry member) named config.version).mpr ⟨number, small⟩⟩

theorem player_iff (once : sheet.names.Nodup) :
    (Exists fun entry => entry ∈ sheet ∧ entry.key.name = "player" ∧
        readPlayer sheet.document entry.content.node = .ok config.player) ↔
      (forall entry, entry ∈ sheet -> entry.key.name = "player" ->
        Perm entry.content.names ["name", "room"]) ∧
      Exists fun entry => entry ∈ sheet ∧ entry.key.name = "player" ∧
        WritesPlayer entry.content config.player := by
  constructor
  · rintro ⟨entry, member, named, read⟩
    have settings := (readPlayer_ok_iff (fits entry member) named).mp read
    refine ⟨fun other inside same => ?_, entry, member, named, settings.2⟩
    rw [same_entry once ⟨inside, same⟩ ⟨member, named⟩]
    exact settings.1
  · rintro ⟨keys, entry, member, named, writes⟩
    exact ⟨entry, member, named,
      (readPlayer_ok_iff (fits entry member) named).mpr ⟨keys entry member named, writes⟩⟩

theorem server_iff (once : sheet.names.Nodup) :
    ((Exists fun entry => entry ∈ sheet ∧ entry.key.name = "server" ∧
        (serverSection sheet.document).readNode sheet.document {} entry.content.node =
          .ok config.server) ∨
        ("server" ∉ sheet.names ∧ config.server = {})) ↔
      (forall entry, entry ∈ sheet -> entry.key.name = "server" ->
        Subperm entry.content.names ["url", "join_path", "outbound_queue"]) ∧
      ((Exists fun entry => entry ∈ sheet ∧ entry.key.name = "server" ∧
        WritesServer entry.content config.server) ∨
          ("server" ∉ sheet.names ∧ config.server = {})) ∧
        config.server.outboundQueue < 2 ^ 64 := by
  constructor
  · rintro (⟨entry, member, named, read⟩ | ⟨absent, default⟩)
    · have settings := (readServer_ok_iff (fits entry member) named).mp read
      refine ⟨fun other inside same => ?_, Or.inl ⟨entry, member, named, settings.2.1⟩,
        settings.2.2⟩
      rw [same_entry once ⟨inside, same⟩ ⟨member, named⟩]
      exact settings.1
    · refine ⟨fun other inside same => ?_, Or.inr ⟨absent, default⟩, ?_⟩
      · exact absurd (List.mem_map.mpr ⟨other, inside, same⟩) absent
      · rw [default]
        decide
  · rintro ⟨keys, ⟨entry, member, named, writes⟩ | absent, short⟩
    · exact Or.inl ⟨entry, member, named,
        (readServer_ok_iff (fits entry member) named).mpr
          ⟨keys entry member named, writes, short⟩⟩
    · exact Or.inr absent

/-- The document of a sheet is a configuration when its keys are right and its
numbers fit.  The configuration is the one that its entries write. -/
theorem ofDocument_sheet :
    ofDocument sheet.document = .ok config ↔
      HasRightKeys sheet ∧ Writes sheet config ∧ InRange config := by
  rw [ofDocument_ok_iff, readEntries_sheet, version_iff fits]
  constructor
  · rintro ⟨⟨once, known⟩, ⟨version, small⟩, server, player⟩
    rcases (server_iff fits once).mp server with ⟨serverKeys, settings, short⟩
    rcases (player_iff fits once).mp player with ⟨playerKeys, names⟩
    have top := top_iff.mpr ⟨once, known, ?_, ?_⟩
    · exact ⟨⟨top, serverKeys, playerKeys⟩, ⟨version, settings, names⟩, small, short⟩
    · rcases version with ⟨entry, member, named, _⟩
      exact List.mem_map.mpr ⟨entry, member, named⟩
    · rcases player with ⟨entry, member, named, _⟩
      exact List.mem_map.mpr ⟨entry, member, named⟩
  · rintro ⟨keys, writes, small, short⟩
    rcases top_iff.mp keys.top with ⟨once, known, _, _⟩
    exact ⟨⟨once, known⟩, ⟨writes.version, small⟩,
      (server_iff fits once).mpr ⟨keys.server, writes.server, short⟩,
      (player_iff fits once).mpr ⟨keys.player, writes.player⟩⟩

end

end Config
end CardTable
