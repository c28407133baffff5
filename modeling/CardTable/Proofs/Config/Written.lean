import Mathlib.Data.List.Nodup
import Mathlib.Data.List.Perm.Subperm
import CardTable.Config
import CardTable.Proofs.Yaml.Sheet

namespace CardTable

/-!
# Configurations on sheets

A configuration may be written as a sheet: a version, and sections for the server
and the player.  Nothing is said about which keys there are.  Those that are known
have a value of their kind, and all others may have any.

What such a sheet says is told without an order of its entries: which keys it has
to have, and which configuration its entries write.  Where the keys are right, that
is exactly one configuration.
-/

namespace Yaml

namespace Value

def text? : Value -> Option String
  | .text content _ => some content
  | .number _ => none

def number? : Value -> Option Nat
  | .text _ _ => none
  | .number amount => some amount

end Value

namespace Content

def number? : Content -> Option Nat
  | .value single => single.number?
  | .nested _ _ _ _ => none

def fields : Content -> List Field
  | .value _ => []
  | .nested _ _ first others => first :: others

def names (content : Content) : List String :=
  content.fields.map (·.key.name)

/-- A field of that name has that value. -/
def Holds {kind : Type} (content : Content) (name : String) (read : Value -> Option kind)
    (written : kind) : Prop :=
  Exists fun field => field ∈ content.fields ∧ field.key.name = name ∧
    read field.value = some written

end Content

def Sheet.names (sheet : Sheet) : List String :=
  sheet.map (·.key.name)

end Yaml

namespace Config

open Yaml (Value Field Content Entry Sheet)
open List (Perm Subperm)

/-! ## Sheets of configurations -/

/-- A field of a known name has a value of its kind. -/
def FitsField (field : Field) : Prop :=
  match field.value with
  | .text _ _ => field.key.name ≠ "outbound_queue"
  | .number _ => field.key.name ∉ ["url", "join_path", "name", "room"]

/-- An entry of a known name is a number or a section. -/
def FitsEntry (entry : Entry) : Prop :=
  match entry.content with
  | .value (.text _ _) => entry.key.name ∉ ["version", "server", "player"]
  | .value (.number _) => entry.key.name ∉ ["server", "player"]
  | .nested _ _ first others =>
      entry.key.name ≠ "version" ∧ forall field, field ∈ first :: others -> FitsField field

/-- The sheet has the shape of a configuration, whatever its keys are. -/
def Fits (sheet : Sheet) : Prop :=
  forall entry, entry ∈ sheet -> FitsEntry entry

/-- Each key is known where it stands and comes once, and none is missing. -/
structure HasRightKeys (sheet : Sheet) : Prop where
  top : Perm sheet.names ["version", "player"] ∨
    Perm sheet.names ["version", "server", "player"]
  server : forall entry, entry ∈ sheet -> entry.key.name = "server" ->
    Subperm entry.content.names ["url", "join_path", "outbound_queue"]
  player : forall entry, entry ∈ sheet -> entry.key.name = "player" ->
    Perm entry.content.names ["name", "room"]

/-- A setting is the one that the section has, or its default. -/
def Gives {kind : Type} (content : Content) (name : String) (read : Value -> Option kind)
    (default written : kind) : Prop :=
  content.Holds name read written ∨ (name ∉ content.names ∧ written = default)

structure WritesServer (content : Content) (settings : ServerSettings) : Prop where
  url : Gives content "url" Value.text? ({} : ServerSettings).url settings.url
  joinPath : Gives content "join_path" Value.text? ({} : ServerSettings).joinPath
    settings.joinPath
  outboundQueue : Gives content "outbound_queue" Value.number?
    ({} : ServerSettings).outboundQueue settings.outboundQueue

structure WritesPlayer (content : Content) (settings : PlayerSettings) : Prop where
  name : content.Holds "name" Value.text? settings.name
  room : content.Holds "room" Value.text? settings.room

/-- The configuration that the entries of a sheet write.  A server without a
section has the default settings. -/
structure Writes (sheet : Sheet) (config : Config) : Prop where
  version : Exists fun entry => entry ∈ sheet ∧ entry.key.name = "version" ∧
    entry.content.number? = some config.version
  server :
    (Exists fun entry => entry ∈ sheet ∧ entry.key.name = "server" ∧
      WritesServer entry.content config.server) ∨
        ("server" ∉ sheet.names ∧ config.server = {})
  player : Exists fun entry => entry ∈ sheet ∧ entry.key.name = "player" ∧
    WritesPlayer entry.content config.player

/-- The numbers of a configuration fit into the bits that are kept of them. -/
def InRange (config : Config) : Prop :=
  config.version < 2 ^ 32 ∧ config.server.outboundQueue < 2 ^ 64

/-! ## Names that come once -/

section

variable {names known : List String}

theorem perm_iff (once : known.Nodup) :
    Perm names known ↔ names.Nodup ∧ (forall name, name ∈ names -> name ∈ known) ∧
      forall name, name ∈ known -> name ∈ names := by
  constructor
  · intro same
    exact ⟨same.nodup_iff.mpr once, fun name => same.mem_iff.mp, fun name => same.mem_iff.mpr⟩
  · rintro ⟨single, familiar, present⟩
    exact (List.perm_ext_iff_of_nodup single once).mpr fun name =>
      ⟨familiar name, present name⟩

theorem subperm_iff (once : known.Nodup) :
    Subperm names known ↔ names.Nodup ∧ forall name, name ∈ names -> name ∈ known := by
  constructor
  · intro part
    rcases part with ⟨sorted, same, sublist⟩
    exact ⟨same.nodup_iff.mp (once.sublist sublist),
      fun name member => sublist.subset (same.mem_iff.mpr member)⟩
  · rintro ⟨single, familiar⟩
    exact List.subperm_of_subset single familiar

end

section

variable {sheet : Sheet}

/-- Entries of one name are one entry. -/
theorem same_entry (once : sheet.names.Nodup) {name : String} {entry other : Entry}
    (first : entry ∈ sheet ∧ entry.key.name = name)
    (second : other ∈ sheet ∧ other.key.name = name) : entry = other :=
  List.inj_on_of_nodup_map once first.1 second.1 (first.2.trans second.2.symm)

/-- The top level has the keys that it has to have. -/
theorem top_iff :
    (Perm sheet.names ["version", "player"] ∨ Perm sheet.names ["version", "server", "player"]) ↔
      sheet.names.Nodup ∧
        (forall name, name ∈ sheet.names -> name ∈ ["version", "server", "player"]) ∧
          "version" ∈ sheet.names ∧ "player" ∈ sheet.names := by
  rw [perm_iff (by decide), perm_iff (by decide)]
  constructor
  · rintro (⟨once, known, present⟩ | ⟨once, known, present⟩)
    · refine ⟨once, fun name member => ?_, present _ (by decide), present _ (by decide)⟩
      have short := known name member
      simp only [List.mem_cons, List.not_mem_nil, or_false] at short ⊢
      tauto
    · exact ⟨once, known, present _ (by decide), present _ (by decide)⟩
  · rintro ⟨once, known, version, player⟩
    by_cases server : "server" ∈ sheet.names
    · refine Or.inr ⟨once, known, ?_⟩
      simp [version, server, player]
    · refine Or.inl ⟨once, fun name member => ?_, by simp [version, player]⟩
      have long := known name member
      simp only [List.mem_cons, List.not_mem_nil, or_false] at long ⊢
      rcases long with rfl | rfl | rfl
      · exact Or.inl rfl
      · exact absurd member server
      · exact Or.inr rfl

end

/-- The fields of the server and of the player have values of their kinds. -/
theorem fitsField_of_fits {entry : Entry} (fits : FitsEntry entry)
    (named : entry.key.name ∈ ["server", "player"]) (field : Field)
    (member : field ∈ entry.content.fields) : FitsField field := by
  unfold FitsEntry at fits
  split at fits
  · exact absurd (List.mem_cons_of_mem _ named) fits
  · exact absurd named fits
  · next content =>
    rw [content] at member
    exact fits.2 field member

/-! ## What a sheet writes -/

section

variable {content : Content} {kind : Type} {name : String} {take : Value -> Option kind}

theorem mem_names_of_holds {written : kind}
    (holds : content.Holds name take written) : name ∈ content.names := by
  rcases holds with ⟨field, member, rfl, _⟩
  exact List.mem_map_of_mem member

theorem holds_unique (once : content.names.Nodup) {first second : kind}
    (left : content.Holds name take first) (right : content.Holds name take second) :
    first = second := by
  rcases left with ⟨field, member, named, found⟩
  rcases right with ⟨other, among, same, written⟩
  cases List.inj_on_of_nodup_map once member among (named.trans same.symm)
  exact Option.some_inj.mp (found.symm.trans written)

theorem gives_unique (once : content.names.Nodup) {default first second : kind}
    (left : Gives content name take default first)
    (right : Gives content name take default second) : first = second := by
  rcases left with held | ⟨absent, rfl⟩
  · rcases right with also | ⟨absent, _⟩
    · exact holds_unique once held also
    · exact absurd (mem_names_of_holds held) absent
  · rcases right with held | ⟨_, rfl⟩
    · exact absurd (mem_names_of_holds held) absent
    · rfl

theorem WritesServer.unique (once : content.names.Nodup) {first second : ServerSettings}
    (left : WritesServer content first) (right : WritesServer content second) :
    first = second := by
  have url := gives_unique once left.url right.url
  have joinPath := gives_unique once left.joinPath right.joinPath
  have outboundQueue := gives_unique once left.outboundQueue right.outboundQueue
  rcases first with ⟨_, _, _⟩
  rcases second with ⟨_, _, _⟩
  cases url
  cases joinPath
  cases outboundQueue
  rfl

theorem WritesPlayer.unique (once : content.names.Nodup) {first second : PlayerSettings}
    (left : WritesPlayer content first) (right : WritesPlayer content second) :
    first = second := by
  have name := holds_unique once left.name right.name
  have room := holds_unique once left.room right.room
  rcases first with ⟨_, _⟩
  rcases second with ⟨_, _⟩
  cases name
  cases room
  rfl

variable (fitting : forall field, field ∈ content.fields -> FitsField field)

include fitting

theorem exists_text (named : name ∈ ["url", "join_path", "name", "room"])
    (present : name ∈ content.names) : Exists (content.Holds name Value.text?) := by
  rcases List.mem_map.mp present with ⟨field, member, rfl⟩
  have fits := fitting field member
  unfold FitsField at fits
  split at fits
  · next text written value => exact ⟨text, field, member, rfl, by rw [value]; rfl⟩
  · exact absurd named fits

theorem exists_number (present : "outbound_queue" ∈ content.names) :
    Exists (content.Holds "outbound_queue" Value.number?) := by
  rcases List.mem_map.mp present with ⟨field, member, named⟩
  have fits := fitting field member
  unfold FitsField at fits
  split at fits
  · exact absurd named fits
  · next amount value => exact ⟨amount, field, member, named, by rw [value]; rfl⟩

theorem exists_server : Exists (WritesServer content) := by
  have text (name : String) (named : name ∈ ["url", "join_path", "name", "room"])
      (default : String) : Exists (Gives content name Value.text? default) := by
    by_cases present : name ∈ content.names
    · exact (exists_text fitting named present).imp fun _ => Or.inl
    · exact ⟨default, Or.inr ⟨present, rfl⟩⟩
  have number : Exists (Gives content "outbound_queue" Value.number?
      ({} : ServerSettings).outboundQueue) := by
    by_cases present : "outbound_queue" ∈ content.names
    · exact (exists_number fitting present).imp fun _ => Or.inl
    · exact ⟨_, Or.inr ⟨present, rfl⟩⟩
  rcases text "url" (by decide) ({} : ServerSettings).url with ⟨url, urlGiven⟩
  rcases text "join_path" (by decide) ({} : ServerSettings).joinPath with ⟨path, pathGiven⟩
  rcases number with ⟨queue, queueGiven⟩
  exact ⟨⟨url, path, queue⟩, urlGiven, pathGiven, queueGiven⟩

theorem exists_player (names : Perm content.names ["name", "room"]) :
    Exists (WritesPlayer content) := by
  rcases exists_text fitting (by decide) (names.mem_iff.mpr (by decide : "name" ∈ _)) with
    ⟨name, nameHeld⟩
  rcases exists_text fitting (by decide) (names.mem_iff.mpr (by decide : "room" ∈ _)) with
    ⟨room, roomHeld⟩
  exact ⟨⟨name, room⟩, nameHeld, roomHeld⟩

end

section

variable {sheet : Sheet}

theorem exists_writes (fits : Fits sheet) (keys : HasRightKeys sheet) :
    Exists (Writes sheet) := by
  rcases top_iff.mp keys.top with ⟨_, _, hasVersion, hasPlayer⟩
  rcases List.mem_map.mp hasVersion with ⟨first, inFirst, isVersion⟩
  rcases List.mem_map.mp hasPlayer with ⟨last, inLast, isPlayer⟩
  have version : Exists fun number => first.content.number? = some number := by
    have fitting := fits first inFirst
    unfold FitsEntry at fitting
    split at fitting
    · exact absurd (by simp [isVersion]) fitting
    · next amount content => exact ⟨amount, by rw [content]; rfl⟩
    · exact absurd isVersion fitting.1
  have server : Exists fun settings =>
      (Exists fun entry => entry ∈ sheet ∧ entry.key.name = "server" ∧
        WritesServer entry.content settings) ∨ ("server" ∉ sheet.names ∧ settings = {}) := by
    by_cases present : "server" ∈ sheet.names
    · rcases List.mem_map.mp present with ⟨entry, member, named⟩
      have fitting := fitsField_of_fits (fits entry member) (by simp [named])
      exact (exists_server fitting).imp fun _ writes => Or.inl ⟨entry, member, named, writes⟩
    · exact ⟨{}, Or.inr ⟨present, rfl⟩⟩
  rcases version with ⟨number, isNumber⟩
  rcases server with ⟨settings, isSettings⟩
  rcases exists_player (fitsField_of_fits (fits last inLast) (by simp [isPlayer]))
    (keys.player last inLast isPlayer) with ⟨player, isNames⟩
  exact ⟨⟨number, settings, player⟩, ⟨first, inFirst, isVersion, isNumber⟩, isSettings,
    ⟨last, inLast, isPlayer, isNames⟩⟩

theorem writes_unique (keys : HasRightKeys sheet) {first second : Config}
    (left : Writes sheet first) (right : Writes sheet second) : first = second := by
  have once := (top_iff.mp keys.top).1
  have version : first.version = second.version := by
    rcases left.version with ⟨entry, member, named, found⟩
    rcases right.version with ⟨other, among, same, written⟩
    cases same_entry once ⟨member, named⟩ ⟨among, same⟩
    exact Option.some_inj.mp (found.symm.trans written)
  have server : first.server = second.server := by
    rcases left.server with ⟨entry, member, named, writes⟩ | ⟨absent, default⟩
    · rcases right.server with ⟨other, among, same, also⟩ | ⟨absent, _⟩
      · cases same_entry once ⟨member, named⟩ ⟨among, same⟩
        have single := ((subperm_iff (by decide)).mp (keys.server entry member named)).1
        exact writes.unique single also
      · exact absurd (List.mem_map.mpr ⟨entry, member, named⟩) absent
    · rcases right.server with ⟨other, among, same, _⟩ | ⟨_, also⟩
      · exact absurd (List.mem_map.mpr ⟨other, among, same⟩) absent
      · exact default.trans also.symm
  have player : first.player = second.player := by
    rcases left.player with ⟨entry, member, named, writes⟩
    rcases right.player with ⟨other, among, same, also⟩
    cases same_entry once ⟨member, named⟩ ⟨among, same⟩
    have single := ((perm_iff (by decide)).mp (keys.player entry member named)).1
    exact writes.unique single also
  rcases first with ⟨_, _, _⟩
  rcases second with ⟨_, _, _⟩
  cases version
  cases server
  cases player
  rfl

end

end Config
end CardTable
