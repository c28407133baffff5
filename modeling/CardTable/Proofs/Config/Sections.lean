import Mathlib.Data.List.Nodup
import CardTable.Proofs.Steps
import CardTable.Proofs.Yaml.Tree
import CardTable.Config.Read

namespace CardTable
namespace Config

/-!
# Sections read by their fields

A section is read entry by entry, in the order of the text, and each entry changes
one field of what is read.  Since no name comes twice, the order does not matter:
a field is read from the entry of its name, or keeps its default if there is none.
-/

abbrev Named := List (String × Yaml.Node)

namespace Named

/-- A field is read from the entry of its name, or has its default. -/
def Reads {field : Type} (entries : Named) (name : String)
    (read : Yaml.Node -> Except Fault field) (default written : field) : Prop :=
  (Exists fun node => (name, node) ∈ entries ∧ read node = .ok written) ∨
    (name ∉ entries.map Prod.fst ∧ written = default)

section

variable {field : Type} {entries : Named} {name : String}
  {read : Yaml.Node -> Except Fault field} {default written : field}

theorem reads_nil : Reads [] name read default written ↔ written = default := by
  simp [Reads]

/-- The entry of a field's own name sets the field for good. -/
theorem reads_cons_self {node : Yaml.Node} (once : name ∉ entries.map Prod.fst) :
    Reads ((name, node) :: entries) name read default written ↔
      Exists fun found => read node = .ok found ∧ Reads entries name read found written := by
  constructor
  · rintro (⟨other, member, found⟩ | ⟨absent, _⟩)
    · rcases List.mem_cons.mp member with same | later
      · cases same
        exact ⟨written, found, Or.inr ⟨once, rfl⟩⟩
      · exact absurd (List.mem_map_of_mem later) once
    · exact absurd List.mem_cons_self absent
  · rintro ⟨found, success, ⟨other, member, _⟩ | ⟨_, rfl⟩⟩
    · exact absurd (List.mem_map_of_mem member) once
    · exact Or.inl ⟨node, List.mem_cons_self, success⟩

/-- The entry of another name does not matter for a field. -/
theorem reads_cons_other {other : String} {node : Yaml.Node} (different : other ≠ name) :
    Reads ((other, node) :: entries) name read default written ↔
      Reads entries name read default written := by
  simp [Reads, different.symm]

end
end Named

/-- Read all entries, one after the other. -/
def Section.fill {value : Type} (layout : Section value) (start : value) :
    Named -> Except Fault value
  | [] => .ok start
  | (name, node) :: rest => do
      let next ← layout.read name node start
      layout.fill next rest

theorem Section.readEntries_cons {value : Type} (layout : Section value)
    (document : Yaml.Document) (before : List String) (start : value) (name : String)
    (node : Yaml.Node) (rest : Named) :
    layout.readEntries document before start (.ofNamed ((name, node) :: rest)) =
      if !layout.fields.contains name then refuse (.unknown name layout.fields)
      else if before.contains name then refuse (.duplicate name)
      else
        match layout.read name node start with
        | .ok next => layout.readEntries document (name :: before) next (.ofNamed rest)
        | .error fault => .error (fault.inside name) := by
  have key : readText document "field identifier"
      (.scalar { text := name.toList, style := .plain }) = .ok name :=
    congrArg Except.ok String.ofList_toList
  rw [Yaml.Entries.ofNamed, Section.readEntries, key]
  rfl

/-- The entries of a section are read when their names are known, and each comes
once. -/
theorem Section.readEntries_ok_iff {value : Type} (layout : Section value)
    (document : Yaml.Document) (before : List String) (start out : value) (entries : Named) :
    layout.readEntries document before start (.ofNamed entries) = .ok out ↔
      (forall name, name ∈ entries.map Prod.fst -> name ∈ layout.fields ∧ name ∉ before) ∧
        (entries.map Prod.fst).Nodup ∧ layout.fill start entries = .ok out := by
  induction entries generalizing before start with
  | nil => simp [Yaml.Entries.ofNamed, Section.readEntries, Section.fill]
  | cons entry rest inductionHypothesis =>
      rcases entry with ⟨name, node⟩
      rw [Section.readEntries_cons, List.map_cons, List.forall_mem_cons, List.nodup_cons]
      split
      · next unknown =>
        have stranger : name ∉ layout.fields := by simpa using unknown
        simp [refuse, stranger]
      · next known =>
        have familiar : name ∈ layout.fields := by simpa using known
        split
        · next again =>
          have twice : name ∈ before := by simpa using again
          simp [refuse, twice]
        · next fresh =>
          have first : name ∉ before := by simpa using fresh
          rw [Section.fill]
          cases layout.read name node start with
          | error fault => simp [bind, Except.bind]
          | ok next =>
              change layout.readEntries document (name :: before) next (.ofNamed rest) = .ok out ↔
                _ ∧ _ ∧ layout.fill next rest = .ok out
              rw [inductionHypothesis]
              constructor
              · rintro ⟨names, once, filled⟩
                have absent : name ∉ rest.map Prod.fst :=
                  fun member => (names name member).2 List.mem_cons_self
                exact ⟨⟨⟨familiar, first⟩, fun other member =>
                  ⟨(names other member).1, fun seen =>
                    (names other member).2 (List.mem_cons_of_mem name seen)⟩⟩,
                  ⟨absent, once⟩, filled⟩
              · rintro ⟨⟨_, names⟩, ⟨absent, once⟩, filled⟩
                refine ⟨fun other member => ⟨(names other member).1, ?_⟩, once, filled⟩
                rw [List.mem_cons, not_or]
                refine ⟨?_, (names other member).2⟩
                rintro rfl
                exact absent member

/-- How all entries are read follows from how one is read, where each name comes
once. -/
theorem Section.fill_ok_iff {value : Type} (layout : Section value) {out : value}
    (reads : Named -> value -> Prop) (done : forall start, reads [] start ↔ start = out)
    (step : forall name node rest start, name ∈ layout.fields -> name ∉ rest.map Prod.fst ->
      (reads ((name, node) :: rest) start ↔
        Exists fun next => layout.read name node start = .ok next ∧ reads rest next))
    {entries : Named}
    (known : forall name, name ∈ entries.map Prod.fst -> name ∈ layout.fields)
    (once : (entries.map Prod.fst).Nodup) (start : value) :
    layout.fill start entries = .ok out ↔ reads entries start := by
  induction entries generalizing start with
  | nil => rw [Section.fill, Except.ok.injEq, done]
  | cons entry rest inductionHypothesis =>
      rcases entry with ⟨name, node⟩
      rw [List.map_cons, List.forall_mem_cons] at known
      rw [List.map_cons, List.nodup_cons] at once
      rw [Section.fill, bind_ok_iff, step name node rest start known.1 once.1]
      simp only [inductionHypothesis known.2 once.2]

/-! ## The three sections -/

section

variable {document : Yaml.Document} {entries : Named}

theorem fill_server {start out : ServerSettings}
    (known : forall name, name ∈ entries.map Prod.fst -> name ∈ (serverSection document).fields)
    (once : (entries.map Prod.fst).Nodup) :
    (serverSection document).fill start entries = .ok out ↔
      entries.Reads "url" (readText document "a string") start.url out.url ∧
        entries.Reads "join_path" (readText document "a string") start.joinPath out.joinPath ∧
          entries.Reads "outbound_queue" (readNatural document "usize") start.outboundQueue
            out.outboundQueue := by
  refine (serverSection document).fill_ok_iff (fun entries start =>
    entries.Reads "url" (readText document "a string") start.url out.url ∧
      entries.Reads "join_path" (readText document "a string") start.joinPath out.joinPath ∧
        entries.Reads "outbound_queue" (readNatural document "usize") start.outboundQueue
          out.outboundQueue) ?_ ?_ known once start
  · rintro ⟨url, joinPath, outboundQueue⟩
    rcases out with ⟨_, _, _⟩
    simp [Named.reads_nil, eq_comm]
  · intro name node rest start familiar absent
    have names : name = "url" ∨ name = "join_path" ∨ name = "outbound_queue" := by
      simpa [serverSection] using familiar
    rcases names with rfl | rfl | rfl
    · have read : (serverSection document).read "url" node start =
          (readText document "a string" node).map fun text => { start with url := text } :=
        rfl
      rw [Named.reads_cons_self absent, Named.reads_cons_other (by decide),
        Named.reads_cons_other (by decide), read]
      simp only [exists_map_ok_iff]
      grind
    · have read : (serverSection document).read "join_path" node start =
          (readText document "a string" node).map fun text => { start with joinPath := text } :=
        rfl
      rw [Named.reads_cons_other (by decide), Named.reads_cons_self absent,
        Named.reads_cons_other (by decide), read]
      simp only [exists_map_ok_iff]
      grind
    · have read : (serverSection document).read "outbound_queue" node start =
          (readNatural document "usize" node).map fun number =>
            { start with outboundQueue := number } :=
        rfl
      rw [Named.reads_cons_other (by decide), Named.reads_cons_other (by decide),
        Named.reads_cons_self absent, read]
      simp only [exists_map_ok_iff]
      grind

theorem fill_player {start out : PlayerFields}
    (known : forall name, name ∈ entries.map Prod.fst -> name ∈ (playerSection document).fields)
    (once : (entries.map Prod.fst).Nodup) :
    (playerSection document).fill start entries = .ok out ↔
      entries.Reads "name" (fun node => (readText document "a string" node).map some) start.name
          out.name ∧
        entries.Reads "room" (fun node => (readText document "a string" node).map some) start.room
          out.room := by
  refine (playerSection document).fill_ok_iff (fun entries start =>
    entries.Reads "name" (fun node => (readText document "a string" node).map some) start.name
        out.name ∧
      entries.Reads "room" (fun node => (readText document "a string" node).map some) start.room
        out.room) ?_ ?_ known once start
  · rintro ⟨name, room⟩
    rcases out with ⟨_, _⟩
    simp [Named.reads_nil, eq_comm]
  · intro name node rest start familiar absent
    have names : name = "name" ∨ name = "room" := by simpa [playerSection] using familiar
    rcases names with rfl | rfl
    · have read : (playerSection document).read "name" node start =
          (readText document "a string" node).map fun text => { start with name := some text } :=
        rfl
      rw [Named.reads_cons_self absent, Named.reads_cons_other (by decide), read]
      simp only [exists_map_ok_iff]
      grind
    · have read : (playerSection document).read "room" node start =
          (readText document "a string" node).map fun text => { start with room := some text } :=
        rfl
      rw [Named.reads_cons_other (by decide), Named.reads_cons_self absent, read]
      simp only [exists_map_ok_iff]
      grind

theorem fill_whole {start out : Fields}
    (known : forall name, name ∈ entries.map Prod.fst -> name ∈ (wholeSection document).fields)
    (once : (entries.map Prod.fst).Nodup) :
    (wholeSection document).fill start entries = .ok out ↔
      entries.Reads "version" (fun node => (readNatural32 document node).map some) start.version
          out.version ∧
        entries.Reads "server" ((serverSection document).readNode document {}) start.server
            out.server ∧
          entries.Reads "player" (fun node => (readPlayer document node).map some) start.player
            out.player := by
  refine (wholeSection document).fill_ok_iff (fun entries start =>
    entries.Reads "version" (fun node => (readNatural32 document node).map some) start.version
        out.version ∧
      entries.Reads "server" ((serverSection document).readNode document {}) start.server
          out.server ∧
        entries.Reads "player" (fun node => (readPlayer document node).map some) start.player
          out.player) ?_ ?_ known once start
  · rintro ⟨version, server, player⟩
    rcases out with ⟨_, _, _⟩
    simp [Named.reads_nil, eq_comm]
  · intro name node rest start familiar absent
    have names : name = "version" ∨ name = "server" ∨ name = "player" := by
      simpa [wholeSection] using familiar
    rcases names with rfl | rfl | rfl
    · have read : (wholeSection document).read "version" node start =
          (readNatural32 document node).map fun number => { start with version := some number } :=
        rfl
      rw [Named.reads_cons_self absent, Named.reads_cons_other (by decide),
        Named.reads_cons_other (by decide), read]
      simp only [exists_map_ok_iff]
      grind
    · have read : (wholeSection document).read "server" node start =
          ((serverSection document).readNode document {} node).map fun settings =>
            { start with server := settings } :=
        rfl
      rw [Named.reads_cons_other (by decide), Named.reads_cons_self absent,
        Named.reads_cons_other (by decide), read]
      simp only [exists_map_ok_iff]
      grind
    · have read : (wholeSection document).read "player" node start =
          (readPlayer document node).map fun settings => { start with player := some settings } :=
        rfl
      rw [Named.reads_cons_other (by decide), Named.reads_cons_other (by decide),
        Named.reads_cons_self absent, read]
      simp only [exists_map_ok_iff]
      grind

end

end Config
end CardTable
