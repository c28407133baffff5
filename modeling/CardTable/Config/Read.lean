import CardTable.Config
import CardTable.Yaml.Meaning

namespace CardTable

/-!
# Reading the configuration

The configuration is a YAML mapping with sections.  Nothing may be in it that is
not asked for, nothing twice, and nothing of the wrong kind.  Faults are told in
the order of the text; what is missing is told at the end of its section.
-/

namespace Config

/-- What stands where something else is expected. -/
inductive Found where
  | value (meaning : Yaml.Meaning)
  | sequence
  | mapping
  deriving DecidableEq, Repr

inductive Problem where
  | missing (field : String)
  | unknown (field : String) (expected : List String)
  | duplicate (field : String)
  | wrongType (found : Found) (expected : String)
  | wrongValue (found : Found) (expected : String)
  deriving DecidableEq, Repr

/-- A problem with the place where it is, or a text that is not YAML. -/
inductive Fault where
  | notYaml
  | at (path : List String) (problem : Problem)
  deriving DecidableEq, Repr

namespace Found

/-- What was found, as a message calls it. -/
def describe : Found -> String
  | .value .nothing => "unit value"
  | .value (.bool truth) => s!"boolean `{truth}`"
  | .value (.whole number) => s!"integer `{String.ofList (Text.integer number)}`"
  | .value (.wide number) =>
      let width := if number < 0 then "i128" else "u128"
      s!"integer `{String.ofList (Text.integer number)}` as {width}"
  | .value (.real number) => s!"floating point `{number.text}`"
  | .value (.text text) => s!"string {Text.quoted (String.ofList text)}"
  | sequence => "sequence"
  | mapping => "map"

end Found

namespace Problem

/-- Names to choose from, as a message lists them. -/
def choices (names : List String) : String :=
  let ticked := names.map fun name => "`" ++ name ++ "`"
  match ticked with
  | [first, second] => "expected " ++ first ++ " or " ++ second
  | _ => "expected one of " ++ String.intercalate ", " ticked

def message : Problem -> String
  | missing field => s!"missing field `{field}`"
  | unknown field expected => s!"unknown field `{field}`, {choices expected}"
  | duplicate field => s!"duplicate field `{field}`"
  | wrongType found expected => s!"invalid type: {found.describe}, expected {expected}"
  | wrongValue found expected => s!"invalid value: {found.describe}, expected {expected}"

end Problem

namespace Fault

def message : Fault -> String
  | notYaml => "invalid yaml"
  | .at [] problem => s!"invalid yaml: {problem.message}"
  | .at path problem =>
      let place := String.intercalate "." path
      s!"invalid yaml: {place}: {problem.message}"

def toError (fault : Fault) : Error :=
  .invalidConfig fault.message

/-- The fault as seen from the section around it. -/
def inside (name : String) : Fault -> Fault
  | notYaml => notYaml
  | .at path problem => .at (name :: path) problem

end Fault

def refuse (problem : Problem) : Except Fault α :=
  .error (.at [] problem)

/-- The fault of a node that is not what is expected. -/
def mismatch (node : Yaml.Node) (expected : String) : Fault :=
  match node with
  | .scalar scalar =>
      match scalar.meaning with
      | .ok meaning => .at [] (.wrongType (.value meaning) expected)
      | .error wanted => .at [] (.wrongValue (.value (.text scalar.text)) wanted)
  | .sequence => .at [] (.wrongType .sequence expected)
  | .mapping _ => .at [] (.wrongType .mapping expected)
  | .alias _ => .notYaml
  | .broken => .notYaml

/-- The text of a scalar, whatever it would mean by itself. -/
def readText (document : Yaml.Document) (expected : String) (node : Yaml.Node) :
    Except Fault String :=
  match document.resolve node with
  | .scalar scalar => .ok (String.ofList scalar.text)
  | other => .error (mismatch other expected)

def readNatural (document : Yaml.Document) (expected : String) (node : Yaml.Node) :
    Except Fault Nat :=
  match document.resolve node with
  | .scalar scalar =>
      match scalar.mayBeWhole, Yaml.Meaning.naturalBelow? (Nat.pow 2 64) scalar.text with
      | true, some value => .ok value
      | _, _ => .error (mismatch (.scalar scalar) expected)
  | other => .error (mismatch other expected)

def readNatural32 (document : Yaml.Document) (node : Yaml.Node) : Except Fault Nat := do
  let value ← readNatural document "u32" node
  if value < Nat.pow 2 32 then return value
  else refuse (.wrongValue (.value (.whole value)) "u32")

/-- How the fields of a section are read into a value of type `α`. -/
structure Section (α : Type) where
  /-- What a message calls the section. -/
  title : String
  fields : List String
  /-- Read the value of a field. -/
  read : String -> Yaml.Node -> α -> Except Fault α

/-- The name of the place of a value.  The name of an aliased key is not told. -/
def placeName (key : Yaml.Node) (name : String) : String :=
  match key with
  | .alias _ => "?"
  | _ => name

/-- Read the entries of a section, with the names that came before. -/
def Section.readEntries (layout : Section α) (document : Yaml.Document) (before : List String)
    (value : α) : Yaml.Entries -> Except Fault α
  | .done => .ok value
  | .broken => .error .notYaml
  | .entry key node rest => do
      let name ← readText document "field identifier" key
      if !layout.fields.contains name then refuse (.unknown name layout.fields)
      else if before.contains name then refuse (.duplicate name)
      else
        match layout.read name node value with
        | .ok next => readEntries layout document (name :: before) next rest
        | .error fault => .error (fault.inside (placeName key name))

/-- Read a section.  An empty one may be left out. -/
def Section.readNode (layout : Section α) (document : Yaml.Document) (initial : α)
    (node : Yaml.Node) : Except Fault α :=
  match document.resolve node with
  | .mapping entries => layout.readEntries document [] initial entries
  | .scalar scalar =>
      if scalar.text.isEmpty && scalar.style = .plain then .ok initial
      else .error (mismatch (.scalar scalar) layout.title)
  | other => .error (mismatch other layout.title)

/-- A field that has to be there. -/
def require (field : String) : Option α -> Except Fault α
  | some value => .ok value
  | none => refuse (.missing field)

/-- The section `server`.  Every field has a default. -/
def serverSection (document : Yaml.Document) : Section ServerSettings where
  title := "struct ServerSection"
  fields := ["url", "join_path", "outbound_queue"]
  read name node settings :=
    if name = "url" then do
      return { settings with url := ← readText document "a string" node }
    else if name = "join_path" then do
      return { settings with joinPath := ← readText document "a string" node }
    else do
      return { settings with outboundQueue := ← readNatural document "usize" node }

structure PlayerFields where
  name : Option String := none
  room : Option String := none

def playerSection (document : Yaml.Document) : Section PlayerFields where
  title := "struct PlayerSection"
  fields := ["name", "room"]
  read name node fields := do
    let text ← readText document "a string" node
    return if name = "name" then { fields with name := some text }
      else { fields with room := some text }

def readPlayer (document : Yaml.Document) (node : Yaml.Node) : Except Fault PlayerSettings := do
  let fields ← (playerSection document).readNode document {} node
  return ⟨← require "name" fields.name, ← require "room" fields.room⟩

structure Fields where
  version : Option Nat := none
  server : ServerSettings := {}
  player : Option PlayerSettings := none

def wholeSection (document : Yaml.Document) : Section Fields where
  title := "struct ClientConfig"
  fields := ["version", "server", "player"]
  read name node fields :=
    if name = "version" then do
      return { fields with version := some (← readNatural32 document node) }
    else if name = "server" then do
      return { fields with server := ← (serverSection document).readNode document {} node }
    else do
      return { fields with player := some (← readPlayer document node) }

def ofDocument (document : Yaml.Document) : Except Fault Config := do
  let fields ← (wholeSection document).readNode document {} document.root
  let version ← require "version" fields.version
  let player ← require "player" fields.player
  if document.complete then return ⟨version, fields.server, player⟩ else .error .notYaml

def read (text : String) : Except Error Config := do
  let config ← (ofDocument (Yaml.Document.read text)).mapError Fault.toError
  config.validate
  return config

/-- What a file gives. -/
inductive Source where
  | absent
  | bytes (bytes : ByteArray)

/-- Read the configuration of a file.  The file has to be there and to hold
UTF-8. -/
def ofSource (path : String) (source : Source) : Except Error Config :=
  match source with
  | .absent =>
      .error (.invalidConfig s!"read {path} failed: No such file or directory (os error 2)")
  | .bytes bytes =>
      match String.fromUTF8? bytes with
      | some text => read text
      | none => .error (.invalidConfig s!"read {path} failed: stream did not contain valid UTF-8")

end Config
end CardTable
