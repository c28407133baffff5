import CardTable.Error
import CardTable.Json.Reader
import CardTable.Json.Writer

namespace CardTable

/-!
# Frames from the server

A frame is one JSON object whose field `type` says what it carries.  A type
that is not known, or is no string, makes a frame that is noted and left alone.
A known type with a field missing, or of the wrong kind, makes the whole frame
malformed.
-/

/-- The details of a card.  Flags and tags are lists of words, as the server
spells them. -/
structure Card where
  url : String
  title : String
  value : String
  flags : String
  tags : String
  deriving DecidableEq, Repr

inductive Frame where
  /-- A line of chat or of the game log. -/
  | message (data : String)
  /-- The hand and the play area, drawn anew. -/
  | update (hand play : String)
  /-- The answer to a request to inspect a card. -/
  | inspect (card : Card)
  /-- The server waits until the player picks an option. -/
  | choices (options : List String)
  /-- Any other type, or none. -/
  | unknown (kind : Option String)
  deriving DecidableEq, Repr

namespace Frame

inductive Fault where
  | notJson (fault : Json.Fault)
  | notObject
  | missingField (kind field : String)
  | wrongType (kind : String) (found : Json.Value) (expected : String)
  deriving Repr

/-- A value as a message calls it. -/
def describe : Json.Value -> String
  | .null => "null"
  | .bool value => s!"boolean `{value}`"
  | .number (.whole value) => s!"integer `{String.ofList (Json.writeNumber (.whole value))}`"
  | .number value => s!"floating point `{String.ofList (Json.writeNumber value)}`"
  | .string text => s!"string {Text.quoted text}"
  | .array _ => "sequence"
  | .object _ => "map"

namespace Fault

def message : Fault -> String
  | notJson fault => s!"invalid json: {fault.message}"
  | notObject => "frame is not a json object"
  | missingField kind field => s!"{kind}: missing field `{field}`"
  | wrongType kind found expected => s!"{kind}: invalid type: {describe found}, expected {expected}"

def toError (fault : Fault) : Error :=
  .malformedFrame fault.message

end Fault

/-- Display text carried by a field: a string as it is, any other value as its
compact text. -/
def fragment : Json.Value -> String
  | .string text => text
  | value => value.text

/-- The display text of a field that the type requires. -/
def field (kind : String) (members : Json.Members) (name : String) : Except Fault String :=
  match members.get? name with
  | some value => .ok (fragment value)
  | none => .error (.missingField kind name)

def options (kind : String) : List Json.Value -> Except Fault (List String)
  | [] => .ok []
  | .string text :: rest => (options kind rest).map (text :: ·)
  | value :: _ => .error (.wrongType kind value "a string")

/-- What an object carries.  Fields are looked up in the order in which a
missing one is reported. -/
def ofMembers (members : Json.Members) : Except Fault Frame :=
  match members.get? "type" with
  | some (.string "message") => do
      return .message (← field "message" members "data")
  | some (.string "update") => do
      let hand ← field "update" members "hand"
      let play ← field "update" members "play"
      return .update hand play
  | some (.string "inspect") => do
      let url ← field "inspect" members "url"
      let title ← field "inspect" members "title"
      let value ← field "inspect" members "value"
      let flags ← field "inspect" members "flags"
      let tags ← field "inspect" members "tags"
      return .inspect ⟨url, title, value, flags, tags⟩
  | some (.string "choices") =>
      match members.get? "choices" with
      | some (.array items) => (options "choices" items).map .choices
      | some value => .error (.wrongType "choices" value "a sequence")
      | none => .error (.missingField "choices" "choices")
  | some (.string kind) => .ok (.unknown (some kind))
  | _ => .ok (.unknown none)

def read (raw : String) : Except Fault Frame :=
  match Json.read raw with
  | .error fault => .error (.notJson fault)
  | .ok (.object members) => ofMembers members
  | .ok _ => .error .notObject

end Frame
end CardTable
