import CardTable.Error
import CardTable.Json.Writer

namespace CardTable

/-!
# Requests to the server

A request is one JSON object: the command word, the player who asks, and the
fields of the command, in this order.
-/

inductive Request where
  /-- Move the card at `index` of area `src` to area `dst`. -/
  | move (caller src : String) (index : UInt32) (dst : String)
  /-- End the caller's turn. -/
  | endTurn (caller comment : String)
  /-- Ask for the card at `index` of an area. -/
  | inspect (caller area : String) (index : UInt32)
  /-- Answer a pending choice; options count from one. -/
  | choose (caller : String) (which : UInt64)
  /-- Say something; a request without a message has no such field. -/
  | say (caller : String) (message : Option String)
  deriving DecidableEq, Repr

namespace Request

def command : Request -> String
  | move _ _ _ _ => "move"
  | endTurn _ _ => "end"
  | inspect _ _ _ => "inspect"
  | choose _ _ => "choose"
  | say _ _ => "say"

def caller : Request -> String
  | move caller _ _ _ => caller
  | endTurn caller _ => caller
  | inspect caller _ _ => caller
  | choose caller _ => caller
  | say caller _ => caller

def fields : Request -> List (String × Json.Value)
  | move _ src index dst =>
      [("src", .string src), ("index", .number (.whole index.toNat)), ("dst", .string dst)]
  | endTurn _ comment => [("comment", .string comment)]
  | inspect _ area index => [("area", .string area), ("index", .number (.whole index.toNat))]
  | choose _ which => [("which", .number (.whole which.toNat))]
  | say _ none => []
  | say _ (some message) => [("msg", .string message)]

/-- All members of the object, in the order in which they are sent. -/
def members (request : Request) : List (String × Json.Value) :=
  ("cmd", .string request.command) :: ("caller", .string request.caller) :: request.fields

/-- The text that is put on the channel. -/
def wire (request : Request) : String :=
  String.ofList ('\x7b' :: Json.writeMembers request.members)

end Request

/-- An index argument: decimal digits with at most one plus sign in front, of a
value below `2 ^ 32`. -/
def readIndex (raw : String) : Except Error UInt32 :=
  match Text.naturalBelow? (Nat.pow 2 32) raw.toList with
  | some index => .ok (UInt32.ofNat index)
  | none => .error (.badIndex raw)

end CardTable
