import CardTable.Error
import CardTable.Text.Lowercase

namespace CardTable

/-!
# Who plays, and where

An identity is a player name and the name of the room.  The player name is
brought to lower case before it is judged; the room name is taken as it is.
-/

structure Identity where
  player : String
  room : String
  deriving DecidableEq, Repr

namespace Identity

def isPlayerLetter (c : Char) : Bool :=
  c.isLower

def isPlayerName (name : List Char) : Bool :=
  !name.isEmpty && name.all isPlayerLetter

/-- The rest of a room name.  At the start of a word a letter or digit has to
follow; inside a word a dash may follow as well, or the end. -/
def isRoomRest (startOfWord : Bool) : List Char -> Bool
  | [] => !startOfWord
  | c :: rest =>
      if c.isAlphanum then isRoomRest false rest
      else c = '-' && !startOfWord && isRoomRest true rest

/-- Words of ASCII letters and digits with single dashes between them. -/
def isRoomName (name : List Char) : Bool :=
  isRoomRest true name

/-- Judge a pair of names.  The player name is judged first. -/
def create (player room : String) : Except Error Identity :=
  let name := Text.lower player
  if !isPlayerName name.toList then
    .error (.invalidConfig
      s!"player name {Text.quoted name} is invalid: use lowercase letters only")
  else if !isRoomName room.toList then
    .error (.invalidConfig
      s!"room name {Text.quoted room} is invalid: use letters, digits and single dashes")
  else .ok ⟨name, room⟩

/-- The identity of a session in which nobody has logged in. -/
def nobody : Identity :=
  ⟨"nonexistent", ""⟩

/-- The address of the player's own hand. -/
def hand (identity : Identity) : String :=
  identity.player ++ ".hand"

end Identity
end CardTable
