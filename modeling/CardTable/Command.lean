namespace CardTable

/-!
# The commands of the table

A command word is looked up by its name or, for most commands, by its first
letter.  Case does not matter for the ASCII letters; no other letter is folded.
-/

/-- The commands a player can type, in the order in which help lists them. -/
inductive Command where
  | help
  | draw
  | play
  | endTurn
  | inspect
  | discard
  | move
  | say
  deriving DecidableEq, Repr

namespace Command

/-- Every command, in help order. -/
def all : List Command :=
  [help, draw, play, endTurn, inspect, discard, move, say]

def name : Command -> String
  | help => "help"
  | draw => "draw"
  | play => "play"
  | endTurn => "end"
  | inspect => "inspect"
  | discard => "discard"
  | move => "move"
  | say => "say"

/-- The word with its arguments, as help shows it. -/
def usage : Command -> String
  | help => "help [command]"
  | draw => "draw"
  | play => "play index dst"
  | endTurn => "end [comment]"
  | inspect => "inspect area index"
  | discard => "discard area index"
  | move => "move src index dst"
  | say => "say [message]"

def details : Command -> String
  | help => "Display the available commands, or help on specific commands."
  | draw => "Draw a single card from the deck to your hand."
  | play => "Play the card at `index` in your hand to `dst`."
  | endTurn => "End your turn."
  | inspect => "Display the card in `area` at `index` in the inspect window."
  | discard => "Discard the card in `area` at `index`."
  | move => "Move the card in `src` at `index` to `dst`."
  | say => "Say something in chat for everyone to see."

/-- The one-letter word, for the commands that have one. -/
def shorthand? : Command -> Option String
  | help => some "h"
  | draw => some "d"
  | play => some "p"
  | endTurn => some "e"
  | inspect => some "i"
  | discard => none
  | move => some "m"
  | say => some "s"

/-- A word with its ASCII letters in lower case. -/
def folded (word : String) : String :=
  word.map Char.toLower

def ofWord? (word : String) : Option Command :=
  all.find? fun command =>
    command.name == folded word || command.shorthand? == some (folded word)

end Command
end CardTable
