import CardTable.Outcome
import CardTable.Roster
import CardTable.Session

namespace CardTable

/-!
# What a command line asks for

With no choice pending, the first token of a line is a command word and the
other tokens are its arguments.
-/

namespace Command

def usageHint (command : Command) : Outcome :=
  .hint s!"Not enough arguments: {command.usage}"

/-- The answer to a wrong number of arguments. -/
def miscounted (command : Command) (expected : Nat) (arguments : List String) : Outcome :=
  if expected < arguments.length then
    .failure (.tooManyArguments command arguments.length expected)
  else command.usageHint

def moving (player src index dst : String) : Outcome :=
  .ofExcept ((readIndex index).map fun value => .send (.move player src value dst))

/-- Where a played card goes.  A bare name of a player in the game stands for
the play area of that player. -/
def playTarget (roster : Roster) (dst : String) : String :=
  if !dst.toList.contains '.' && roster.isActive dst then dst ++ ".play" else dst

/-- Help on the commands that the words name, or an overview without words. -/
def helpText (words : List String) : String :=
  if words.isEmpty then
    "Commands available:" ++ String.join (all.map fun command => "\n - " ++ command.usage)
  else
    match words.filterMap ofWord? with
    | [] => "No help available for: " ++ String.intercalate " " words
    | known => String.intercalate "\n" (known.map fun command =>
        command.usage ++ "\n - " ++ command.details)

/-- Ask to see a card.  The area `hand` stands for the player's own hand. -/
def inspecting (identity : Identity) : List String -> Outcome
  | [area, index] =>
      let place := if area = "hand" then identity.hand else area
      .ofExcept ((readIndex index).map fun value => .send (.inspect identity.player place value))
  | arguments => miscounted inspect 2 arguments

def resolve (identity : Identity) (roster : Roster) : Command -> List String -> Outcome
  | help, words => .info (helpText words)
  | draw, [] => .send (.move identity.player "drawpile" 1 identity.hand)
  | draw, arguments => miscounted draw 0 arguments
  | play, [index, dst] => moving identity.player identity.hand index (playTarget roster dst)
  | play, arguments => miscounted play 2 arguments
  | endTurn, words => .send (.endTurn identity.player (String.intercalate " " words))
  | inspect, arguments => inspecting identity arguments
  | discard, [area, index] => moving identity.player area index "discard"
  | discard, arguments => miscounted discard 2 arguments
  | move, [src, index, dst] => moving identity.player src index dst
  | move, arguments => miscounted move 3 arguments
  | say, [] => .send (.say identity.player none)
  | say, words => .send (.say identity.player (some (String.intercalate " " words)))

def resolveWord (identity : Identity) (roster : Roster) (word : String)
    (arguments : List String) : Outcome :=
  match ofWord? word with
  | some command => resolve identity roster command arguments
  | none => .failure (.unknownCommand word)

end Command
end CardTable
