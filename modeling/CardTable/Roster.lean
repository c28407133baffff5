namespace CardTable

/-!
# Players in the game

The server sets every player name that it renders between two fixed texts.
The roster is read off the rendered play area: a name counts when it is not
empty, has no angle bracket that opens a tag, and stands between those texts.
-/

structure Roster where
  players : List String := []
  deriving DecidableEq, Repr

namespace Roster

/-- What the server sets before a player name. -/
def opening : List Char :=
  "<span class=\x22playerName\x22>".toList

/-- What the server sets after a player name. -/
def closing : List Char :=
  "</span>".toList

/-- A player name as the server renders it. -/
def mark (name : String) : List Char :=
  opening ++ (name.toList ++ closing)

theorem length_mark_pos (name : String) : 0 < (mark name).length := by
  rw [mark, List.length_append]
  exact Nat.add_pos_left (by decide) _

/-- The player name with which a text starts, when it is marked as one. -/
def nameAt? (text : List Char) : Option String :=
  match opening.isPrefixOf? text with
  | none => none
  | some rest =>
      let name := rest.takeWhile (· ≠ '<')
      if !name.isEmpty && closing.isPrefixOf (rest.dropWhile (· ≠ '<')) then
        some (String.ofList name)
      else none

/-- The marked names that a scan from left to right comes upon.  Behind a mark
the scan goes on where the mark ends. -/
def names : List Char -> List String
  | [] => []
  | c :: rest =>
      match nameAt? (c :: rest) with
      | some name => name :: names ((c :: rest).drop (mark name).length)
      | none => names rest
termination_by text => text.length
decreasing_by
  · have positive := length_mark_pos name
    rw [List.length_drop, List.length_cons]
    omega
  · rw [List.length_cons]
    exact Nat.lt_succ_self _

def ofPlay (play : String) : Roster :=
  ⟨names play.toList⟩

def isActive (roster : Roster) (name : String) : Bool :=
  roster.players.contains name

end Roster
end CardTable
