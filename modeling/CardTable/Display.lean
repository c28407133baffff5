import CardTable.Frame
import CardTable.Log
import CardTable.Markup

namespace CardTable

/-!
# What is displayed

The client says what to display, a display decides how.  A terminal writes
plain lines.  A display with no treatment of its own for text from the server
shows it as a line behind a mark.
-/

inductive Shown where
  /-- A line of the client's own. -/
  | line (text : String)
  /-- Text from the server, which may carry markup. -/
  | received (text : String)
  /-- The hand and the play area, drawn anew. -/
  | update (hand play : String)
  | inspect (card : Card)
  deriving DecidableEq, Repr

namespace Shown

/-- A typed line that was accepted. -/
def echo (line : String) : Shown :=
  .line (">>> " ++ line)

/-- A text of the client for the player. -/
def info (text : String) : Shown :=
  .line ("%%% " ++ text)

/-- The state of the connection. -/
def status (text : String) : Shown :=
  .line ("### " ++ text)

def receivedLine (text : String) : String :=
  "<<< " ++ text

/-- Text from the server as a line, and everything else as it is. -/
def labelled : Shown -> Shown
  | received text => .line (receivedLine text)
  | other => other

end Shown

namespace Terminal

/-- The lines of a card.  Flags and tags are left out when there are none. -/
def cardLines (card : Card) : List String :=
  [s!"### {Markup.plain card.title} (value {card.value})"] ++
    (if card.flags.isEmpty then [] else [s!"    flags: {card.flags}"]) ++
    (if card.tags.isEmpty then [] else [s!"    tags:  {card.tags}"]) ++
    [s!"    image: {card.url}"]

def lines : Shown -> List String
  | .line text => [text]
  | .received text => [Shown.receivedLine (Markup.plain text)]
  | .update hand play => ["### hand", Markup.plain hand, "### play", Markup.plain play]
  | .inspect card => cardLines card

def text (shown : List Shown) : String :=
  String.join ((shown.flatMap lines).map (· ++ "\n"))

section Text

variable (line data : String) (card : Card)

theorem text_line : text [.line line] = line ++ "\n" := by
  simp only [text, lines, List.flatMap_singleton, List.map_cons, List.map_nil, String.join_cons,
    String.join_nil, String.append_empty]

theorem text_received : text [.received data] = "<<< " ++ Markup.plain data ++ "\n" :=
  text_line _

theorem text_update (hand play : String) :
    text [.update hand play] =
      "### hand\n" ++ Markup.plain hand ++ "\n### play\n" ++ Markup.plain play ++ "\n" := by
  have seam : "\n### play\n" = "\n" ++ "### play\n" := rfl
  simp only [text, lines, List.flatMap_singleton, List.map_cons, List.map_nil, String.join_cons,
    String.join_nil, String.append_empty, String.append_assoc, seam]
  rfl

theorem text_inspect :
    text [.inspect card] =
      "### " ++ Markup.plain card.title ++ " (value " ++ card.value ++ ")\n" ++
        String.join ((cardLines card).tail.map (· ++ "\n")) := by
  have seam : ")\n" = ")" ++ "\n" := rfl
  simp only [text, lines, List.flatMap_singleton, cardLines, List.cons_append, List.nil_append,
    List.map_cons, List.tail_cons, String.join_cons, seam, String.append_assoc]
  rfl

end Text

/-- The records of a terminal to which nothing can be written.  Each line fails
by itself. -/
def failures (detail : String) (shown : List Shown) : List Record :=
  (shown.flatMap lines).map fun _ => .writeFailed detail

end Terminal
end CardTable
