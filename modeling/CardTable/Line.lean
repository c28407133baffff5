import CardTable.Error
import CardTable.Text.Run

namespace CardTable

/-!
# Typed lines

A typed line is cut into pieces, scanned from left to right: blanks, bare runs,
quoted spans, and quotes without a partner.  Bare runs and the insides of
quoted spans are the tokens.  A quote without a partner separates tokens as a
blank does.  An empty quoted span is refused.
-/

namespace Line

/-- The six blanks that separate tokens.  All are ASCII: a blank from beyond
ASCII belongs to a token. -/
def isBlank (c : Char) : Bool :=
  c = ' ' || c = '\t' || c = '\n' || c = '\x0b' || c = '\x0c' || c = '\r'

def isQuote (c : Char) : Bool :=
  c = Text.doubleQuote || c = Text.singleQuote

def isBare (c : Char) : Bool :=
  !isBlank c && !isQuote c

inductive Piece where
  | blank (c : Char)
  /-- A run of characters that are neither blanks nor quotes. -/
  | bare (text : List Char)
  /-- The characters between two quotes of one kind. -/
  | span (mark : Char) (text : List Char)
  /-- A quote with no quote of its kind after it. -/
  | stray (mark : Char)
  deriving DecidableEq, Repr

def pieces : List Char -> List Piece
  | [] => []
  | c :: rest =>
      if isBlank c then .blank c :: pieces rest
      else if isQuote c then
        match _ : rest.dropWhile (· ≠ c) with
        | [] => .stray c :: pieces rest
        | _ :: after => .span c (rest.takeWhile (· ≠ c)) :: pieces after
      else .bare (c :: rest.takeWhile isBare) :: pieces (rest.dropWhile isBare)
termination_by line => line.length
decreasing_by
  · simp
  · simp
  · rename_i closing
    have shorter := Text.length_dropWhile_le (fun d => decide (d ≠ c)) rest
    simp only [closing, List.length_cons] at shorter ⊢
    omega
  · have shorter := Text.length_dropWhile_le isBare rest
    simp only [List.length_cons]
    omega

/-- The tokens of the pieces, in order.  The first empty span is the error. -/
def tokensOf : List Piece -> Except Error (List String)
  | [] => .ok []
  | .blank _ :: rest => tokensOf rest
  | .stray _ :: rest => tokensOf rest
  | .bare text :: rest => (tokensOf rest).map (String.ofList text :: ·)
  | .span mark [] :: _ => .error (.tokenize (String.ofList [mark, mark]))
  | .span _ text :: rest => (tokensOf rest).map (String.ofList text :: ·)

def tokenize (line : String) : Except Error (List String) :=
  tokensOf (pieces line.toList)

end Line
end CardTable
