import CardTable.Text.Numeral
import CardTable.Yaml.Cell

namespace CardTable
namespace Yaml

/-!
# Scalars that run on over lines

Plain and quoted scalars may go on on the next line.  The space between two
words is then folded: one line break becomes a space, and of several the first
one is dropped.
-/

/-- The space since the last character of a scalar. -/
inductive Gap where
  | empty
  /-- Blanks on one line, last one first. -/
  | blanks (reversed : List Char)
  /-- Line breaks: the first one, unless it was escaped, and the others, last
  one first. -/
  | breaks (first : Option Char) (reversed : List Char)
  deriving DecidableEq, Repr

namespace Gap

def hasBreak : Gap -> Bool
  | breaks _ _ => true
  | _ => false

/-- The gap with one more blank or line break.  Blanks around line breaks do
not count. -/
def add (gap : Gap) (c : Char) : Gap :=
  match gap with
  | breaks first reversed => breaks first (if isBreak c then c :: reversed else reversed)
  | blanks reversed => if isBreak c then breaks (some c) [] else blanks (c :: reversed)
  | empty => if isBreak c then breaks (some c) [] else blanks [c]

/-- What the gap stands for, last character first. -/
def folded : Gap -> List Char
  | empty => []
  | blanks reversed => reversed
  | breaks none reversed => reversed
  | breaks (some first) reversed =>
      if first = '\n' then (if reversed.isEmpty then [' '] else reversed)
      else reversed ++ [first]

end Gap

namespace Plain

/-- A plain scalar ends before these characters in a flow collection. -/
def isFlowIndicator (c : Char) : Bool :=
  [',', '[', ']', '\x7b', '\x7d'].contains c

/-- Behind a gap, a plain scalar ends where a line comes too far out, at a line
between documents, and at a comment. -/
def endsAfter (inFlow : Bool) (indent : Int) (gap : Gap) (cell : Cell) (rest : List Cell) : Bool :=
  gap ≠ .empty &&
    ((!inFlow && decide ((cell.column : Int) < indent)) || startsDocumentMarker (cell :: rest) ||
      cell.char = '#')

/-- A plain scalar ends before a colon with space behind it, at the end, and in
a flow collection before an indicator. -/
def endsAt (inFlow : Bool) (cell : Cell) (rest : List Cell) : Bool :=
  cell.char = endMark || (cell.char = ':' && isSpace (peek rest 0)) ||
    (inFlow && isFlowIndicator cell.char)

/-- Read on in a plain scalar.  Gives the text, whether a line break comes
behind it, and the cells from its end on. -/
def readFrom? (inFlow : Bool) (indent : Int) (gap : Gap) (reversed : List Char) :
    List Cell -> Option (List Char × Bool × List Cell)
  | [] => some (reversed.reverse, gap.hasBreak, [])
  | cell :: rest =>
      if isBlank cell.char && gap.hasBreak && cell.char = '\t' && (cell.column : Int) < indent then
        none
      else if isBlank cell.char || isBreak cell.char then
        readFrom? inFlow indent (gap.add cell.char) reversed rest
      else if endsAfter inFlow indent gap cell rest then
        some (reversed.reverse, gap.hasBreak, cell :: rest)
      else if inFlow && cell.char = ':' &&
          (peek rest 0 = '?' || isFlowIndicator (peek rest 0)) then none
      else if endsAt inFlow cell rest then some (reversed.reverse, gap.hasBreak, cell :: rest)
      else readFrom? inFlow indent .empty (cell.char :: (gap.folded ++ reversed)) rest

end Plain

namespace Quoted

/-- The characters with an escape of one letter. -/
def escapes : List (Char × Char) :=
  [('0', '\x00'), ('a', '\x07'), ('b', '\x08'), ('t', '\t'), ('\t', '\t'), ('n', '\n'),
    ('v', '\x0b'), ('f', '\x0c'), ('r', '\r'), ('e', '\x1b'), (' ', ' '), ('\x22', '\x22'),
    ('/', '/'), ('\\', '\\'), ('N', '\u0085'), ('_', '\u00a0'), ('L', '\u2028'), ('P', '\u2029')]

/-- The number of hexadecimal digits behind the other letters. -/
def digits? (c : Char) : Option Nat :=
  if c = 'x' then some 2 else if c = 'u' then some 4 else if c = 'U' then some 8 else none

inductive Inside where
  /-- Text, behind a gap. -/
  | text (gap : Gap)
  | escape
  /-- One more digit than this many, of a number of which a part is known. -/
  | digit (left value : Nat)
  /-- The second one of two single quotes. -/
  | second
  deriving DecidableEq, Repr

/-- Read on in a quoted scalar.  Gives the text and the cells behind the
closing quote. -/
def readFrom? (single : Bool) (inside : Inside) (reversed : List Char) :
    List Cell -> Option (List Char × List Cell)
  | [] => none
  | cell :: rest =>
      match inside with
      | .second => readFrom? single (.text .empty) (cell.char :: reversed) rest
      | .escape =>
          if isBreak cell.char then readFrom? single (.text (.breaks none [])) reversed rest
          else
            match digits? cell.char, escapes.lookup cell.char with
            | some count, _ => readFrom? single (.digit (count - 1) 0) reversed rest
            | none, some c => readFrom? single (.text .empty) (c :: reversed) rest
            | none, none => none
      | .digit left value =>
          match Text.digitIn? 16 cell.char, left with
          | none, _ => none
          | some digit, left + 1 =>
              readFrom? single (.digit left (16 * value + digit)) reversed rest
          | some digit, 0 =>
              if (16 * value + digit).isValidChar then
                readFrom? single (.text .empty) (Char.ofNat (16 * value + digit) :: reversed) rest
              else none
      | .text gap =>
          if cell.char = endMark || startsDocumentMarker (cell :: rest) then none
          else if isBlank cell.char || isBreak cell.char then
            readFrom? single (.text (gap.add cell.char)) reversed rest
          else if single && cell.char = '\x27' then
            if peek rest 0 = '\x27' then readFrom? single .second (gap.folded ++ reversed) rest
            else some ((gap.folded ++ reversed).reverse, rest)
          else if !single && cell.char = '\x22' then some ((gap.folded ++ reversed).reverse, rest)
          else if !single && cell.char = '\\' then
            readFrom? single .escape (gap.folded ++ reversed) rest
          else readFrom? single (.text .empty) (cell.char :: (gap.folded ++ reversed)) rest

end Quoted
end Yaml
end CardTable
