namespace CardTable
namespace Yaml

/-!
# Text with positions

Where a character stands decides what it means: columns make the nesting of a
YAML text, and a key has to end on the line on which it starts.  So each
character is kept in a cell with its line and column.  All spellings of a line
break but two become one character, and a mark that no text holds comes last.
-/

structure Cell where
  char : Char
  line : Nat
  column : Nat
  deriving DecidableEq, Repr

/-- The mark behind the last character. -/
def endMark : Char := '\x00'

/-- The character that may stand unseen at the start of a line. -/
def lineMark : Char := '\ufeff'

/-- A character that a YAML text may hold. -/
def isAllowed (c : Char) : Bool :=
  c = '\t' || c = '\n' || c = '\r' || (0x20 ≤ c.toNat && c.toNat ≤ 0x7e) || c.toNat = 0x85 ||
    (0xa0 ≤ c.toNat && c.toNat ≤ 0xfffd) || 0x10000 ≤ c.toNat

/-- A line break, in any spelling of one character. -/
def endsLine (c : Char) : Bool :=
  c = '\n' || c = '\r' || c = '\u0085' || c = '\u2028' || c = '\u2029'

/-- A line break as it is kept.  The two that separate lines and paragraphs of
prose keep their spelling. -/
def kept (c : Char) : Char :=
  if c = '\r' || c = '\u0085' then '\n' else c

/-- The cells of the rest of a text. -/
def cellsFrom (line column : Nat) : List Char -> List Cell
  | [] => [⟨endMark, line, column⟩]
  | '\r' :: '\n' :: rest => ⟨'\n', line, column⟩ :: cellsFrom (line + 1) 0 rest
  | c :: rest =>
      if endsLine c then ⟨kept c, line, column⟩ :: cellsFrom (line + 1) 0 rest
      else ⟨c, line, column⟩ :: cellsFrom line (column + 1) rest

/-- The cells of a text, unless it holds a character that it may not hold. -/
def cells? (text : String) : Option (List Cell) :=
  if text.toList.all isAllowed then some (cellsFrom 0 0 text.toList) else none

def isBlank (c : Char) : Bool :=
  c = ' ' || c = '\t'

def isBreak (c : Char) : Bool :=
  c = '\n' || c = '\u2028' || c = '\u2029'

/-- A line break or the end. -/
def isLineEnd (c : Char) : Bool :=
  isBreak c || c = endMark

/-- A blank, a line break or the end. -/
def isSpace (c : Char) : Bool :=
  isBlank c || isLineEnd c

def isWordCharacter (c : Char) : Bool :=
  c.isAlphanum || c = '_' || c = '-'

def peek (cells : List Cell) (distance : Nat) : Char :=
  match cells[distance]? with
  | some cell => cell.char
  | none => endMark

/-- A line of three dashes or three points, alone or with a space behind. -/
def startsMarker (mark : Char) (cells : List Cell) : Bool :=
  match cells with
  | first :: second :: third :: rest =>
      first.column = 0 && first.char = mark && second.char = mark && third.char = mark &&
        isSpace (peek rest 0)
  | _ => false

def startsDocumentMarker (cells : List Cell) : Bool :=
  startsMarker '-' cells || startsMarker '.' cells

def run (p : Char -> Bool) (cells : List Cell) : List Char :=
  (cells.takeWhile (p ·.char)).map Cell.char

def after (p : Char -> Bool) (cells : List Cell) : List Cell :=
  cells.dropWhile (p ·.char)

/-- The cells behind the blanks and the comment at the end of a line; the line
break is still there. -/
def skipComment (cells : List Cell) : List Cell :=
  let rest := after isBlank cells
  if peek rest 0 = '#' then after (!isLineEnd ·) rest else rest

end Yaml
end CardTable
