import CardTable.Yaml.Cell

namespace CardTable
namespace Yaml

/-!
# Block scalars

A block scalar is a run of lines that stand further in than what they belong
to.  A literal one keeps its line breaks.  A folded one joins lines, except
where a line starts with a blank.  A header says which line breaks at the end
are kept, and how far in the lines stand; without a number the first line that
is not empty says so.
-/

namespace Block

/-- What becomes of the line breaks at the end. -/
inductive Chomp where
  | strip
  /-- The first one is kept. -/
  | clip
  | keep
  deriving DecidableEq, Repr

structure Header where
  chomp : Chomp := .clip
  /-- How much further in the lines stand, if the header says so. -/
  increment : Option Nat := none
  deriving DecidableEq, Repr

/-- Read a sign of the header if there is one. -/
def readChomp (header : Header) (cells : List Cell) : Header × List Cell :=
  if peek cells 0 = '+' then ({ header with chomp := .keep }, cells.drop 1)
  else if peek cells 0 = '-' then ({ header with chomp := .strip }, cells.drop 1)
  else (header, cells)

/-- Read a number of the header if there is one.  It may not be zero. -/
def readIncrement? (header : Header) (cells : List Cell) : Option (Header × List Cell) :=
  let c := peek cells 0
  if c = '0' then none
  else if c.isDigit then some ({ header with increment := some (c.toNat - 48) }, cells.drop 1)
  else some (header, cells)

def readHeader? (cells : List Cell) : Option (Header × List Cell) := do
  let (signed, rest) := readChomp {} cells
  let (numbered, rest) ← readIncrement? signed rest
  let (header, rest) := if signed = {} then readChomp numbered rest else (numbered, rest)
  let rest := skipComment rest
  if isBreak (peek rest 0) then return (header, rest.drop 1)
  else if peek rest 0 = endMark then return (header, rest)
  else none

structure State where
  /-- The column of the lines, once it is known. -/
  indent : Option Nat
  /-- The greatest column of the lines so far, as long as none had text. -/
  deepest : Nat := 0
  /-- The break at the end of the last line with text. -/
  lineBreak : List Char := []
  /-- The breaks of the empty lines behind it, last one first. -/
  empties : List Char := []
  /-- The last line with text started with a blank. -/
  afterBlank : Bool := false
  /-- The text so far, last character first. -/
  reversed : List Char := []
  /-- A line with text is being read. -/
  inLine : Bool := false
  deriving DecidableEq, Repr

namespace State

/-- A column where a line may still go further in. -/
def isMargin (state : State) (column : Nat) : Bool :=
  match state.indent with
  | none => true
  | some indent => column < indent

/-- The column of the lines: that of the deepest one so far, but further in
than the surroundings. -/
def column (state : State) (outer : Int) : Nat :=
  match state.indent with
  | some indent => indent
  | none => max (max state.deepest (outer + 1).toNat) 1

def start (state : State) (folded : Bool) (c : Char) : State :=
  let joined := folded && state.lineBreak = ['\n'] && !state.afterBlank && !isBlank c
  let between :=
    if joined then (if state.empties.isEmpty then [' '] else state.empties)
    else state.empties ++ state.lineBreak
  { state with
    lineBreak := []
    empties := []
    afterBlank := isBlank c
    reversed := c :: (between ++ state.reversed)
    inLine := true }

/-- The text with the breaks at its end that are kept. -/
def text (state : State) (chomp : Chomp) : List Char :=
  match chomp with
  | .strip => state.reversed.reverse
  | .clip => state.reversed.reverse ++ state.lineBreak
  | .keep => state.reversed.reverse ++ state.lineBreak ++ state.empties.reverse

end State

/-- Read on in the lines.  `outer` is the column of the surroundings. -/
def linesFrom? (folded : Bool) (outer : Int) (state : State) :
    List Cell -> Option (State × List Cell)
  | [] => some (state, [])
  | cell :: rest =>
      if state.inLine then
        if cell.char = endMark then some (state, cell :: rest)
        else if isBreak cell.char then
          linesFrom? folded outer { state with lineBreak := [cell.char], inLine := false } rest
        else linesFrom? folded outer { state with reversed := cell.char :: state.reversed } rest
      else if cell.char = ' ' && state.isMargin cell.column then
        linesFrom? folded outer state rest
      else if cell.char = '\t' && state.isMargin cell.column then none
      else
        let measured := { state with deepest := max state.deepest cell.column }
        if isBreak cell.char then
          linesFrom? folded outer { measured with empties := cell.char :: state.empties } rest
        else
          let settled := { measured with indent := some (measured.column outer) }
          if cell.column = measured.column outer && cell.char ≠ endMark then
            linesFrom? folded outer (settled.start folded cell.char) rest
          else some (settled, cell :: rest)

def read? (folded : Bool) (outer : Int) (cells : List Cell) : Option (List Char × List Cell) := do
  let (header, rest) ← readHeader? cells
  let indent := header.increment.map fun increment =>
    if outer < 0 then increment else outer.toNat + increment
  let (state, rest) ← linesFrom? folded outer { indent := indent } rest
  return (state.text header.chomp, rest)

end Block
end Yaml
end CardTable
