import CardTable.Yaml.Block
import CardTable.Yaml.Flow
import CardTable.Yaml.Property

namespace CardTable
namespace Yaml

/-!
# From cells to tokens

The tokens of a text are found one after the other, but a key is known as such
only at the colon behind it.  So tokens wait in a queue as long as the first of
them may still turn out to be a key, and leave the queue in order.

A text may be wrong at some place.  The tokens that have left the queue by then
stand, and nothing comes after them.
-/

/-- A place where a key may have started. -/
structure Candidate where
  /-- The number of the token that the key would start with. -/
  number : Nat
  line : Nat
  column : Nat
  /-- The number of flow collections around it. -/
  level : Nat
  /-- The line makes no sense without a key. -/
  required : Bool
  deriving DecidableEq, Repr

structure Scan where
  cells : List Cell
  /-- Tokens that wait, first one first. -/
  queue : List Token := []
  /-- The number of tokens that have left the queue. -/
  released : Nat := 0
  /-- The number of open flow collections. -/
  level : Nat := 0
  /-- At most one candidate of each level, innermost first. -/
  candidates : List Candidate := []
  /-- The column of the innermost block; -1 outside all blocks. -/
  indent : Int := -1
  /-- The columns of the blocks around it. -/
  outer : List Int := []
  /-- A key may start here. -/
  keyAllowed : Bool := true
  started : Bool := false
  finished : Bool := false
  deriving Repr

namespace Scan

def inFlow (scan : Scan) : Bool :=
  decide (0 < scan.level)

def column (scan : Scan) : Nat :=
  match scan.cells with
  | cell :: _ => cell.column
  | [] => 0

def line (scan : Scan) : Nat :=
  match scan.cells with
  | cell :: _ => cell.line
  | [] => 0

def push (scan : Scan) (token : Token) : Scan :=
  { scan with queue := scan.queue ++ [token] }

/-- Put a token before the one with the given number. -/
def insert (scan : Scan) (number : Nat) (token : Token) : Scan :=
  let place := number - scan.released
  { scan with queue := scan.queue.take place ++ token :: scan.queue.drop place }

def drop (scan : Scan) (count : Nat) : Scan :=
  { scan with cells := scan.cells.drop count }

/-! ## Candidates for keys -/

/-- A candidate is stale on a later line and behind too long a text. -/
def isStale (scan : Scan) (candidate : Candidate) : Bool :=
  candidate.line < scan.line || candidate.column + 1024 < scan.column

/-- Give up stale candidates.  A required one may not be given up. -/
def dropStale? (scan : Scan) : Option Scan :=
  let (stale, kept) := scan.candidates.partition scan.isStale
  if stale.any (·.required) then none else some { scan with candidates := kept }

/-- The candidate of the innermost collection, and those of the others. -/
def splitCandidates (scan : Scan) : Option Candidate × List Candidate :=
  match scan.candidates with
  | candidate :: rest =>
      if candidate.level = scan.level then (some candidate, rest) else (none, candidate :: rest)
  | [] => (none, [])

/-- Give up the candidate of the innermost collection. -/
def dropCandidate? (scan : Scan) : Option Scan :=
  let (candidate, others) := scan.splitCandidates
  if candidate.any (·.required) then none else some { scan with candidates := others }

/-- Take the next token for the start of a key, if one may start here. -/
def saveCandidate? (scan : Scan) : Option Scan :=
  if scan.keyAllowed then do
    let cleared ← scan.dropCandidate?
    let candidate : Candidate :=
      { number := scan.released + scan.queue.length
        line := scan.line
        column := scan.column
        level := scan.level
        required := !scan.inFlow && scan.indent = scan.column }
    return { cleared with candidates := candidate :: cleared.candidates }
  else some scan

/-! ## Blocks -/

/-- Come back out to a column.  Each block that ends there has its token. -/
def unrollTo (scan : Scan) (column : Int) : List Int -> Scan
  | [] => scan
  | next :: rest =>
      if column < scan.indent then
        unrollTo { scan.push .blockEnd with indent := next, outer := rest } column rest
      else scan

def unroll (scan : Scan) (column : Int) : Scan :=
  if scan.inFlow then scan else scan.unrollTo column scan.outer

/-- Go further in to a column, with the token of the new block before the one
with the given number. -/
def roll (scan : Scan) (column number : Nat) (token : Token) : Scan :=
  if !scan.inFlow && scan.indent < column then
    { scan with indent := column, outer := scan.indent :: scan.outer }.insert number token
  else scan

/-- Go further in to the next cell. -/
def rollHere (scan : Scan) (token : Token) : Scan :=
  scan.roll scan.column (scan.released + scan.queue.length) token

/-! ## Single tokens -/

/-- The end of the text ends its line, so that no candidate is left, and all
blocks. -/
def readEnd? (scan : Scan) : Option Scan := do
  let line := if scan.column = 0 then scan.line else scan.line + 1
  let next ← (scan.unroll (-1)).dropCandidate?
  return { next.push .streamEnd with
    cells := [⟨endMark, line, 0⟩]
    keyAllowed := false
    finished := true }

/-- A line between documents ends all blocks. -/
def readMarker? (scan : Scan) (token : Token) : Option Scan := do
  let next ← (scan.unroll (-1)).dropCandidate?
  return ({ next with keyAllowed := false }.drop 3).push token

def readDirective? (scan : Scan) : Option Scan := do
  let next ← (scan.unroll (-1)).dropCandidate?
  let (token, rest) ← Property.readDirective? (next.cells.drop 1)
  return { next.push token with cells := rest, keyAllowed := false }

/-- A flow collection starts.  It may be a key as a whole, or start with one. -/
def openFlow? (scan : Scan) (token : Token) : Option Scan := do
  let next ← scan.saveCandidate?
  return ({ next with level := next.level + 1, keyAllowed := true }.drop 1).push token

def closeFlow? (scan : Scan) (token : Token) : Option Scan := do
  let next ← scan.dropCandidate?
  return ({ next with level := next.level - 1, keyAllowed := false }.drop 1).push token

def readFlowEntry? (scan : Scan) : Option Scan := do
  let next ← scan.dropCandidate?
  return ({ next with keyAllowed := true }.drop 1).push .flowEntry

def readBlockEntry? (scan : Scan) : Option Scan :=
  if scan.inFlow || scan.keyAllowed then do
    let next ← (scan.rollHere .blockSequenceStart).dropCandidate?
    return ({ next with keyAllowed := true }.drop 1).push .blockEntry
  else none

/-- A question mark before a key. -/
def readKey? (scan : Scan) : Option Scan :=
  if scan.inFlow || scan.keyAllowed then do
    let next ← (scan.rollHere .blockMappingStart).dropCandidate?
    return ({ next with keyAllowed := !next.inFlow }.drop 1).push .key
  else none

/-- A colon before a value.  The candidate, if there is one, was a key. -/
def readValue? (scan : Scan) : Option Scan :=
  match scan.splitCandidates with
  | (some candidate, others) =>
      let keyed := (scan.insert candidate.number .key).roll candidate.column candidate.number
        .blockMappingStart
      some (({ keyed with candidates := others, keyAllowed := false }.drop 1).push .value)
  | (none, _) =>
      if scan.inFlow || scan.keyAllowed then
        let next := scan.rollHere .blockMappingStart
        some (({ next with keyAllowed := !next.inFlow }.drop 1).push .value)
      else none

def readName? (scan : Scan) (token : List Char -> Token) : Option Scan := do
  let next ← scan.saveCandidate?
  let (name, rest) ← Property.readName? (next.cells.drop 1)
  return { next.push (token name) with cells := rest, keyAllowed := false }

def readTag? (scan : Scan) : Option Scan := do
  let next ← scan.saveCandidate?
  let (token, rest) ← Property.readTag? next.inFlow (next.cells.drop 1)
  return { next.push token with cells := rest, keyAllowed := false }

def readBlock? (scan : Scan) (style : Style) : Option Scan := do
  let next ← scan.dropCandidate?
  let (text, rest) ← Block.read? (style = .folded) next.indent (next.cells.drop 1)
  return { next.push (.scalar text style) with cells := rest, keyAllowed := true }

def readQuoted? (scan : Scan) (single : Bool) : Option Scan := do
  let next ← scan.saveCandidate?
  let (text, rest) ← Quoted.readFrom? single (.text .empty) [] (next.cells.drop 1)
  return { next.push (.scalar text .quoted) with cells := rest, keyAllowed := false }

/-- A plain scalar.  A key may start behind it if it ends on an earlier line. -/
def readPlain? (scan : Scan) : Option Scan := do
  let next ← scan.saveCandidate?
  let (text, broken, rest) ← Plain.readFrom? next.inFlow (next.indent + 1) .empty [] next.cells
  return { next.push (.scalar text .plain) with cells := rest, keyAllowed := broken }

/-! ## The next token -/

/-- Skip blanks, comments and line breaks.  Outside flow collections a key may
start on a new line, and tabs do not count as blanks where a key may start. -/
def skipSpace (inFlow keyAllowed inComment : Bool) : List Cell -> Bool × List Cell
  | [] => (keyAllowed, [])
  | cell :: rest =>
      if isBreak cell.char then skipSpace inFlow (!inFlow || keyAllowed) false rest
      else if inComment && cell.char ≠ endMark then skipSpace inFlow keyAllowed true rest
      else if cell.char = ' ' || (cell.char = '\t' && (inFlow || !keyAllowed)) ||
          (cell.char = lineMark && cell.column = 0) then skipSpace inFlow keyAllowed false rest
      else if cell.char = '#' then skipSpace inFlow keyAllowed true rest
      else (keyAllowed, cell :: rest)

/-- A character that starts no plain scalar. -/
def isIndicator (c : Char) : Bool :=
  ['-', '?', ':', ',', '[', ']', '\x7b', '\x7d', '#', '&', '*', '!', '|', '>', '\x27', '\x22', '%',
    '@', '\x60'].contains c

/-- A plain scalar starts here.  A dash, question mark or colon starts one with
text straight behind it. -/
def startsPlain (inFlow : Bool) (cells : List Cell) : Bool :=
  let c := peek cells 0
  (!isSpace c && !isIndicator c) || (c = '-' && !isBlank (peek cells 1)) ||
    (!inFlow && (c = '?' || c = ':') && !isSpace (peek cells 1))

def readToken? (scan : Scan) : Option Scan :=
  let c := peek scan.cells 0
  let spaced := isSpace (peek scan.cells 1)
  if c = endMark then scan.readEnd?
  else if c = '%' && scan.column = 0 then scan.readDirective?
  else if startsMarker '-' scan.cells then scan.readMarker? .documentStart
  else if startsMarker '.' scan.cells then scan.readMarker? .documentEnd
  else if c = '[' then scan.openFlow? .flowSequenceStart
  else if c = '\x7b' then scan.openFlow? .flowMappingStart
  else if c = ']' then scan.closeFlow? .flowSequenceEnd
  else if c = '\x7d' then scan.closeFlow? .flowMappingEnd
  else if c = ',' then scan.readFlowEntry?
  else if c = '-' && spaced then scan.readBlockEntry?
  else if c = '?' && (scan.inFlow || spaced) then scan.readKey?
  else if c = ':' && (scan.inFlow || spaced) then scan.readValue?
  else if c = '*' then scan.readName? .alias
  else if c = '&' then scan.readName? .anchor
  else if c = '!' then scan.readTag?
  else if c = '|' && !scan.inFlow then scan.readBlock? .literal
  else if c = '>' && !scan.inFlow then scan.readBlock? .folded
  else if c = '\x27' then scan.readQuoted? true
  else if c = '\x22' then scan.readQuoted? false
  else if startsPlain scan.inFlow scan.cells then scan.readPlain?
  else none

/-- Find one more token. -/
def advance? (scan : Scan) : Option Scan :=
  if scan.started then do
    let (allowed, rest) := skipSpace scan.inFlow scan.keyAllowed false scan.cells
    let next ← { scan with cells := rest, keyAllowed := allowed }.dropStale?
    (next.unroll next.column).readToken?
  else some { scan with queue := [.streamStart], started := true }

/-- The first token that waits may still turn out to be a key. -/
def firstIsOpen (scan : Scan) : Bool :=
  scan.candidates.any (·.number = scan.released)

/-- The tokens that leave the queue.  Each round finds a token or lets one go. -/
def rounds (scan : Scan) : Nat -> List Token
  | 0 => []
  | count + 1 =>
      match scan.queue with
      | [] =>
          if scan.finished then []
          else
            match scan.advance? with
            | some next => rounds next count
            | none => []
      | token :: queue =>
          match scan.dropStale? with
          | none => []
          | some kept =>
              if kept.firstIsOpen then
                match kept.advance? with
                | some next => rounds next count
                | none => []
              else token :: rounds { kept with queue := queue, released := kept.released + 1 } count

end Scan

/-- The tokens of a text, up to the place where it makes no sense.  Sense goes on
to the end exactly when the last token is the end of the stream.  A cell gives
rise to less than eight rounds. -/
def tokens (text : String) : List Token :=
  match cells? text with
  | some cells => Scan.rounds { cells := cells } (8 * cells.length + 8)
  | none => []

end Yaml
end CardTable
