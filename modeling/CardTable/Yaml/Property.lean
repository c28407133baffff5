import CardTable.Text.Numeral
import CardTable.Yaml.Cell
import CardTable.Yaml.Token

namespace CardTable
namespace Yaml

/-!
# Anchors, tags and directives

The parts of a YAML text that say something about a node or about the document.
-/

namespace Property

/-- A character that may come straight behind a name. -/
def endsName (c : Char) : Bool :=
  isSpace c || ['?', ':', ',', ']', '\x7d', '%', '@', '\x60'].contains c

/-- Read the name of an anchor, behind its indicator. -/
def readName? (cells : List Cell) : Option (List Char × List Cell) :=
  let name := run isWordCharacter cells
  let rest := after isWordCharacter cells
  if name.isEmpty || !endsName (peek rest 0) then none else some (name, rest)

/-- A character that stands for itself in a tag.  Commas and square brackets do
so only where angle brackets hold the tag. -/
def isTagCharacter (bracketed : Bool) (c : Char) : Bool :=
  isWordCharacter c ||
    [';', '/', '?', ':', '@', '&', '=', '+', '$', '.', '!', '~', '*', '\x27', '(', ')'].contains c
      || (bracketed && [',', '[', ']'].contains c)

/-- The number of bytes that follow the first byte of a character. -/
def bytesBehind? (first : Nat) : Option Nat :=
  if first < 0x80 then some 0
  else if 0xc0 ≤ first && first < 0xe0 then some 1
  else if 0xe0 ≤ first && first < 0xf0 then some 2
  else if 0xf0 ≤ first && first < 0xf8 then some 3
  else none

/-- The number of bytes that are still owed after a byte. -/
def owedAfter? (owed byte : Nat) : Option Nat :=
  match owed with
  | 0 => bytesBehind? byte
  | left + 1 => if 0x80 ≤ byte && byte < 0xc0 then some left else none

/-- Read on in a tag.  Bytes behind percent signs have to make up characters;
each is kept as the character of its number. -/
def readTagText? (bracketed : Bool) (owed : Nat) (reversed : List Char) :
    List Cell -> Option (List Char × List Cell)
  | [] => if owed = 0 then some (reversed.reverse, []) else none
  | cell :: rest =>
      if cell.char = '%' then
        match rest with
        | high :: low :: more =>
            match Text.digitIn? 16 high.char, Text.digitIn? 16 low.char with
            | some h, some l =>
                match owedAfter? owed (16 * h + l) with
                | some left =>
                    readTagText? bracketed left (Char.ofNat (16 * h + l) :: reversed) more
                | none => none
            | _, _ => none
        | _ => none
      else if owed ≠ 0 then none
      else if isTagCharacter bracketed cell.char then
        readTagText? bracketed 0 (cell.char :: reversed) rest
      else some (reversed.reverse, cell :: rest)

def readSuffix? (bracketed : Bool) (cells : List Cell) : Option (List Char × List Cell) :=
  (readTagText? bracketed 0 [] cells).filter fun result => !result.1.isEmpty

/-- Read a tag behind its exclamation mark: its handle, and what it has besides.
The mark alone is a tag without a handle. -/
def readHandled? (cells : List Cell) : Option (List Char × List Char × List Cell) :=
  let word := run isWordCharacter cells
  let rest := after isWordCharacter cells
  if peek rest 0 = '!' then do
    let (suffix, behind) ← readSuffix? false (rest.drop 1)
    return ('!' :: word ++ ['!'], suffix, behind)
  else do
    let (more, behind) ← readTagText? false 0 [] rest
    let suffix := word ++ more
    return if suffix.isEmpty then ([], ['!'], behind) else (['!'], suffix, behind)

/-- Read a tag in angle brackets, behind the opening one.  It has no handle. -/
def readBracketed? (cells : List Cell) : Option (List Char × List Char × List Cell) := do
  let (suffix, rest) ← readSuffix? true cells
  if peek rest 0 = '>' then return ([], suffix, rest.drop 1) else none

/-- Read a tag behind its exclamation mark.  Space has to follow, or a comma in
a flow collection. -/
def readTag? (inFlow : Bool) (cells : List Cell) : Option (Token × List Cell) := do
  let (handle, suffix, rest) ←
    if peek cells 0 = '<' then readBracketed? (cells.drop 1) else readHandled? cells
  let c := peek rest 0
  if isSpace c || (inFlow && c = ',') then return (.tag handle suffix, rest) else none

/-- Read a number of at most nine digits. -/
def readNumber? (cells : List Cell) : Option (Nat × List Cell) := do
  let digits := run Char.isDigit cells
  let number ← Text.natural? 10 digits
  if digits.length ≤ 9 then return (number, after Char.isDigit cells) else none

def readVersion? (cells : List Cell) : Option (Token × List Cell) := do
  let (major, rest) ← readNumber? (after isBlank cells)
  if peek rest 0 = '.' then
    let (minor, behind) ← readNumber? (rest.drop 1)
    return (.versionDirective major minor, behind)
  else none

/-- Read the handle of a `%TAG` directive, which ends with an exclamation mark
and may be nothing else. -/
def readHandle? (cells : List Cell) : Option (List Char × List Cell) :=
  if peek cells 0 = '!' then
    let word := run isWordCharacter (cells.drop 1)
    let rest := after isWordCharacter (cells.drop 1)
    if peek rest 0 = '!' then some ('!' :: word ++ ['!'], rest.drop 1)
    else if word.isEmpty then some (['!'], rest)
    else none
  else none

/-- Read a handle and what it stands for. -/
def readTagDirective? (cells : List Cell) : Option (Token × List Cell) := do
  let (handle, rest) ← readHandle? (after isBlank cells)
  if isBlank (peek rest 0) then
    let (stands, behind) ← readSuffix? true (after isBlank rest)
    if isSpace (peek behind 0) then return (.tagDirective handle stands, behind) else none
  else none

def readDirective? (cells : List Cell) : Option (Token × List Cell) := do
  let name := run isWordCharacter cells
  let rest := after isWordCharacter cells
  let (token, behind) ←
    if !isSpace (peek rest 0) then none
    else if name = "YAML".toList then readVersion? rest
    else if name = "TAG".toList then readTagDirective? rest
    else none
  let behind := skipComment behind
  if isBreak (peek behind 0) then return (token, behind.drop 1)
  else if peek behind 0 = endMark then return (token, behind)
  else none

end Property
end Yaml
end CardTable
