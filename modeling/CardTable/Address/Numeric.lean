import CardTable.Text.Numeral

namespace CardTable
namespace Address

/-!
# Numeric hosts

A host may be a number of four bytes or of eight groups of sixteen bits.  Both
have many spellings and one text.
-/

namespace FourBytes

/-- The value of one part: hexadecimal behind `0x`, octal behind another zero,
decimal otherwise. -/
def part? (text : List Char) : Option Nat :=
  match text with
  | ['0'] => some 0
  | '0' :: c :: digits =>
      if c = 'x' || c = 'X' then
        if digits.isEmpty then some 0 else Text.natural? 16 digits
      else Text.natural? 8 (c :: digits)
  | _ => Text.natural? 10 text

/-- The parts between points; one point at the end does not count. -/
def parts (text : List Char) : List (List Char) :=
  let all := text.splitOnP (· = '.')
  if all.getLast? = some [] then all.dropLast else all

/-- The last part is meant as a number, so the whole host has to be one. -/
def isMeant (text : List Char) : Bool :=
  match (parts text).getLast? with
  | some last => (!last.isEmpty && last.all Char.isDigit) || (part? last).isSome
  | none => false

/-- The value of all parts.  Each part but the last is one byte, and the last
part fills the bytes that are left. -/
def value? (text : List Char) : Option Nat := do
  let numbers ← (parts text).mapM part?
  let last ← numbers.getLast?
  let bytes := numbers.dropLast
  if numbers.length ≤ 4 && bytes.all (· ≤ 255) && last < Nat.pow 256 (4 - bytes.length) then
    let whole := bytes.foldl (fun total byte => total * 256 + byte) 0
    return whole * Nat.pow 256 (4 - bytes.length) + last
  else none

/-- The four bytes in decimal with points between them. -/
def text (value : Nat) : List Char :=
  Text.decimal (value / Nat.pow 256 3 % 256) ++ '.' :: Text.decimal (value / Nat.pow 256 2 % 256) ++
    '.' :: Text.decimal (value / 256 % 256) ++ '.' :: Text.decimal (value % 256)

end FourBytes

namespace EightGroups

/-- A group of one to four hexadecimal digits. -/
def group? (text : List Char) : Option Nat :=
  if text.length ≤ 4 then Text.natural? 16 text else none

/-- A byte in decimal without padding. -/
def byte? (text : List Char) : Option Nat :=
  if text.head? = some '0' && 1 < text.length then none
  else (Text.natural? 10 text).filter (· ≤ 255)

/-- The last group, which may also be four bytes with points between them. -/
def lastGroups? (text : List Char) : Option (List Nat) :=
  if text.contains '.' then do
    match ← (text.splitOnP (· = '.')).mapM byte? with
    | [a, b, c, d] => return [a * 256 + b, c * 256 + d]
    | _ => none
  else (group? text).map ([·])

/-- The values of the groups up to the end of the host. -/
def groups? : List (List Char) -> Option (List Nat)
  | [] => some []
  | [last] => lastGroups? last
  | group :: rest => do return (← group? group) :: (← groups? rest)

/-- The groups before the gap and those after it.  Fields come from between
colons, so the gap shows as an empty field; at either end of the host it shows
as two of them. -/
def splitGap : List (List Char) -> List (List Char) × Option (List (List Char))
  | [] => ([], none)
  | [] :: rest => ([], some (if rest = [[]] then [] else rest))
  | group :: rest =>
      let (before, after) := splitGap rest
      (group :: before, after)

/-- The groups of a host in which a gap stands for one or more zeros. -/
def ofSplit? : List (List Char) × Option (List (List Char)) -> Option (List Nat)
  | (whole, none) => (groups? whole).filter (·.length = 8)
  | (before, some after) => do
      let left ← before.mapM group?
      let right ← groups? after
      if left.length + 1 + right.length ≤ 8 then
        return left ++ List.replicate (8 - left.length - right.length) 0 ++ right
      else none

/-- The eight groups of a host without its brackets. -/
def value? (text : List Char) : Option (List Nat) :=
  match text.splitOnP (· = ':') with
  | [] :: [] :: next :: rest => ofSplit? (splitGap ([] :: next :: rest))
  | [] :: _ => none
  | fields =>
      if fields.getLast? = some [] && fields.dropLast.getLast? ≠ some [] then none
      else ofSplit? (splitGap fields)

/-- The number of zeros at a position. -/
def zerosAt (groups : List Nat) (start : Nat) : Nat :=
  ((groups.drop start).takeWhile (· = 0)).length

/-- Where the longest run of zeros starts, the first of several. -/
def longestZeros (groups : List Nat) : Nat :=
  (List.range groups.length).foldl
    (fun best start => if zerosAt groups best < zerosAt groups start then start else best) 0

/-- Groups in hexadecimal with colons between them. -/
def join (groups : List Nat) : List Char :=
  List.intercalate [':'] (groups.map (Nat.toDigits 16))

/-- The shortest text: the longest run of two or more zeros becomes a gap. -/
def text (groups : List Nat) : List Char :=
  let start := longestZeros groups
  let count := zerosAt groups start
  if count < 2 then join groups
  else join (groups.take start) ++ [':', ':'] ++ join (groups.drop (start + count))

end EightGroups
end Address
end CardTable
