import CardTable.Json.Value
import CardTable.Text.Numeral
import CardTable.Text.Quoted

namespace CardTable
namespace Json

/-!
# Reading JSON text

A reading step takes what is left of the text and gives a result with what is
left after it, or the first fault.  Faults name what went wrong, not where.
-/

inductive Fault where
  | endOfValue
  | endOfArray
  | endOfObject
  | endOfString
  | expectedColon
  | expectedArraySeparator
  | expectedObjectSeparator
  | expectedWord
  | expectedValue
  | keyNotString
  | trailingComma
  | trailingCharacters
  | invalidNumber
  | numberTooLarge
  | invalidEscape
  | loneSurrogate
  | unfinishedSurrogate
  | controlCharacter
  | nestedTooDeeply
  deriving DecidableEq, Repr

namespace Fault

def message : Fault -> String
  | endOfValue => "EOF while parsing a value"
  | endOfArray => "EOF while parsing a list"
  | endOfObject => "EOF while parsing an object"
  | endOfString => "EOF while parsing a string"
  | expectedColon => "expected `:`"
  | expectedArraySeparator => "expected `,` or `]`"
  | expectedObjectSeparator => "expected `,` or `\x7d`"
  | expectedWord => "expected ident"
  | expectedValue => "expected value"
  | keyNotString => "key must be a string"
  | trailingComma => "trailing comma"
  | trailingCharacters => "trailing characters"
  | invalidNumber => "invalid number"
  | numberTooLarge => "number out of range"
  | invalidEscape => "invalid escape"
  | loneSurrogate => "lone leading surrogate in hex escape"
  | unfinishedSurrogate => "unexpected end of hex escape"
  | controlCharacter => "control character (\\u0000-\\u001F) found while parsing a string"
  | nestedTooDeeply => "recursion limit exceeded"

end Fault

/-- A result with what is left of the text, or a fault. -/
abbrev Reading (α : Type) := Except Fault (α × List Char)

def isBlank (c : Char) : Bool :=
  c = ' ' || c = '\n' || c = '\t' || c = '\r'

def skipBlanks (text : List Char) : List Char :=
  text.dropWhile isBlank

/-! ## Strings -/

def escaped? (letter : Char) : Option Char :=
  if letter = Text.doubleQuote || letter = '\\' || letter = '/' then some letter
  else if letter = 'b' then some '\x08'
  else if letter = 'f' then some '\x0c'
  else if letter = 'n' then some '\n'
  else if letter = 'r' then some '\r'
  else if letter = 't' then some '\t'
  else none

/-- The number written by four hexadecimal digits. -/
def fourDigits? (a b c d : Char) : Option Nat :=
  Text.digitsFrom? 16 0 [a, b, c, d]

/-- The text holds at least four bytes.  A digit escape that breaks off earlier
is an unfinished string rather than a bad escape. -/
def hasFourBytes (text : List Char) : Bool :=
  decide (4 ≤ (text.take 4).foldl (fun total c => total + c.utf8Size) 0)

/-- What a digit escape that does not read as four digits is. -/
def digitFault (text : List Char) : Fault :=
  if hasFourBytes text then .invalidEscape else .endOfString

/-- The two halves of a character above U+FFFF. -/
def isHighHalf (unit : Nat) : Bool := decide (0xD800 ≤ unit) && decide (unit ≤ 0xDBFF)

def isLowHalf (unit : Nat) : Bool := decide (0xDC00 ≤ unit) && decide (unit ≤ 0xDFFF)

def joinHalves (high low : Nat) : Char :=
  Char.ofNat (0x10000 + (high - 0xD800) * 0x400 + (low - 0xDC00))

/-- Put one more character in front of a string that was read. -/
def prepend (c : Char) (reading : Reading (List Char)) : Reading (List Char) :=
  reading.map fun (text, rest) => (c :: text, rest)

/-- The characters of a string up to its closing quote.  The opening quote has
been taken. -/
def readString : List Char -> Reading (List Char)
  | [] => .error .endOfString
  | c :: rest =>
      if c = Text.doubleQuote then .ok ([], rest)
      else if c = '\\' then
        match rest with
        | [] => .error .endOfString
        | letter :: rest =>
            if letter = 'u' then
              match rest with
              | a :: b :: c :: d :: rest =>
                  match fourDigits? a b c d with
                  | none => .error (digitFault [a, b, c, d])
                  | some unit =>
                      if isLowHalf unit then .error .loneSurrogate
                      else if isHighHalf unit then
                        match rest with
                        | [] => .error .endOfString
                        | first :: rest =>
                            if first = '\\' then
                              match rest with
                              | [] => .error .endOfString
                              | second :: rest =>
                                  if second = 'u' then
                                    match rest with
                                    | e :: f :: g :: h :: rest =>
                                        match fourDigits? e f g h with
                                        | none => .error (digitFault [e, f, g, h])
                                        | some low =>
                                            if isLowHalf low then
                                              prepend (joinHalves unit low) (readString rest)
                                            else .error .loneSurrogate
                                    | short => .error (digitFault short)
                                  else .error .unfinishedSurrogate
                            else .error .unfinishedSurrogate
                      else prepend (Char.ofNat unit) (readString rest)
              | short => .error (digitFault short)
            else
              match escaped? letter with
              | some plain => prepend plain (readString rest)
              | none => .error .invalidEscape
      else if c.toNat < 0x20 then .error .controlCharacter
      else prepend c (readString rest)

/-! ## Numbers -/

/-- The greatest whole number that is kept exactly, plus one. -/
def wholeLimit : Nat := Nat.pow 2 64

/-- A power of ten that is a member of the format, correctly rounded. -/
def powerOfTen? (exponent : Nat) : Option CardTable.Number.Binary :=
  CardTable.Number.Binary.ofRatio? (Nat.pow 10 exponent) 1

/-- The greatest power of ten below the limit of the format. -/
def greatestPower : Nat := 308

/-- Scale a magnitude by powers of ten that are themselves members of the
format, each step rounded.  Small magnitudes are brought into reach of the
powers by dividing first. -/
def scaleFrom? (magnitude : CardTable.Number.Binary) (exponent : Int) :
    Option CardTable.Number.Binary :=
  if exponent.natAbs ≤ greatestPower then
    (powerOfTen? exponent.natAbs).bind fun power =>
      if 0 ≤ exponent then magnitude.mul? power else magnitude.div? power
  else if magnitude.significand = 0 then some magnitude
  else if 0 ≤ exponent then none
  else
    (powerOfTen? greatestPower).bind fun power =>
      (magnitude.div? power).bind fun smaller => scaleFrom? smaller (exponent + greatestPower)
termination_by exponent.natAbs
decreasing_by
  have positive : 0 < greatestPower := by decide
  omega

/-- The real number of the leading digits and a power of ten. -/
def readReal (negative : Bool) (digits : Nat) (exponent : Int) (rest : List Char) :
    Reading Number :=
  match (CardTable.Number.Binary.ofRatio? digits 1).bind (scaleFrom? · exponent) with
  | some magnitude => .ok (.real negative magnitude, rest)
  | none => .error .numberTooLarge

/-- Split a text after its leading digits. -/
def takeDigits (text : List Char) : List Char × List Char :=
  text.span Char.isDigit

/-- The digits that are kept: as long as their value stays below the limit.
The second part counts the digits that are dropped. -/
def keepDigits (total : Nat) : List Char -> Nat × Nat
  | [] => (total, 0)
  | c :: rest =>
      let next := total * 10 + (c.toNat - 48)
      if next < wholeLimit then keepDigits next rest else (total, (c :: rest).length)

/-- Exponents up to this size are read as numbers; a longer one is settled by
its sign. -/
def exponentLimit : Nat := Nat.pow 2 31

/-- The exponent after its mark, with the digits before it. -/
def readExponent (negative : Bool) (digits : Nat) (exponent : Int) (text : List Char) :
    Reading Number :=
  let (down, unsigned) :=
    match text with
    | '+' :: rest => (false, rest)
    | '-' :: rest => (true, rest)
    | rest => (false, rest)
  let (power, rest) := takeDigits unsigned
  match power, rest with
  | [], [] => .error .endOfValue
  | [], _ :: _ => .error .invalidNumber
  | _ :: _, _ =>
      match (Text.digitsFrom? 10 0 power).filter (· < exponentLimit) with
      | some size =>
          readReal negative digits (if down then exponent - size else exponent + size) rest
      | none =>
          if digits ≠ 0 && !down then .error .numberTooLarge
          else .ok (.real negative .zero, rest)

/-- The digits after a point, with the digits before it and the power of ten
that they are short of. -/
def readFraction (negative : Bool) (digits : Nat) (exponent : Int) (text : List Char) :
    Reading Number :=
  let (fraction, rest) := takeDigits text
  match fraction, rest with
  | [], [] => .error .endOfValue
  | [], _ :: _ => .error .invalidNumber
  | _ :: _, _ =>
      let (total, dropped) := keepDigits digits fraction
      let power := exponent - ((fraction.length - dropped : Nat) : Int)
      match rest with
      | c :: after => if c = 'e' || c = 'E' then readExponent negative total power after
          else readReal negative total power rest
      | [] => readReal negative total power rest

/-- A whole number that keeps its digits, unless its sign takes it out of the
signed range.  A negative zero is a real number. -/
def wholeNumber (negative : Bool) (digits : Nat) : Option Number :=
  if !negative then some (.whole digits)
  else if 0 < digits && digits ≤ Nat.pow 2 63 then some (.whole (-(digits : Int)))
  else none

/-- A number whose sign has been taken. -/
def readNumber (negative : Bool) (text : List Char) : Reading Number :=
  let (digits, rest) := takeDigits text
  match digits with
  | [] => .error (if rest.isEmpty then .endOfValue else .invalidNumber)
  | leading :: more =>
      if leading = '0' && !more.isEmpty then .error .invalidNumber
      else
        let (total, dropped) := keepDigits 0 digits
        match rest with
        | c :: after =>
            if c = '.' then readFraction negative total dropped after
            else if c = 'e' || c = 'E' then readExponent negative total dropped after
            else readInteger negative total dropped rest
        | [] => readInteger negative total dropped rest
where
  /-- A number with neither point nor exponent. -/
  readInteger (negative : Bool) (total dropped : Nat) (rest : List Char) : Reading Number :=
    match if dropped = 0 then wholeNumber negative total else none with
    | some number => .ok (number, rest)
    | none => readReal negative total dropped rest

/-! ## Values -/

/-- The rest of a word whose first letter has been taken. -/
def readWord (value : Value) : List Char -> List Char -> Reading Value
  | [], text => .ok (value, text)
  | _ :: _, [] => .error .endOfValue
  | letter :: letters, c :: rest =>
      if c = letter then readWord value letters rest else .error .expectedWord

/-- How deeply brackets and braces may nest. -/
def depthLimit : Nat := 127

mutual

/-- A value.  `levels` counts the brackets that may still be opened, and `steps`
bounds the reading steps; three steps in a row take at least one character. -/
def readValue (levels : Nat) : (steps : Nat) -> List Char -> Reading Value
  | 0, _ => .error .endOfValue
  | steps + 1, text =>
      match skipBlanks text with
      | [] => .error .endOfValue
      | c :: rest =>
          if c = Text.doubleQuote then
            (readString rest).map fun (characters, rest) =>
              (.string (String.ofList characters), rest)
          else if c = '[' then
            match levels with
            | 0 => .error .nestedTooDeeply
            | levels + 1 =>
                (readItems levels steps true rest).map fun (items, rest) => (.array items, rest)
          else if c = '\x7b' then
            match levels with
            | 0 => .error .nestedTooDeeply
            | levels + 1 =>
                (readMembers levels steps true [] rest).map fun (members, rest) =>
                  (.object members, rest)
          else if c = '-' then
            (readNumber true rest).map fun (number, rest) => (.number number, rest)
          else if c.isDigit then
            (readNumber false (c :: rest)).map fun (number, rest) => (.number number, rest)
          else if c = 'n' then readWord .null "ull".toList rest
          else if c = 't' then readWord (.bool true) "rue".toList rest
          else if c = 'f' then readWord (.bool false) "alse".toList rest
          else .error .expectedValue

/-- The items of an array up to its closing bracket.  The first item has no
comma in front of it. -/
def readItems (levels : Nat) : (steps : Nat) -> Bool -> List Char -> Reading (List Value)
  | 0, _, _ => .error .endOfArray
  | steps + 1, first, text =>
      match skipBlanks text with
      | [] => .error .endOfArray
      | c :: rest =>
          if c = ']' then .ok ([], rest)
          else if first then readItem levels steps (c :: rest)
          else if c = ',' then
            match skipBlanks rest with
            | [] => .error .endOfValue
            | d :: after =>
                if d = ']' then .error .trailingComma else readItem levels steps (d :: after)
          else .error .expectedArraySeparator

def readItem (levels : Nat) : (steps : Nat) -> List Char -> Reading (List Value)
  | 0, _ => .error .endOfArray
  | steps + 1, text =>
      match readValue levels steps text with
      | .error fault => .error fault
      | .ok (item, rest) =>
          (readItems levels steps false rest).map fun (items, rest) => (item :: items, rest)

/-- The members of an object up to its closing brace, added to those that were
read before. -/
def readMembers (levels : Nat) : (steps : Nat) -> Bool -> Members -> List Char -> Reading Members
  | 0, _, _, _ => .error .endOfObject
  | steps + 1, first, members, text =>
      match skipBlanks text with
      | [] => .error .endOfObject
      | c :: rest =>
          if c = '\x7d' then .ok (members, rest)
          else if first then
            if c = Text.doubleQuote then readMember levels steps members rest
            else .error .keyNotString
          else if c = ',' then
            match skipBlanks rest with
            | [] => .error .endOfValue
            | d :: after =>
                if d = Text.doubleQuote then readMember levels steps members after
                else if d = '\x7d' then .error .trailingComma
                else .error .keyNotString
          else .error .expectedObjectSeparator

/-- One member whose opening quote has been taken, and the members after it. -/
def readMember (levels : Nat) : (steps : Nat) -> Members -> List Char -> Reading Members
  | 0, _, _ => .error .endOfObject
  | steps + 1, members, text =>
      match readString text with
      | .error fault => .error fault
      | .ok (key, rest) =>
          match skipBlanks rest with
          | [] => .error .endOfObject
          | c :: rest =>
              if c = ':' then
                match readValue levels steps rest with
                | .error fault => .error fault
                | .ok (value, rest) =>
                    readMembers levels steps false (members.insert (String.ofList key) value) rest
              else .error .expectedColon

end

def read (text : String) : Except Fault Value :=
  let characters := text.toList
  match readValue depthLimit (3 * characters.length + 3) characters with
  | .error fault => .error fault
  | .ok (value, rest) =>
      if (skipBlanks rest).isEmpty then .ok value else .error .trailingCharacters

end Json
end CardTable
