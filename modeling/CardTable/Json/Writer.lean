import CardTable.Json.Value
import CardTable.Text.Numeral
import CardTable.Text.Quoted

namespace CardTable
namespace Json

/-!
# Compact JSON text

A value has one compact text: no blanks between tokens, short escapes where
JSON has them, and every other character above the controls written as itself.
-/

/-- The letter of a short escape, for the characters that have one. -/
def escapeLetter? (c : Char) : Option Char :=
  if c = Text.doubleQuote || c = '\\' then some c
  else if c = '\x08' then some 'b'
  else if c = '\x0c' then some 'f'
  else if c = '\n' then some 'n'
  else if c = '\r' then some 'r'
  else if c = '\t' then some 't'
  else none

def hexDigit (n : Nat) : Char :=
  Nat.digitChar (n % 16)

def writeChar (c : Char) : List Char :=
  match escapeLetter? c with
  | some letter => ['\\', letter]
  | none =>
      if c.toNat < 0x20 then
        ['\\', 'u', '0', '0', hexDigit (c.toNat / 16), hexDigit c.toNat]
      else [c]

def writeString (text : String) : List Char :=
  Text.doubleQuote :: text.toList.flatMap writeChar ++ [Text.doubleQuote]

/-- Leading powers of ten from -5 to 15 are written positionally, the others
with a signed exponent; a tie between two shortest decimals goes to the even
one. -/
def writeMagnitude (magnitude : CardTable.Number.Binary) : List Char :=
  if magnitude.significand = 0 then ['0', '.', '0']
  else
    let decimal := magnitude.shortest .even
    if -5 ≤ decimal.leading && decimal.leading ≤ 15 then CardTable.Number.positional decimal
    else CardTable.Number.scientific decimal

def writeNumber : Number -> List Char
  | .whole value => Text.integer value
  | .real negative magnitude =>
      if negative then '-' :: writeMagnitude magnitude else writeMagnitude magnitude

mutual

def write : Value -> List Char
  | .null => "null".toList
  | .bool true => "true".toList
  | .bool false => "false".toList
  | .number value => writeNumber value
  | .string text => writeString text
  | .array items => '[' :: writeItems items
  | .object members => '\x7b' :: writeMembers members

/-- The items of an array and the bracket that closes it. -/
def writeItems : List Value -> List Char
  | [] => [']']
  | [item] => write item ++ [']']
  | item :: rest => write item ++ ',' :: writeItems rest

/-- The members of an object and the brace that closes it. -/
def writeMembers : List (String × Value) -> List Char
  | [] => ['\x7d']
  | [(key, value)] => writeString key ++ ':' :: write value ++ ['\x7d']
  | (key, value) :: rest => writeString key ++ ':' :: write value ++ ',' :: writeMembers rest

end

def Value.text (value : Value) : String :=
  String.ofList (write value)

end Json
end CardTable
