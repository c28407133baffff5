import CardTable.Text.Extending
import CardTable.Text.Unprintable

namespace CardTable
namespace Text

/-!
# Quoted text

Error messages show what was typed between double quotes, so that a stray
space, a control character or a combining mark can be seen.  Everything that
would not show as itself is written as an escape.
-/

def doubleQuote : Char := '\x22'

def singleQuote : Char := '\x27'

/-- The number of a character in lower-case hexadecimal, between braces. -/
def numbered (c : Char) : List Char :=
  ['\\', 'u', '\x7b'] ++ Nat.toDigits 16 c.toNat ++ ['\x7d']

/-- How one character is written between double quotes.  A single quote needs
no escape there. -/
def quotedForm (c : Char) : List Char :=
  if c = '\x00' then ['\\', '0']
  else if c = '\t' then ['\\', 't']
  else if c = '\r' then ['\\', 'r']
  else if c = '\n' then ['\\', 'n']
  else if c = '\\' || c = doubleQuote then ['\\', c]
  else if extending.holds c || unprintable.holds c then numbered c
  else [c]

def quoted (text : String) : String :=
  String.ofList (doubleQuote :: text.toList.flatMap quotedForm ++ [doubleQuote])

end Text
end CardTable
