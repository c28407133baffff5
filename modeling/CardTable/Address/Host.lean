import CardTable.Address.Numeric
import CardTable.Address.Percent
import CardTable.Address.Punycode
import CardTable.Text.Extending
import CardTable.Text.Lowercase
import CardTable.Text.Unprintable

namespace CardTable
namespace Address

/-!
# Hosts

Schemes that are known to name a server on the internet read their hosts as
domain names or numbers.  Other schemes take almost any text as the host.  A
host in brackets is eight groups everywhere.
-/

inductive Fault where
  | noScheme
  | emptyHost
  | badDomain
  | badFourBytes
  | badEightGroups
  | forbiddenCharacter
  | badPort
  deriving DecidableEq, Repr

namespace Fault

def message : Fault -> String
  | noScheme => "relative URL without a base"
  | emptyHost => "empty host"
  | badDomain => "invalid international domain name"
  | badFourBytes => "invalid IPv4 address"
  | badEightGroups => "invalid IPv6 address"
  | forbiddenCharacter => "invalid domain character"
  | badPort => "invalid port number"

end Fault

inductive Host where
  /-- A name; the empty name stands for no host. -/
  | name (text : List Char)
  | fourBytes (value : Nat)
  | eightGroups (groups : List Nat)
  deriving DecidableEq, Repr

namespace Host

def text : Host -> List Char
  | name text => text
  | fourBytes value => FourBytes.text value
  | eightGroups groups => '[' :: EightGroups.text groups ++ [']']

/-- A character that no host has, whatever the scheme. -/
def isForbidden (c : Char) : Bool :=
  ['\x00', '\t', '\n', '\r', ' ', '#', '/', ':', '<', '>', '?', '@', '[', '\\', ']', '^',
    '|'].contains c

/-- A character that no domain name has. -/
def isForbiddenInDomain (c : Char) : Bool :=
  isForbidden c || c.toNat < 0x20 || c = '%' || c = '\x7f'

/-- A character that a label can have: an ASCII character, or one beyond that shows
and is its own lower case.

This approximates the mapping of Unicode for hosts.  Characters that the mapping
replaces by others, such as the fullwidth letters, are taken as they are, and those
that it ignores are refused or taken like any other. -/
def isLabelLetter (c : Char) : Bool :=
  let alone := String.singleton c
  c.toNat < 0x80 || (!Text.unprintable.holds c && Text.lower alone = alone)

/-- The sign in front of the ASCII form of a label. -/
def carrier : List Char :=
  "xn--".toList

/-- A label beyond ASCII in its ASCII form.  It may not look like such a form
itself. -/
def carried? (label : List Char) : Option (List Char) :=
  match label with
  | [] => none
  | first :: _ =>
      if label.all isLabelLetter && !Text.extending.holds first && !carrier.isPrefixOf label then
        some (carrier ++ Punycode.encode label)
      else none

/-- One label of a domain name in lower case.  A label that claims to carry
characters beyond ASCII has to carry some, and in the one form that they have. -/
def label? (label : List Char) : Option (List Char) :=
  if label.any (0x80 ≤ ·.toNat) then carried? label
  else
    match carrier.isPrefixOf? label with
    | none => some label
    | some text =>
        match Punycode.decode? text with
        | some decoded =>
            if decoded.any (0x80 ≤ ·.toNat) && carried? decoded = some label then some label
            else none
        | none => none

/-- A domain name in lower case and in ASCII.

Lower case is all of the mapping of Unicode for hosts that is done here: no
fullwidth character is replaced, no character is ignored, and nothing is composed.
So a name in ASCII is read exactly unless a label claims to carry other characters,
and one beyond ASCII only if the mapping leaves it in its own lower case. -/
def domain? (text : List Char) : Option (List Char) := do
  let decoded ← Percent.decode? text
  let lower := (Text.lower (String.ofList decoded)).toList
  if lower.any isForbiddenInDomain then none
  else
    let labels ← (lower.splitOnP (· = '.')).mapM label?
    return List.intercalate ['.'] labels

def bracketed (text : List Char) : Except Fault Host :=
  if text.getLast? = some ']' then
    match EightGroups.value? (text.drop 1).dropLast with
    | some groups => .ok (.eightGroups groups)
    | none => .error .badEightGroups
  else .error .badEightGroups

/-- The host of a scheme that names a server on the internet. -/
def readDomain (text : List Char) : Except Fault Host :=
  if text.head? = some '[' then bracketed text
  else
    match domain? text with
    | none => .error .badDomain
    | some [] => .error .emptyHost
    | some domain =>
        if FourBytes.isMeant domain then
          match FourBytes.value? domain with
          | some value => .ok (.fourBytes value)
          | none => .error .badFourBytes
        else .ok (.name domain)

def readFree (text : List Char) : Except Fault Host :=
  if text.head? = some '[' then bracketed text
  else if text.any isForbidden then .error .forbiddenCharacter
  else .ok (.name (Percent.encode Percent.controls text))

end Host
end Address
end CardTable
