import CardTable.Text.Numeral

namespace CardTable
namespace Address

/-!
# Percent encoding

Each part of an address has a set of characters that may not stand there as
themselves.  Their bytes in UTF-8 are written in hexadecimal behind a percent
sign.  A percent sign itself is left alone, so encoded text stays as it is.
-/

namespace Percent

/-- Controls, and everything beyond ASCII. -/
def controls (c : Char) : Bool :=
  c.toNat < 0x20 || 0x7f ≤ c.toNat

def fragment (c : Char) : Bool :=
  controls c || [' ', '\x22', '<', '>', '\x60'].contains c

def path (c : Char) : Bool :=
  fragment c || ['#', '?', '\x7b', '\x7d'].contains c

def userinfo (c : Char) : Bool :=
  path c || ['/', ':', ';', '=', '@', '[', '\\', ']', '^', '|'].contains c

/-- Everything but ASCII letters and digits, some signs, and the space. -/
def form (c : Char) : Bool :=
  !(c.isAlphanum || ['*', '-', '.', '_', ' '].contains c)

/-- A byte behind a percent sign. -/
def encodeByte (byte : UInt8) : List Char :=
  ['%', (Nat.digitChar (byte.toNat / 16)).toUpper, (Nat.digitChar (byte.toNat % 16)).toUpper]

def encode (encoded : Char -> Bool) (text : List Char) : List Char :=
  text.flatMap fun c =>
    if encoded c then (String.utf8EncodeChar c).flatMap encodeByte else [c]

/-- A name or a value as a form has it, with a plus sign for each space. -/
def encodeForm (text : List Char) : List Char :=
  (encode form text).map fun c => if c = ' ' then '+' else c

/-- The bytes of a text once percent signs with two hexadecimal digits behind
them are decoded.  Any other percent sign stands for itself. -/
def decode : List Char -> List UInt8
  | [] => []
  | '%' :: high :: low :: rest =>
      match Text.digitIn? 16 high, Text.digitIn? 16 low with
      | some h, some l => UInt8.ofNat (16 * h + l) :: decode rest
      | _, _ => 0x25 :: decode (high :: low :: rest)
  | c :: rest => String.utf8EncodeChar c ++ decode rest

/-- The decoded text, when its bytes are UTF-8. -/
def decode? (text : List Char) : Option (List Char) :=
  (String.fromUTF8? ⟨(decode text).toArray⟩).map String.toList

end Percent
end Address
end CardTable
