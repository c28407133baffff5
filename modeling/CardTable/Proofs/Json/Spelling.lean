import CardTable.Json.Reader
import CardTable.Proofs.Json.Members

namespace CardTable
namespace Json

/-!
# What a JSON text spells

One value has many texts: blanks stand between tokens or not, a character of a
string is written as itself or as one of several escapes, and members of an
object come in any order and more than once.  The relations of this module say
which texts spell which value.  They say so from the value to the text, without
reading anything.

Numbers are the whole numbers that fit 64 bits, with or without a sign.
Brackets nest within a number of levels that the relations carry along.
-/

/-- Blanks, as they may stand between tokens. -/
def Blanks (text : List Char) : Prop :=
  forall c, c ∈ text -> isBlank c = true

theorem blanks_nil : Blanks [] :=
  fun _ impossible => nomatch impossible

/-! ## Strings -/

/-- The letters of the short escapes, with the characters they stand for. -/
def shortEscapes : List (Char × Char) :=
  [(Text.doubleQuote, Text.doubleQuote), ('\\', '\\'), ('/', '/'), ('b', '\x08'), ('f', '\x0c'),
    ('n', '\n'), ('r', '\r'), ('t', '\t')]

/-- The first and the second half of a character above U+FFFF. -/
def HighHalf (unit : Nat) : Prop := 0xD800 ≤ unit ∧ unit ≤ 0xDBFF

def LowHalf (unit : Nat) : Prop := 0xDC00 ≤ unit ∧ unit ≤ 0xDFFF

instance (unit : Nat) : Decidable (HighHalf unit) :=
  inferInstanceAs (Decidable (_ ∧ _))

instance (unit : Nat) : Decidable (LowHalf unit) :=
  inferInstanceAs (Decidable (_ ∧ _))

/-- Four hexadecimal digits in either case, and the number that they write. -/
def SpellsUnit (unit : Nat) (a b c d : Char) : Prop :=
  Text.digitsFrom? 16 0 [a, b, c, d] = some unit

/-- A text that spells the characters of a string, between its quotes. -/
inductive SpellsString : List Char -> List Char -> Prop where
  | nil : SpellsString [] []
  | plain {c : Char} {characters text : List Char} :
      0x20 ≤ c.toNat -> c ≠ Text.doubleQuote -> c ≠ '\\' -> SpellsString characters text ->
      SpellsString (c :: characters) (c :: text)
  | short {letter c : Char} {characters text : List Char} :
      (letter, c) ∈ shortEscapes -> SpellsString characters text ->
      SpellsString (c :: characters) ('\\' :: letter :: text)
  | unit {unit : Nat} {a b c d : Char} {characters text : List Char} :
      SpellsUnit unit a b c d -> ¬ HighHalf unit -> ¬ LowHalf unit ->
      SpellsString characters text ->
      SpellsString (Char.ofNat unit :: characters) ('\\' :: 'u' :: a :: b :: c :: d :: text)
  | pair {high low : Nat} {a b c d e f g h : Char} {characters text : List Char} :
      SpellsUnit high a b c d -> HighHalf high -> SpellsUnit low e f g h -> LowHalf low ->
      SpellsString characters text ->
      SpellsString
        (Char.ofNat (0x10000 + (high - 0xD800) * 0x400 + (low - 0xDC00)) :: characters)
        ('\\' :: 'u' :: a :: b :: c :: d :: '\\' :: 'u' :: e :: f :: g :: h :: text)

/-! ## Values -/

/-- The whole numbers that keep every digit. -/
def Fits (value : Int) : Prop :=
  -(Nat.pow 2 63 : Int) ≤ value ∧ value < (Nat.pow 2 64 : Int)

mutual

/-- A text that spells a value, with brackets in it that nest within `levels`. -/
inductive Spells : (levels : Nat) -> Value -> List Char -> Prop where
  | null {levels : Nat} : Spells levels .null "null".toList
  | truth {levels : Nat} : Spells levels (.bool true) "true".toList
  | falsity {levels : Nat} : Spells levels (.bool false) "false".toList
  | whole {levels : Nat} {value : Int} :
      Fits value -> Spells levels (.number (.whole value)) (Text.integer value)
  | string {levels : Nat} {characters text : List Char} :
      SpellsString characters text ->
      Spells levels (.string (String.ofList characters))
        (Text.doubleQuote :: (text ++ [Text.doubleQuote]))
  | array {levels : Nat} {items : List Value} {text : List Char} :
      SpellsItems levels items text -> Spells (levels + 1) (.array items) ('[' :: text)
  | object {levels : Nat} {members : List (String × Value)} {text : List Char} :
      SpellsMembers levels members text ->
      Spells (levels + 1) (.object (Members.insertAll [] members)) ('\x7b' :: text)

/-- A text that spells the items of an array, with the bracket that closes it. -/
inductive SpellsItems : (levels : Nat) -> List Value -> List Char -> Prop where
  | none {levels : Nat} {blanks : List Char} :
      Blanks blanks -> SpellsItems levels [] (blanks ++ [']'])
  | last {levels : Nat} {item : Value} {before text after : List Char} :
      Blanks before -> Spells levels item text -> Blanks after ->
      SpellsItems levels [item] (before ++ (text ++ (after ++ [']'])))
  | more {levels : Nat} {item next : Value} {items : List Value}
      {before text after rest : List Char} :
      Blanks before -> Spells levels item text -> Blanks after ->
      SpellsItems levels (next :: items) rest ->
      SpellsItems levels (item :: next :: items) (before ++ (text ++ (after ++ ',' :: rest)))

/-- A text that spells the members of an object in their order, with the brace
that closes it. -/
inductive SpellsMembers : (levels : Nat) -> List (String × Value) -> List Char -> Prop where
  | none {levels : Nat} {blanks : List Char} :
      Blanks blanks -> SpellsMembers levels [] (blanks ++ ['\x7d'])
  | last {levels : Nat} {member : String × Value} {before text after : List Char} :
      Blanks before -> SpellsMember levels member text -> Blanks after ->
      SpellsMembers levels [member] (before ++ (text ++ (after ++ ['\x7d'])))
  | more {levels : Nat} {member next : String × Value} {members : List (String × Value)}
      {before text after rest : List Char} :
      Blanks before -> SpellsMember levels member text -> Blanks after ->
      SpellsMembers levels (next :: members) rest ->
      SpellsMembers levels (member :: next :: members)
        (before ++ (text ++ (after ++ ',' :: rest)))

/-- A text that spells one member: its key, a colon and its value. -/
inductive SpellsMember : (levels : Nat) -> String × Value -> List Char -> Prop where
  | pair {levels : Nat} {characters key : List Char} {value : Value}
      {before after text : List Char} :
      SpellsString characters key -> Blanks before -> Blanks after -> Spells levels value text ->
      SpellsMember levels (String.ofList characters, value)
        (Text.doubleQuote :: (key ++ Text.doubleQuote :: (before ++ ':' :: (after ++ text))))

end

/-- A text that spells one object by these members, with blanks around it. -/
def SpellsObject (members : List (String × Value)) (text : String) : Prop :=
  Exists fun before => Exists fun body => Exists fun after =>
    Blanks before ∧ SpellsMembers (depthLimit - 1) members body ∧ Blanks after ∧
      text.toList = before ++ ('\x7b' :: (body ++ after))

end Json
end CardTable
