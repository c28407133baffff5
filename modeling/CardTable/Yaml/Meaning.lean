import CardTable.Number.Shortest
import CardTable.Text.Numeral
import CardTable.Text.Quoted
import CardTable.Yaml.Node

namespace CardTable
namespace Yaml

/-!
# What a plain scalar means

A scalar without quotes may be a truth value, a number or nothing at all.  A tag
can say so for any scalar, and a text that does not fit its tag is refused.
-/

/-- A number with a point or an exponent. -/
inductive Real where
  | finite (negative : Bool) (magnitude : Number.Binary)
  | infinite (negative : Bool)
  | notANumber
  deriving DecidableEq, Repr

inductive Meaning where
  | nothing
  | bool (value : Bool)
  /-- A whole number of at most 64 bits, with or without a sign. -/
  | whole (value : Int)
  /-- A greater whole number of at most 128 bits. -/
  | wide (value : Int)
  | real (value : Real)
  | text (text : List Char)
  deriving DecidableEq, Repr

namespace Real

/-- The number in digits, with a point among them.  There is no exponent. -/
def text : Real -> String
  | finite negative magnitude =>
      let digits :=
        if magnitude.significand = 0 then ['0', '.', '0']
        else Number.positional (magnitude.shortest .up)
      String.ofList (if negative then '-' :: digits else digits)
  | infinite negative => if negative then "-inf" else "inf"
  | notANumber => "NaN"

end Real

namespace Meaning

def isNull (text : List Char) : Bool :=
  ["null", "Null", "NULL", "~"].any (text = ·.toList)

def bool? (text : List Char) : Option Bool :=
  if ["true", "True", "TRUE"].any (text = ·.toList) then some true
  else if ["false", "False", "FALSE"].any (text = ·.toList) then some false
  else none

/-- Digits that start with a zero but are not zero itself.  They are no number. -/
def isPadded (text : List Char) : Bool :=
  let digits := if text.head? = some '-' || text.head? = some '+' then text.drop 1 else text
  1 < digits.length && digits.head? = some '0' && digits.all Char.isDigit

/-- Digits behind the sign of their base. -/
def based? (text : List Char) : Option Nat :=
  match text with
  | '0' :: 'x' :: digits => Text.natural? 16 digits
  | '0' :: 'o' :: digits => Text.natural? 8 digits
  | '0' :: 'b' :: digits => Text.natural? 2 digits
  | _ => none

/-- A natural number in any base, with at most one plus sign in front. -/
def natural? (text : List Char) : Option Nat :=
  let digits := Text.dropPlus text
  match based? digits with
  | some value => some value
  | none => if isPadded text then none else Text.natural? 10 digits

/-- The magnitude of a number in any base behind a minus sign. -/
def negated? (text : List Char) : Option Nat :=
  match text with
  | '-' :: digits =>
      match based? digits with
      | some value => some value
      | none => if isPadded text then none else Text.natural? 10 digits
  | _ => none

/-- A natural number below a limit. -/
def naturalBelow? (limit : Nat) (text : List Char) : Option Nat :=
  (natural? text).filter (· < limit)

def whole? (text : List Char) : Option Meaning :=
  match natural? text, negated? text with
  | some value, _ =>
      if value < Nat.pow 2 64 then some (.whole value)
      else if value < Nat.pow 2 128 then some (.wide value)
      else none
  | none, some value =>
      if value ≤ Nat.pow 2 63 then some (.whole (-value))
      else if value ≤ Nat.pow 2 127 then some (.wide (-value))
      else none
  | none, none => none

/-- The exponent at the end of a number: a letter and a number with at most one
sign, or nothing. -/
def exponent? (text : List Char) : Option Int :=
  match text with
  | [] => some 0
  | c :: rest =>
      if c = 'e' || c = 'E' then
        match rest with
        | '-' :: digits => (Text.natural? 10 digits).map fun value => -(value : Int)
        | _ => (Text.natural? 10 (Text.dropPlus rest)).map Int.ofNat
      else none

/-- The magnitude of a number in decimal, when it is not too large.  There is a
digit before or behind the point. -/
def magnitude? (text : List Char) : Option Number.Binary :=
  let whole := text.takeWhile Char.isDigit
  let rest := text.dropWhile Char.isDigit
  let fraction := if rest.head? = some '.' then (rest.drop 1).takeWhile Char.isDigit else []
  let tail := if rest.head? = some '.' then (rest.drop 1).dropWhile Char.isDigit else rest
  match Text.natural? 10 (whole ++ fraction), exponent? tail with
  | some digits, some exponent => Number.Binary.ofDecimal? digits (exponent - fraction.length)
  | _, _ => none

/-- A number with a point or an exponent, or one of the spellings of what is no
finite number. -/
def real? (text : List Char) : Option Real :=
  let unsigned := Text.dropPlus text
  if [".inf", ".Inf", ".INF"].any (unsigned = ·.toList) then some (.infinite false)
  else if ["-.inf", "-.Inf", "-.INF"].any (text = ·.toList) then some (.infinite true)
  else if [".nan", ".NaN", ".NAN"].any (text = ·.toList) then some .notANumber
  else
    match text with
    | '-' :: digits => (magnitude? digits).map (.finite true)
    | _ => (magnitude? unsigned).map (.finite false)

/-- What a scalar without quotes and without a tag means. -/
def ofPlain (text : List Char) : Meaning :=
  if text.isEmpty || isNull text then .nothing
  else
    match bool? text, whole? text with
    | some value, _ => .bool value
    | none, some meaning => meaning
    | none, none =>
        match real? text with
        | some value => if isPadded text then .text text else .real value
        | none => .text text

end Meaning

namespace Scalar

def standardTag (name : String) : List Char :=
  "tag:yaml.org,2002:".toList ++ name.toList

/-- What a scalar means, or what its tag asks for in vain. -/
def meaning (scalar : Scalar) : Except String Meaning :=
  let text := scalar.text
  let orRefuse (wanted : String) : Option Meaning -> Except String Meaning
    | some meaning => .ok meaning
    | none => .error wanted
  match scalar.tag with
  | none => .ok (if scalar.style = .plain then .ofPlain text else .text text)
  | some tag =>
      if tag = standardTag "bool" then orRefuse "a boolean" ((Meaning.bool? text).map .bool)
      else if tag = standardTag "int" then orRefuse "an integer" (Meaning.whole? text)
      else if tag = standardTag "float" then orRefuse "a float" ((Meaning.real? text).map .real)
      else if tag = standardTag "null" then
        orRefuse "null" (if Meaning.isNull text then some .nothing else none)
      else .ok (if tag.head? = some '!' && scalar.style = .plain then .ofPlain text else .text text)

/-- The scalar may stand for a whole number: it is plain, or a literal one whose
tag says so. -/
def mayBeWhole (scalar : Scalar) : Bool :=
  match scalar.style with
  | .plain => true
  | .literal => scalar.tag = some (standardTag "int")
  | _ => false

end Scalar
end Yaml
end CardTable
