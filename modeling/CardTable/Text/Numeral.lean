namespace CardTable
namespace Text

/-!
# Numerals

Digits and their value, for texts of any length.  Nothing wraps: a numeral is
read as a natural number first, and a limit is a test on that number.
-/

/-- The value of a digit below sixteen; letters count from ten in either case. -/
def digitValue? (c : Char) : Option Nat :=
  if c.isDigit then some (c.toNat - 48)
  else if 97 ≤ c.toNat && c.toNat ≤ 102 then some (c.toNat - 87)
  else if 65 ≤ c.toNat && c.toNat ≤ 70 then some (c.toNat - 55)
  else none

/-- The value of a digit of the given base. -/
def digitIn? (base : Nat) (c : Char) : Option Nat :=
  (digitValue? c).filter (· < base)

/-- Read digits after the ones whose value is `total`. -/
def digitsFrom? (base total : Nat) : List Char -> Option Nat
  | [] => some total
  | c :: rest =>
      match digitIn? base c with
      | some digit => digitsFrom? base (total * base + digit) rest
      | none => none

/-- The value of a non-empty run of digits and nothing else. -/
def natural? (base : Nat) (digits : List Char) : Option Nat :=
  if digits.isEmpty then none else digitsFrom? base 0 digits

def dropPlus : List Char -> List Char
  | [] => []
  | c :: rest => if c = '+' then rest else c :: rest

/-- A decimal number below the limit, with at most one plus sign in front. -/
def naturalBelow? (limit : Nat) (text : List Char) : Option Nat :=
  (natural? 10 (dropPlus text)).filter (· < limit)

/-- A number with at most one sign in front, between `-limit` and `limit - 1`. -/
def integerWithin? (base limit : Nat) : List Char -> Option Int
  | [] => none
  | c :: rest =>
      if c = '-' then
        ((natural? base rest).filter (· ≤ limit)).map fun magnitude => -(magnitude : Int)
      else
        ((natural? base (dropPlus (c :: rest))).filter (· < limit)).map Int.ofNat

def decimal (n : Nat) : List Char :=
  Nat.toDigits 10 n

/-- The digits of an integer in base ten, behind a minus sign if it is
negative. -/
def integer (n : Int) : List Char :=
  if n < 0 then '-' :: decimal n.natAbs else decimal n.natAbs

end Text
end CardTable
