namespace CardTable
namespace Number

/-!
# Binary numbers of double width

A finite magnitude is a natural significand times a power of two.  The format
keeps 53 significant bits and nothing finer than `2 ^ -1074`.  Every operation
here is the exact rational result, rounded once to the nearest member of the
format, with a tie going to the even significand.  Machine floating point is
not involved, so results can be computed inside a proof.
-/

/-- The magnitude `significand * 2 ^ exponent`. -/
structure Binary where
  significand : Nat
  exponent : Int
  deriving DecidableEq, Repr

namespace Binary

/-- The exponent of the finest members of the format. -/
def finest : Int := -1074

/-- The exponent of the coarsest members of the format. -/
def coarsest : Int := 971

def zero : Binary := ⟨0, finest⟩

/-- The numerator of a magnitude written as a quotient of naturals. -/
def numerator (x : Binary) : Nat := x.significand * Nat.pow 2 x.exponent.toNat

/-- The denominator of a magnitude written as a quotient of naturals. -/
def denominator (x : Binary) : Nat := Nat.pow 2 (-x.exponent).toNat

/-- The quotient rounded to the nearest integer, a tie going to the even one. -/
def nearest (numerator denominator : Nat) : Nat :=
  let quotient := numerator / denominator
  match compare (2 * (numerator % denominator)) denominator with
  | .lt => quotient
  | .gt => quotient + 1
  | .eq => quotient + quotient % 2

/-- The greatest `k` with `2 ^ k` at most a positive quotient. -/
def magnitude (numerator denominator : Nat) : Int :=
  let guess : Int := (numerator.log2 : Int) - (denominator.log2 : Int)
  if denominator * Nat.pow 2 guess.toNat ≤ numerator * Nat.pow 2 (-guess).toNat then guess
  else guess - 1

/-- Round a quotient to the format.  There is no member when the rounded value
is too large. -/
def ofRatio? (numerator denominator : Nat) : Option Binary :=
  if numerator = 0 then some zero
  else
    let exponent := max (magnitude numerator denominator - 52) finest
    let significand :=
      nearest (numerator * Nat.pow 2 (-exponent).toNat)
        (denominator * Nat.pow 2 exponent.toNat)
    let rounded : Binary :=
      if significand = Nat.pow 2 53 then ⟨Nat.pow 2 52, exponent + 1⟩ else ⟨significand, exponent⟩
    if rounded.exponent ≤ coarsest then some rounded else none

def mul? (x y : Binary) : Option Binary :=
  ofRatio? (x.numerator * y.numerator) (x.denominator * y.denominator)

def div? (x y : Binary) : Option Binary :=
  ofRatio? (x.numerator * y.denominator) (x.denominator * y.numerator)

/-- A digit string with a decimal exponent, rounded once.  Exponents far outside
the format are settled by size alone. -/
def ofDecimal? (digits : Nat) (exponent : Int) : Option Binary :=
  let size := (Nat.toDigits 10 digits).length + exponent
  if digits = 0 || size < -330 then some zero
  else if size > 310 then none
  else ofRatio? (digits * Nat.pow 10 exponent.toNat) (Nat.pow 10 (-exponent).toNat)

end Binary
end Number
end CardTable
