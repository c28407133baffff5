import CardTable.Number.Binary

namespace CardTable
namespace Number

/-!
# The fewest digits that read back

A binary magnitude is shown by a decimal that rounds back to it.  Among those
the decimal on the coarsest grid of powers of ten is taken, and of two on the
same grid the nearer one.
-/

/-- The decimal `digits * 10 ^ exponent`. -/
structure Decimal where
  digits : Nat
  exponent : Int
  deriving DecidableEq, Repr

/-- Which of two equally near decimals is taken. -/
inductive Tie where
  | even
  | up
  deriving DecidableEq, Repr

namespace Binary

/-- The neighbour below is only half as far away as the neighbour above. -/
def narrowBelow (x : Binary) : Bool :=
  x.significand == Nat.pow 2 52 && decide (finest < x.exponent)

/-- The four bounds of a search, over the common denominator `unit`: the
magnitude itself and the ends of the interval of reals that round to it. -/
structure Interval where
  low : Nat
  value : Nat
  high : Nat
  unit : Nat
  closed : Bool

/-- The reals that round to this magnitude, with grid `10 ^ grid` as the unit.
The ends belong to it when the significand is even. -/
def interval (x : Binary) (grid : Int) : Interval :=
  let scale := Nat.pow 2 (x.exponent - 2).toNat * Nat.pow 10 (-grid).toNat
  { low := (if x.narrowBelow then 4 * x.significand - 1 else 4 * x.significand - 2) * scale
    value := 4 * x.significand * scale
    high := (4 * x.significand + 2) * scale
    unit := Nat.pow 2 (2 - x.exponent).toNat * Nat.pow 10 grid.toNat
    closed := x.significand % 2 == 0 }

namespace Interval

/-- The point `count` steps from zero on the grid lies in the interval. -/
def holds (bounds : Interval) (count : Nat) : Bool :=
  let point := count * bounds.unit
  if bounds.closed then decide (bounds.low ≤ point) && decide (point ≤ bounds.high)
  else decide (bounds.low < point) && decide (point < bounds.high)

/-- The nearer of the two grid points around the magnitude, if it reads back. -/
def point? (tie : Tie) (bounds : Interval) : Option Nat :=
  let below := bounds.value / bounds.unit
  match bounds.holds below, bounds.holds (below + 1) with
  | false, false => none
  | true, false => some below
  | false, true => some (below + 1)
  | true, true =>
      match compare (2 * (bounds.value % bounds.unit)) bounds.unit, tie with
      | .lt, _ => some below
      | .gt, _ => some (below + 1)
      | .eq, .up => some (below + 1)
      | .eq, .even => some (below + below % 2)

end Interval

/-- Try grids from coarse to fine. -/
def shortestFrom (tie : Tie) (x : Binary) (grid : Int) : Nat -> Decimal
  | 0 => ⟨x.numerator * Nat.pow 5 (-x.exponent).toNat, min x.exponent 0⟩
  | tries + 1 =>
      match (x.interval grid).point? tie with
      | some count => ⟨count, grid⟩
      | none => shortestFrom tie x (grid - 1) tries

/-- The shortest decimal of a positive magnitude.  The first grid is coarser
than the magnitude; seventeen digits below its leading digit always suffice,
and the exact value stands behind the last try. -/
def shortest (tie : Tie) (x : Binary) : Decimal :=
  let top : Int := Binary.magnitude x.numerator x.denominator * 30103 / 100000 + 2
  shortestFrom tie x top 24

end Binary

/-- Digits with a point among them and at least one digit on each side of it. -/
def positional (x : Decimal) : List Char :=
  let digits := Nat.toDigits 10 x.digits
  let whole : Int := digits.length + x.exponent
  if 0 ≤ x.exponent then digits ++ List.replicate x.exponent.toNat '0' ++ ['.', '0']
  else if 0 < whole then digits.take whole.toNat ++ '.' :: digits.drop whole.toNat
  else ['0', '.'] ++ List.replicate (-whole).toNat '0' ++ digits

/-- One digit before the point, and a signed power of ten. -/
def scientific (x : Decimal) : List Char :=
  let digits := Nat.toDigits 10 x.digits
  let power : Int := digits.length + x.exponent - 1
  let fraction := if digits.length ≤ 1 then [] else '.' :: digits.drop 1
  digits.take 1 ++ fraction ++ ['e', if power < 0 then '-' else '+'] ++ Nat.toDigits 10 power.natAbs

/-- The power of ten of the leading digit. -/
def Decimal.leading (x : Decimal) : Int :=
  (Nat.toDigits 10 x.digits).length + x.exponent - 1

end Number
end CardTable
