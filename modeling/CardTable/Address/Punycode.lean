namespace CardTable
namespace Address

/-!
# Labels beyond ASCII

A label of a host name that has characters beyond ASCII is carried as ASCII:
first the ASCII characters of the label, then, behind a dash, one number for
each other character.  A number says how far to step through all pairs of a
code point and a place in the label, in order, to come to the next insertion.
-/

namespace Punycode

/-- The digits of the numbers: letters from zero, then decimal digits. -/
def digit (value : Nat) : Char :=
  if value < 26 then Char.ofNat (97 + value) else Char.ofNat (22 + value)

def digitValue? (c : Char) : Option Nat :=
  if c.isLower then some (c.toNat - 97)
  else if c.isUpper then some (c.toNat - 65)
  else if c.isDigit then some (c.toNat - 22)
  else none

/-- The digit values that go on with a number at a place. -/
def threshold (bias place : Nat) : Nat :=
  min 26 (max 1 (place - bias))

/-- The greater part of a bias, and the step that is left for the rest. -/
def scale (delta : Nat) : Nat × Nat :=
  if 455 < delta then
    let (bias, left) := scale (delta / 35)
    (bias + 36, left)
  else (0, delta)
termination_by delta
decreasing_by exact Nat.div_lt_self (by omega) (by omega)

/-- The bias after a step, for a label of the given length so far. -/
def adapt (delta length : Nat) (first : Bool) : Nat :=
  let halved := if first then delta / 700 else delta / 2
  let (bias, left) := scale (halved + halved / length)
  bias + 36 * left / (left + 38)

/-- Where decoding stands. -/
structure Position where
  label : List Char
  point : Nat := 128
  place : Nat := 0
  bias : Nat := 72

def Position.insert? (here : Position) (delta : Nat) : Option Position :=
  let length := here.label.length + 1
  let total := here.place + delta
  let point := here.point + total / length
  let place := total % length
  if point.isValidChar then
    some
      { label := here.label.take place ++ Char.ofNat point :: here.label.drop place
        point := point
        place := place + 1
        bias := adapt delta length (decide (here.place = 0)) }
  else none

/-- Read numbers to the end.  `step` and `weight` belong to the number that is
being read, whose next digit stands at `place`. -/
def decodeFrom? (here : Position) (step weight place : Nat) : List Char -> Option Position
  | [] => if place = 36 then some here else none
  | c :: rest =>
      match digitValue? c with
      | none => none
      | some value =>
          let total := step + value * weight
          let limit := threshold here.bias place
          if Nat.pow 2 32 ≤ total then none
          else if value < limit then
            match here.insert? total with
            | some next => decodeFrom? next 0 1 36 rest
            | none => none
          else decodeFrom? here total (weight * (36 - limit)) (place + 36) rest

def decode? (text : List Char) : Option (List Char) :=
  let tail := (text.reverse.takeWhile (· ≠ '-')).reverse
  let head := (text.take (text.length - tail.length)).dropLast
  (decodeFrom? { label := head } 0 1 36 tail).map Position.label

/-- A number, with the digits that a place and a bias ask for. -/
def encodeStep (bias place value : Nat) : List Char :=
  if value < threshold bias place then [digit value]
  else
    digit (threshold bias place + (value - threshold bias place) % (36 - threshold bias place)) ::
      encodeStep bias (place + 36)
        ((value - threshold bias place) / (36 - threshold bias place))
termination_by value
decreasing_by
  have low : 1 ≤ threshold bias place := by unfold threshold; omega
  have shrinks := Nat.div_le_self (value - threshold bias place) (36 - threshold bias place)
  omega

/-- The insertions that make up a label, in the order in which a reader meets
them: the code point, and the place among what is there by then. -/
def insertions (label : List Char) : List (Nat × Nat) :=
  let points := label.zipIdx.filterMap fun (c, index) =>
    if c.toNat < 128 then none
    else some (c.toNat, ((label.take index).filter (·.toNat ≤ c.toNat)).length)
  points.mergeSort fun left right => decide (left.1 ≤ right.1)

/-- Write the steps to the insertions, with `length` characters in place. -/
def encodeFrom (point place bias length : Nat) (first : Bool) : List (Nat × Nat) -> List Char
  | [] => []
  | (nextPoint, nextPlace) :: rest =>
      let delta := (nextPoint - point) * (length + 1) + nextPlace - place
      let nextBias := adapt delta (length + 1) first
      encodeStep bias 36 delta ++
        encodeFrom nextPoint (nextPlace + 1) nextBias (length + 1) false rest

def encode (label : List Char) : List Char :=
  let head := label.filter (·.toNat < 128)
  (if head.isEmpty then [] else head ++ ['-']) ++
    encodeFrom 128 0 72 head.length true (insertions label)

end Punycode
end Address
end CardTable
