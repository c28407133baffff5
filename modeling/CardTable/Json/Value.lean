import CardTable.Number.Shortest

namespace CardTable
namespace Json

/-!
# Values of JSON text

A value is what a JSON text stands for once spelling is set aside.  An object
keeps one value for each key, in the order of the keys, so two texts that
differ in the order of members or in overwritten members have equal values.
-/

/-- A number.  Whole numbers that fit 64 bits, signed or unsigned, keep every
digit; the others are magnitudes of double width with a sign. -/
inductive Number where
  | whole (value : Int)
  | real (negative : Bool) (magnitude : CardTable.Number.Binary)
  deriving DecidableEq, Repr

inductive Value where
  | null
  | bool (value : Bool)
  | number (value : Number)
  | string (text : String)
  | array (items : List Value)
  | object (members : List (String × Value))
  deriving Repr

/-- The members of an object, ascending by key, each key once. -/
abbrev Members := List (String × Value)

namespace Members

/-- Set the value of a key.  A key that is present gives up its old value. -/
def insert (key : String) (value : Value) : Members -> Members
  | [] => [(key, value)]
  | (first, old) :: rest =>
      if key = first then (key, value) :: rest
      else if key < first then (key, value) :: (first, old) :: rest
      else (first, old) :: insert key value rest

def get? (members : Members) (key : String) : Option Value :=
  (members.find? fun member => member.1 == key).map Prod.snd

end Members
end Json
end CardTable
