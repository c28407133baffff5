namespace CardTable
namespace Text

/-!
# Ranges of code points

A character property of the Unicode standard is carried as the closed ranges
of code points that have it.  The tables in this directory are for Unicode
17.0.  They are data: the rules that use them live beside the functions that
apply those rules.
-/

/-- Closed ranges of code points, ascending and apart. -/
abbrev Ranges := List (Nat × Nat)

namespace Ranges

def holds (ranges : Ranges) (c : Char) : Bool :=
  ranges.any fun range => decide (range.1 ≤ c.toNat) && decide (c.toNat ≤ range.2)

/-- Each range is in order, and a gap separates it from the next one. -/
def ascending : Ranges -> Bool
  | [] => true
  | [range] => decide (range.1 ≤ range.2)
  | range :: next :: rest =>
      decide (range.1 ≤ range.2) && decide (range.2 + 1 < next.1) && ascending (next :: rest)

end Ranges
end Text
end CardTable
