namespace CardTable
namespace Text

/-!
# Runs

A scan that takes a run of characters off the front of a text goes on with what
is left.  That it ends is a matter of lengths.
-/

/-- What is left of a text after a run is no longer than the text. -/
theorem length_dropWhile_le (p : Char -> Bool) (text : List Char) :
    (text.dropWhile p).length ≤ text.length :=
  (List.dropWhile_suffix p).length_le

end Text
end CardTable
