import CardTable.Text.Run

namespace CardTable

/-!
# Markup

Text from the server may carry tags, and escapes a few characters as entities.
A terminal shows neither: tags are dropped, then entities become the characters
they stand for.  The ampersand comes last, so that an escaped entity is shown
as it was typed.
-/

namespace Markup

/-- Drop every tag.  A bracket that opens no tag is kept: no bracket after it
closes one, so nothing behind it is a tag either. -/
def strip : List Char -> List Char
  | [] => []
  | c :: rest =>
      if c = '<' then
        match _ : rest.dropWhile (· ≠ '>') with
        | [] => c :: rest
        | _ :: after => strip after
      else c :: strip rest
termination_by text => text.length
decreasing_by
  · rename_i closing
    have shorter := Text.length_dropWhile_le (fun d => decide (d ≠ '>')) rest
    simp only [closing, List.length_cons] at shorter ⊢
    omega
  · simp

/-- The entities that are decoded, in this order. -/
def entities : List (List Char × Char) :=
  [("&lt;".toList, '<'), ("&gt;".toList, '>'), ("&quot;".toList, '\x22'),
    ("&#39;".toList, '\x27'), ("&#x27;".toList, '\x27'), ("&#x2F;".toList, '/'),
    ("&amp;".toList, '&')]

/-- Put a character in place of every occurrence of an entity. -/
def replace (entity : List Char) (character : Char) : List Char -> List Char
  | [] => []
  | c :: rest =>
      if entity.isPrefixOf (c :: rest) then
        character :: replace entity character (rest.drop (entity.length - 1))
      else c :: replace entity character rest
termination_by text => text.length
decreasing_by
  · simp only [List.length_drop, List.length_cons]
    omega
  · simp

def decode (text : List Char) : List Char :=
  entities.foldl (fun text entity => replace entity.1 entity.2 text) text

def plain (text : String) : String :=
  String.ofList (decode (strip text.toList))

end Markup
end CardTable
