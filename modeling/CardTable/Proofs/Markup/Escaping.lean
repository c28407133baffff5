import CardTable.Display
import CardTable.Proofs.Markup.Entities

namespace CardTable
namespace Markup

/-!
# Escaped text between tags

The server escapes what players type and sets tags around it.  An escaped text
has no bracket, so dropping tags takes out the tags of the server and nothing
else, and what is left is an escaped text again.  Decoding gives back what was
typed, whatever it looks like: the ampersand of a typed entity was escaped
itself, and it is decoded once.
-/

/-- A text with its special characters escaped.  Some have more than one entity,
and a slash may stay as it is. -/
inductive Escaped : List Char -> List Char -> Prop where
  | done : Escaped [] []
  | spelled {character : Char} {spelling text escaped : List Char} :
      Entity spelling character -> Escaped text escaped ->
      Escaped (character :: text) (spelling ++ escaped)
  | kept {c : Char} {text escaped : List Char} :
      c ∉ ['&', '<', '>', '\x22', '\x27'] -> Escaped text escaped ->
      Escaped (c :: text) (c :: escaped)

/-- A part of what the server sends. -/
inductive Piece where
  /-- Text that is shown, in an escaped form. -/
  | text (shown written : String) (escaped : Escaped shown.toList written.toList)
  | tag (inside : String) (unbroken : '>' ∉ inside.toList)

namespace Piece

def written : Piece -> String
  | text _ written _ => written
  | tag inside _ => "<" ++ inside ++ ">"

def shown : Piece -> String
  | text shown _ _ => shown
  | tag _ _ => ""

end Piece

/-! ## Escaped text -/

section

variable {text escaped other otherEscaped : List Char}

theorem exists_escaped (text : List Char) : Exists fun escaped => Escaped text escaped := by
  induction text with
  | nil => exact ⟨[], .done⟩
  | cons c rest inductionHypothesis =>
      obtain ⟨escaped, behind⟩ := inductionHypothesis
      by_cases special : c ∈ ['&', '<', '>', '\x22', '\x27']
      · have entity : Exists fun spelling => Entity spelling c := by
          simp only [List.mem_cons, List.not_mem_nil, or_false] at special
          rcases special with rfl | rfl | rfl | rfl | rfl
          exacts [⟨_, .ampersand⟩, ⟨_, .less⟩, ⟨_, .greater⟩, ⟨_, .quote⟩, ⟨_, .apostrophe⟩]
        obtain ⟨spelling, spelled⟩ := entity
        exact ⟨spelling ++ escaped, .spelled spelled behind⟩
      · exact ⟨c :: escaped, .kept special behind⟩

theorem Escaped.append (first : Escaped text escaped) (second : Escaped other otherEscaped) :
    Escaped (text ++ other) (escaped ++ otherEscaped) := by
  induction first with
  | done => exact second
  | spelled entity _ inductionHypothesis =>
      rw [List.append_assoc]
      exact .spelled entity inductionHypothesis
  | kept special _ inductionHypothesis => exact .kept special inductionHypothesis

theorem Entity.no_bracket {spelling : List Char} {character : Char}
    (entity : Entity spelling character) : '<' ∉ spelling := by
  cases entity <;> decide

theorem Escaped.no_bracket (escapes : Escaped text escaped) : '<' ∉ escaped := by
  induction escapes with
  | done => exact List.not_mem_nil
  | spelled entity _ inductionHypothesis =>
      rw [List.mem_append]
      exact not_or.mpr ⟨entity.no_bracket, inductionHypothesis⟩
  | kept special _ inductionHypothesis =>
      rw [List.mem_cons]
      refine not_or.mpr ⟨?_, inductionHypothesis⟩
      rintro rfl
      exact special (by decide)

theorem Escaped.decode_eq (escapes : Escaped text escaped) : decode escaped = text := by
  induction escapes with
  | done => exact decode_nil
  | spelled entity _ inductionHypothesis => rw [decode_entity entity, inductionHypothesis]
  | kept special _ inductionHypothesis =>
      rw [decode_cons_of_ne, inductionHypothesis]
      rintro rfl
      exact special List.mem_cons_self

end

/-! ## Pieces -/

/-- Without the tags, the pieces are one escaped text. -/
theorem escaped_strip_pieces (pieces : List Piece) :
    Escaped (String.join (pieces.map Piece.shown)).toList
      (strip (String.join (pieces.map Piece.written)).toList) := by
  induction pieces with
  | nil =>
      rw [List.map_nil, List.map_nil, String.join_nil, String.toList_empty, strip_nil]
      exact .done
  | cons piece pieces inductionHypothesis =>
      rw [List.map_cons, List.map_cons, String.join_cons, String.join_cons, String.toList_append,
        String.toList_append]
      cases piece with
      | text shown written escaped =>
          rw [Piece.written, strip_append_of_not_mem escaped.no_bracket]
          exact escaped.append inductionHypothesis
      | tag inside unbroken =>
          have tag : (Piece.tag inside unbroken).written.toList =
              '<' :: (inside.toList ++ ['>']) := by
            rw [Piece.written, String.toList_append, String.toList_append]
            rfl
          rw [tag, List.cons_append, List.append_assoc, List.singleton_append, strip_tag unbroken]
          exact inductionHypothesis

theorem plain_pieces (pieces : List Piece) :
    plain (String.join (pieces.map Piece.written)) = String.join (pieces.map Piece.shown) := by
  rw [plain, (escaped_strip_pieces pieces).decode_eq, String.ofList_toList]

/-- A terminal shows what was escaped, without the tags around it.

For any sequence of tags and escaped texts, whatever those texts are, the
terminal writes the texts themselves one behind the other: behind its mark when
they are received, for the hand and for the play area of an update, and for the
title of a card.  Every text can be escaped. -/
theorem escaping_undone :
    (forall text, Exists fun escaped => Escaped text escaped) ∧
    forall pieces : List Piece,
      let written := String.join (pieces.map Piece.written)
      let shown := String.join (pieces.map Piece.shown)
      Terminal.text [.received written] = "<<< " ++ shown ++ "\n" ∧
      (forall others : List Piece,
        Terminal.text [.update written (String.join (others.map Piece.written))] =
          "### hand\n" ++ shown ++ "\n### play\n" ++ String.join (others.map Piece.shown) ++ "\n") ∧
      (forall card : Card,
        Terminal.text [.inspect { card with title := written }] =
          "### " ++ shown ++ " (value " ++ card.value ++ ")\n" ++
            String.join ((Terminal.cardLines card).tail.map (· ++ "\n"))) := by
  refine ⟨exists_escaped, fun pieces => ⟨?_, fun others => ?_, fun card => ?_⟩⟩
  · rw [Terminal.text_received, plain_pieces]
  · rw [Terminal.text_update, plain_pieces, plain_pieces]
  · rw [Terminal.text_inspect, plain_pieces]
    rfl

/-- A player typed a tag and an entity, and the server set a tag between them. -/
example : Terminal.text [.received "&lt;b&gt;<span class=\x22x\x22>&amp;lt;"] = "<<< <b>&lt;\n" := by
  decide +kernel

end Markup
end CardTable
