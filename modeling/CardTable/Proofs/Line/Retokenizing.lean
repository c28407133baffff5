import CardTable.Proofs.Line.TokenLists

namespace CardTable
namespace Line

/-!
# Reading the tokens of a line again

The tokens of a line are joined with single spaces and read once more.  The same
tokens come out exactly if they are plain.  That it is so only then is a matter
of counting quotes.  A joined line has the quotes of its tokens and no others,
so if it has the same tokens again, no quote is left over to begin a span or to
go without a partner.
-/

/-- The token has neither blanks nor quotes in it. -/
def Plain (token : String) : Prop :=
  forall c, c ∈ token.toList -> isBlank c = false ∧ isQuote c = false

theorem plain_iff {token : String} :
    Plain token ↔ forall c, c ∈ token.toList -> isBare c = true := by
  simp only [Plain, isBare_iff]

/-! ## Counting quotes -/

namespace Piece

/-- The characters of the token that a piece gives. -/
def inside : Piece -> List Char
  | bare run => run
  | span _ text => text
  | _ => []

/-- The quotes of a piece that do not belong to its token. -/
def marks : Piece -> List Char
  | span mark _ => [mark, mark]
  | stray mark => [mark]
  | _ => []

/-- A quote of a piece belongs to its token, or it is a mark. -/
theorem countP_isQuote_text {piece : Piece} (formed : piece.Formed) :
    piece.text.countP isQuote = piece.inside.countP isQuote + piece.marks.length := by
  cases piece with
  | blank c =>
      have notQuote : ¬ isQuote c = true := by
        intro quote
        have blank : isBlank c = true := formed
        rw [isBlank_of_isQuote quote] at blank
        cases blank
      exact List.countP_cons_of_neg notQuote
  | bare run => rfl
  | span mark text =>
      have quote : isQuote mark = true := formed.1
      rw [Piece.text, List.countP_cons_of_pos quote, List.countP_append,
        List.countP_cons_of_pos quote]
      rfl
  | stray mark => exact List.countP_cons_of_pos formed

end Piece

theorem flatMap_toList_tokens (cut : List Piece) :
    (cut.filterMap Piece.token?).flatMap String.toList = cut.flatMap Piece.inside := by
  induction cut with
  | nil => rfl
  | cons piece cut inductionHypothesis =>
      rw [List.flatMap_cons, ← inductionHypothesis]
      cases piece with
      | blank c => rfl
      | stray mark => rfl
      | bare run => exact congrArg (· ++ _) (String.toList_ofList (l := run))
      | span mark text => exact congrArg (· ++ _) (String.toList_ofList (l := text))

/-- The quotes of a line are those of its tokens and the marks. -/
theorem countP_isQuote_cut {cut : List Piece}
    (formed : forall piece, piece ∈ cut -> piece.Formed) :
    (cut.flatMap Piece.text).countP isQuote =
      ((cut.filterMap Piece.token?).flatMap String.toList).countP isQuote +
        (cut.flatMap Piece.marks).length := by
  rw [flatMap_toList_tokens]
  induction cut with
  | nil => rfl
  | cons piece cut inductionHypothesis =>
      rw [List.forall_mem_cons] at formed
      have first := Piece.countP_isQuote_text formed.1
      have others := inductionHypothesis formed.2
      simp only [List.flatMap_cons, List.countP_append, List.length_append]
      omega

/-- Joining tokens with spaces adds no quotes. -/
theorem countP_isQuote_joined (tokens : List String) :
    (String.intercalate " " tokens).toList.countP isQuote =
      (tokens.flatMap String.toList).countP isQuote := by
  induction tokens with
  | nil => rfl
  | cons first others inductionHypothesis =>
      cases others with
      | nil => rw [String.intercalate_singleton, List.flatMap_singleton]
      | cons next more =>
          have space : " ".toList.countP isQuote = 0 := rfl
          rw [String.intercalate_cons_cons, String.toList_append, String.toList_append,
            List.flatMap_cons, List.countP_append, List.countP_append, List.countP_append,
            inductionHypothesis, space, Nat.add_zero]

/-! ## Stable tokens -/

/-- A cut without marks gives plain tokens. -/
theorem Cuts.plain {line : List Char} {cut : List Piece} (cuts : Cuts line cut)
    (unmarked : cut.flatMap Piece.marks = []) {token : String}
    (member : token ∈ cut.filterMap Piece.token?) : Plain token := by
  rcases mem_tokens_iff.mp member with ⟨run, among, rfl⟩ | ⟨mark, inside, among, rfl⟩
  · rw [plain_iff, String.toList_ofList]
    exact (cuts.formed _ among).2
  · have noMarks := List.flatMap_eq_nil_iff.mp unmarked _ among
    cases noMarks

theorem plain_of_stable {tokens : List String}
    (stable : tokenize (String.intercalate " " tokens) = .ok tokens) {token : String}
    (member : token ∈ tokens) : Plain token := by
  have cuts := cuts_pieces (String.intercalate " " tokens).toList
  rw [tokenize_of_cuts cuts, tokensOf_ok_iff] at stable
  have counted := countP_isQuote_cut cuts.formed
  rw [cuts.whole, stable.2, countP_isQuote_joined] at counted
  have unmarked : (pieces (String.intercalate " " tokens).toList).flatMap Piece.marks = [] := by
    apply List.eq_nil_of_length_eq_zero
    omega
  rw [← stable.2] at member
  exact cuts.plain unmarked member

theorem stable_of_plain {tokens : List String}
    (representable : forall token, token ∈ tokens -> Representable token)
    (plain : forall token, token ∈ tokens -> Plain token) :
    tokenize (String.intercalate " " tokens) = .ok tokens := by
  have typed : AllTyped tokens tokens := by
    apply List.forall₂_same.mpr
    intro token member
    exact typed_of_bare (representable token member).1 (plain_iff.mp (plain token member))
  cases tokens with
  | nil => exact tokenize_empty
  | cons first others => exact tokenize_intercalate typed

/-- Without blanks inside, tokens are plain as soon as no span holds a quote. -/
theorem Cuts.plain_iff_of_no_blank {line : List Char} {cut : List Piece} (cuts : Cuts line cut)
    (noBlank : forall token, token ∈ cut.filterMap Piece.token? ->
      forall c, c ∈ token.toList -> isBlank c = false) :
    (forall token, token ∈ cut.filterMap Piece.token? -> Plain token) ↔
      forall mark inside, .span mark inside ∈ cut -> forall c, c ∈ inside -> isQuote c = false := by
  constructor
  · intro plain mark inside among c member
    have token : String.ofList inside ∈ cut.filterMap Piece.token? :=
      mem_tokens_iff.mpr (Or.inr ⟨mark, inside, among, rfl⟩)
    refine (plain _ token c ?_).2
    rwa [String.toList_ofList]
  · intro quoteless token member c within
    refine ⟨noBlank token member c within, ?_⟩
    rcases mem_tokens_iff.mp member with ⟨run, among, rfl⟩ | ⟨mark, inside, among, rfl⟩
    · rw [String.toList_ofList] at within
      exact (isBare_iff.mp ((cuts.formed _ among).2 c within)).2
    · rw [String.toList_ofList] at within
      exact quoteless mark inside among c within

/-- The tokens of a line, joined with single spaces, are read as the same tokens
again exactly if none of them has a blank or a quote in it.

If there are no blanks in them, as the documented law has it, they are stable
exactly if no quoted span of the line holds a quote, which can only be one of the
other kind. -/
theorem stable_iff_plain {line : String} {tokens : List String}
    (read : tokenize line = .ok tokens) :
    (tokenize (String.intercalate " " tokens) = .ok tokens ↔
      forall token, token ∈ tokens -> Plain token) ∧
    (forall cut, Cuts line.toList cut ->
      (forall token, token ∈ tokens -> forall c, c ∈ token.toList -> isBlank c = false) ->
      (tokenize (String.intercalate " " tokens) = .ok tokens ↔
        forall mark inside, .span mark inside ∈ cut -> forall c, c ∈ inside ->
          isQuote c = false)) := by
  have stable : tokenize (String.intercalate " " tokens) = .ok tokens ↔
      forall token, token ∈ tokens -> Plain token :=
    ⟨fun again _ => plain_of_stable again, stable_of_plain (representable_of_tokenize read)⟩
  refine ⟨stable, ?_⟩
  intro cut cuts noBlank
  rw [tokenize_of_cuts cuts, tokensOf_ok_iff] at read
  rw [stable]
  cases read.2
  exact cuts.plain_iff_of_no_blank noBlank

/-- Quotes are balanced in this line and no token has a blank, and yet its tokens
are not stable. -/
theorem its_fine_not_stable :
    tokenize "say \"it's\"" = .ok ["say", "it's"] ∧
      tokenize (String.intercalate " " ["say", "it's"]) ≠ .ok ["say", "it's"] := by
  have read : tokenize "say \"it's\"" = .ok ["say", "it's"] := by
    cbv
  refine ⟨read, fun again => ?_⟩
  have plain := (stable_iff_plain read).1.mp again "it's" (by decide)
  exact absurd (plain Text.singleQuote (by decide)).2 (by decide)

end Line
end CardTable
