import CardTable.Proofs.Line.Grammar

namespace CardTable
namespace Line

/-!
# The lists of tokens that lines have

A token that comes out of a line lacks one of the two quotes, for it was typed
bare or between quotes of one kind.  That is all there is to it: tokens that can
be quoted are given back by every line that types them in this way, whatever
blanks stand between them.
-/

/-- A text under which a token is written down: between quotes, or bare if there
are neither blanks nor quotes in it. -/
inductive Written (token : String) : String -> Prop where
  | quoted : Written token (quote token)
  | bare : (forall c, c ∈ token.toList -> isBare c = true) -> Written token token

/-- A line that consists of these texts, with blanks between one and the next. -/
inductive Joined : List String -> List Char -> Prop where
  | none : Joined [] []
  | last {text : String} : Joined [text] text.toList
  | more {text next : String} {texts : List String} {gap rest : List Char} :
      gap ≠ [] -> (forall c, c ∈ gap -> isBlank c = true) -> Joined (next :: texts) rest ->
      Joined (text :: next :: texts) (text.toList ++ (gap ++ rest))

/-! ## From tokens to lines -/

theorem typed_of_written {token text : String} (representable : Representable token)
    (written : Written token text) : Typed token text.toList := by
  cases written with
  | quoted => exact typed_quote representable
  | bare bare => exact typed_of_bare representable.1 bare

theorem allTyped_of_written {tokens texts : List String}
    (representable : forall token, token ∈ tokens -> Representable token)
    (written : List.Forall₂ Written tokens texts) : AllTyped tokens texts := by
  induction written with
  | nil => exact .nil
  | cons first _ inductionHypothesis =>
      rw [List.forall_mem_cons] at representable
      exact .cons (typed_of_written representable.1 first)
        (inductionHypothesis representable.2)

theorem spaced_of_joined {tokens texts : List String} {line : List Char}
    (typed : AllTyped tokens texts) (joined : Joined texts line) (some : texts ≠ []) :
    Spaced tokens line := by
  induction joined generalizing tokens with
  | none => exact absurd rfl some
  | last =>
      cases typed with
      | cons first others =>
          cases others
          exact .last first
  | more someGap blanks _ inductionHypothesis =>
      cases typed with
      | cons first others =>
          have rest := inductionHypothesis others (List.cons_ne_nil _ _)
          cases others with
          | cons second more => exact .more first someGap blanks rest

theorem tokensOf_joined {tokens texts : List String} {line : List Char}
    (typed : AllTyped tokens texts) (joined : Joined texts line) :
    tokensOf (pieces line) = .ok tokens := by
  cases texts with
  | nil =>
      cases typed
      cases joined
      rw [pieces_nil]
      rfl
  | cons text others =>
      exact tokensOf_spaced (spaced_of_joined typed joined (List.cons_ne_nil _ _))

/-! ## From lines to tokens -/

/-- Whatever is read from a line can be typed between quotes. -/
theorem Cuts.representable {line : List Char} {cut : List Piece} (cuts : Cuts line cut)
    (filled : Filled cut) {token : String} (member : token ∈ cut.filterMap Piece.token?) :
    Representable token := by
  rw [Representable]
  rcases mem_tokens_iff.mp member with ⟨run, among, rfl⟩ | ⟨mark, inside, among, rfl⟩
  · have formed : run ≠ [] ∧ forall c, c ∈ run -> isBare c = true := cuts.formed _ among
    rw [String.toList_ofList]
    refine ⟨fun empty => formed.1 (String.ofList_eq_empty_iff.mp empty), ?_⟩
    rintro ⟨double, _⟩
    have bare := formed.2 _ double
    rw [not_isBare_of_isQuote rfl] at bare
    cases bare
  · have formed : isQuote mark = true ∧ mark ∉ inside := cuts.formed _ among
    rw [String.toList_ofList]
    constructor
    · intro empty
      rw [String.ofList_eq_empty_iff.mp empty] at among
      exact filled mark among
    · rintro ⟨double, single⟩
      rcases isQuote_iff.mp formed.1 with rfl | rfl
      · exact formed.2 double
      · exact formed.2 single

theorem representable_of_tokenize {line : String} {tokens : List String}
    (read : tokenize line = .ok tokens) :
    forall token, token ∈ tokens -> Representable token := by
  have cuts := cuts_pieces line.toList
  rw [tokenize_of_cuts cuts, tokensOf_ok_iff] at read
  rcases read with ⟨filled, rfl⟩
  exact fun token => cuts.representable filled

/-- Quoting inverts tokenizing.

The lists of tokens that lines have are those whose tokens can be quoted, and
each such list is what is read from every line in which its tokens are written
down, quoted or bare, with any blanks between them. -/
theorem quoting_inverts_tokenizing :
    (forall tokens, (Exists fun line => tokenize line = .ok tokens) ↔
      forall token, token ∈ tokens -> Representable token) ∧
    (forall tokens texts (line : String),
      (forall token, token ∈ tokens -> Representable token) ->
      List.Forall₂ Written tokens texts -> Joined texts line.toList ->
      tokenize line = .ok tokens) := by
  constructor
  · intro tokens
    constructor
    · rintro ⟨line, read⟩
      exact representable_of_tokenize read
    · intro representable
      cases tokens with
      | nil => exact ⟨"", tokenize_empty⟩
      | cons first others => exact ⟨_, tokenize_intercalate (allTyped_quote representable)⟩
  · intro tokens texts line representable written joined
    exact tokensOf_joined (allTyped_of_written representable written) joined

end Line
end CardTable
