import CardTable.Line
import Mathlib.Data.List.Forall2

namespace CardTable
namespace Line

/-!
# Typing tokens

A token is typed as a bare run or between two quotes that it does not hold, and
blanks stand between one token and the next.  `Spaced` says which texts type
which tokens.  Such a text is cut into exactly these tokens: a piece ends where
the text of its token ends, whatever comes behind it.
-/

/-- A text that typed one token. -/
inductive Typed : String -> List Char -> Prop where
  | bare {text : List Char} :
      text ≠ [] -> (forall c, c ∈ text -> isBare c = true) -> Typed (String.ofList text) text
  | span {mark : Char} {text : List Char} :
      isQuote mark = true -> text ≠ [] -> mark ∉ text ->
      Typed (String.ofList text) (mark :: (text ++ [mark]))

/-- A text that typed tokens one after another, with blanks between them. -/
inductive Spaced : List String -> List Char -> Prop where
  | last {token : String} {text : List Char} : Typed token text -> Spaced [token] text
  | more {token next : String} {tokens : List String} {text gap rest : List Char} :
      Typed token text -> gap ≠ [] -> (forall c, c ∈ gap -> isBlank c = true) ->
      Spaced (next :: tokens) rest -> Spaced (token :: next :: tokens) (text ++ (gap ++ rest))

/-- Texts that type tokens, one for each. -/
abbrev AllTyped (tokens texts : List String) : Prop :=
  List.Forall₂ (fun token text => Typed token text.toList) tokens texts

theorem isBare_iff {c : Char} : isBare c = true ↔ isBlank c = false ∧ isQuote c = false := by
  rw [isBare, Bool.and_eq_true, Bool.not_eq_true', Bool.not_eq_true']

theorem not_isBare_of_isBlank {c : Char} (blank : isBlank c = true) : isBare c = false := by
  rw [isBare, blank]
  rfl

/-- No bare run goes on into this text. -/
def Apart (text : List Char) : Prop :=
  forall c rest, text = c :: rest -> isBare c = false

theorem apart_nil : Apart [] :=
  fun _ _ impossible => nomatch impossible

theorem apart_cons {c : Char} {rest : List Char} (notBare : isBare c = false) :
    Apart (c :: rest) := by
  intro d after same
  cases same
  exact notBare

theorem apart_gap {gap rest : List Char} (some : gap ≠ [])
    (blanks : forall c, c ∈ gap -> isBlank c = true) : Apart (gap ++ rest) := by
  cases gap with
  | nil => exact absurd rfl some
  | cons first others => exact apart_cons (not_isBare_of_isBlank (blanks first List.mem_cons_self))

theorem isBlank_of_isQuote {c : Char} (quote : isQuote c = true) : isBlank c = false := by
  rw [isQuote, Bool.or_eq_true, decide_eq_true_eq, decide_eq_true_eq] at quote
  rcases quote with rfl | rfl <;> rfl

/-- A character is bare if it passes a test that no blank and no quote passes. -/
theorem isBare_of_apart {c : Char} (test : Char -> Bool)
    (apart : [' ', '\t', '\n', '\x0b', '\x0c', '\r', Text.doubleQuote, Text.singleQuote].all
      (fun d => !test d) = true) (passes : test c = true) : isBare c = true := by
  have different : c ∉ [' ', '\t', '\n', '\x0b', '\x0c', '\r', Text.doubleQuote,
      Text.singleQuote] := by
    intro member
    have fails := List.all_eq_true.mp apart c member
    rw [passes] at fails
    cases fails
  simp only [List.mem_cons, List.not_mem_nil, or_false, not_or] at different
  simp [isBare, isBlank, isQuote, different]

theorem isBare_of_isDigit {c : Char} (digit : c.isDigit = true) : isBare c = true :=
  isBare_of_apart Char.isDigit rfl digit

/-! ## Pieces from the left -/

theorem pieces_nil : pieces [] = [] := by
  rw [pieces]

theorem pieces_blanks {gap : List Char} (blanks : forall c, c ∈ gap -> isBlank c = true)
    (rest : List Char) : pieces (gap ++ rest) = gap.map .blank ++ pieces rest := by
  induction gap with
  | nil => rfl
  | cons c more inductionHypothesis =>
      have others := inductionHypothesis fun d member => blanks d (List.mem_cons_of_mem _ member)
      rw [List.cons_append, pieces, if_pos (blanks c List.mem_cons_self), others]
      rfl

theorem pieces_bare {text rest : List Char} (some : text ≠ [])
    (bare : forall c, c ∈ text -> isBare c = true) (apart : Apart rest) :
    pieces (text ++ rest) = .bare text :: pieces rest := by
  cases text with
  | nil => exact absurd rfl some
  | cons c more =>
      have first := isBare_iff.mp (bare c List.mem_cons_self)
      have others : forall d, d ∈ more -> isBare d = true :=
        fun d member => bare d (List.mem_cons_of_mem _ member)
      have behind : rest.takeWhile isBare = [] ∧ rest.dropWhile isBare = rest := by
        cases rest with
        | nil => exact ⟨rfl, rfl⟩
        | cons d after =>
            have notBare := Bool.eq_false_iff.mp (apart d after rfl)
            exact ⟨List.takeWhile_cons_of_neg notBare, List.dropWhile_cons_of_neg notBare⟩
      rw [List.cons_append, pieces, first.1, first.2, if_neg Bool.false_ne_true,
        if_neg Bool.false_ne_true, List.takeWhile_append_of_pos others,
        List.dropWhile_append_of_pos others, behind.1, behind.2, List.append_nil]

theorem pieces_span {mark : Char} {text : List Char} (quote : isQuote mark = true)
    (without : mark ∉ text) (rest : List Char) :
    pieces (mark :: (text ++ mark :: rest)) = .span mark text :: pieces rest := by
  have inside : forall c, c ∈ text -> decide (c ≠ mark) = true := by
    intro c member
    apply decide_eq_true
    rintro rfl
    exact without member
  have taken : (text ++ mark :: rest).takeWhile (fun c => decide (c ≠ mark)) = text := by
    rw [List.takeWhile_append_of_pos inside]
    simp
  have left : (text ++ mark :: rest).dropWhile (fun c => decide (c ≠ mark)) = mark :: rest := by
    rw [List.dropWhile_append_of_pos inside]
    simp
  rw [pieces, isBlank_of_isQuote quote, if_neg Bool.false_ne_true, if_pos quote]
  split
  · next missing =>
    rw [left] at missing
    cases missing
  · next after found =>
    rw [left] at found
    cases found
    rw [taken]

/-! ## Tokens -/

theorem tokensOf_blanks (gap : List Char) (rest : List Piece) :
    tokensOf (gap.map .blank ++ rest) = tokensOf rest := by
  induction gap with
  | nil => rfl
  | cons c more inductionHypothesis => exact inductionHypothesis

theorem tokensOf_span {inside : List Char} (some : inside ≠ []) (mark : Char)
    (rest : List Piece) :
    tokensOf (.span mark inside :: rest) =
      (tokensOf rest).map (String.ofList inside :: ·) := by
  cases inside with
  | nil => exact absurd rfl some
  | cons c more => rfl

/-- The text of a token makes one piece, and that piece is the token. -/
theorem tokensOf_typed {token : String} {text rest : List Char} (typed : Typed token text)
    (apart : Apart rest) :
    tokensOf (pieces (text ++ rest)) = (tokensOf (pieces rest)).map (token :: ·) := by
  cases typed with
  | bare some bare =>
      rw [pieces_bare some bare apart]
      rfl
  | @span mark text quote some without =>
      rw [List.cons_append, List.append_assoc, List.singleton_append,
        pieces_span quote without, tokensOf_span some]

@[simp] theorem tokenize_empty : tokenize "" = .ok [] := by
  rw [tokenize, String.toList_empty, pieces_nil, tokensOf]

theorem tokenize_blanks {line : String} (blanks : forall c, c ∈ line.toList -> isBlank c = true) :
    tokenize line = .ok [] := by
  have blankPieces := pieces_blanks blanks []
  rw [List.append_nil, pieces_nil] at blankPieces
  rw [tokenize, blankPieces]
  exact tokensOf_blanks line.toList []

theorem ne_empty_of_tokenize {line first : String} {others : List String}
    (tokens : tokenize line = .ok (first :: others)) : line ≠ "" := by
  rintro rfl
  rw [tokenize_empty] at tokens
  cases tokens

theorem tokensOf_spaced {tokens : List String} {text : List Char} (spaced : Spaced tokens text) :
    tokensOf (pieces text) = .ok tokens := by
  induction spaced with
  | @last token text typed =>
      have single := tokensOf_typed typed apart_nil
      rw [List.append_nil, pieces_nil] at single
      exact single
  | more typed some blanks spaced inductionHypothesis =>
      rw [tokensOf_typed typed (apart_gap some blanks), pieces_blanks blanks, tokensOf_blanks,
        inductionHypothesis]
      rfl

/-! ## Quoted tokens -/

/-- There is a quote between which the token can be typed. -/
def Representable (token : String) : Prop :=
  token ≠ "" ∧ ¬ (Text.doubleQuote ∈ token.toList ∧ Text.singleQuote ∈ token.toList)

/-- The double quote, unless the token has one itself. -/
def markFor (token : String) : Char :=
  if Text.doubleQuote ∈ token.toList then Text.singleQuote else Text.doubleQuote

def quote (token : String) : String :=
  String.ofList (markFor token :: (token.toList ++ [markFor token]))

theorem isQuote_markFor (token : String) : isQuote (markFor token) = true := by
  unfold markFor
  split <;> rfl

theorem markFor_not_mem {token : String} (representable : Representable token) :
    markFor token ∉ token.toList := by
  unfold markFor
  split
  · next double => exact fun single => representable.2 ⟨double, single⟩
  · next noDouble => exact noDouble

theorem typed_quote {token : String} (representable : Representable token) :
    Typed token (quote token).toList := by
  have some : token.toList ≠ [] :=
    fun empty => representable.1 (String.toList_eq_nil_iff.mp empty)
  have typed := Typed.span (isQuote_markFor token) some (markFor_not_mem representable)
  rwa [String.ofList_toList, ← String.toList_ofList (l := _ :: _)] at typed

theorem typed_of_bare {token : String} (some : token ≠ "")
    (bare : forall c, c ∈ token.toList -> isBare c = true) : Typed token token.toList := by
  have typed := Typed.bare (fun empty => some (String.toList_eq_nil_iff.mp empty)) bare
  rwa [String.ofList_toList] at typed

theorem allTyped_quote {tokens : List String}
    (representable : forall token, token ∈ tokens -> Representable token) :
    AllTyped tokens (tokens.map quote) := by
  induction tokens with
  | nil => exact .nil
  | cons first others inductionHypothesis =>
      refine .cons (typed_quote (representable first List.mem_cons_self)) ?_
      exact inductionHypothesis fun token member =>
        representable token (List.mem_cons_of_mem _ member)

/-- Tokens are typed by joining their texts with single spaces. -/
theorem spaced_intercalate {first : String} {tokens : List String} {text : String}
    {texts : List String}
    (typed : AllTyped (first :: tokens) (text :: texts)) :
    Spaced (first :: tokens) (String.intercalate " " (text :: texts)).toList := by
  induction tokens generalizing first text texts with
  | nil =>
      cases typed with
      | cons one none =>
          cases none
          rw [String.intercalate_singleton]
          exact .last one
  | cons next others inductionHypothesis =>
      cases typed with
      | cons one more =>
          cases texts with
          | nil => cases more
          | cons nextText otherTexts =>
              rw [String.intercalate_cons_cons, String.toList_append, String.toList_append,
                List.append_assoc]
              have space : forall c, c ∈ [' '] -> isBlank c = true :=
                List.forall_mem_singleton.mpr rfl
              exact .more one (List.cons_ne_nil _ _) space (inductionHypothesis more)

/-- Tokens that are typed with single spaces between them are what the line is
cut into. -/
theorem tokenize_intercalate {first : String} {tokens : List String} {text : String}
    {texts : List String}
    (typed : AllTyped (first :: tokens) (text :: texts)) :
    tokenize (String.intercalate " " (text :: texts)) = .ok (first :: tokens) :=
  tokensOf_spaced (spaced_intercalate typed)

end Line
end CardTable
