import CardTable.Proofs.Line.Grammar

namespace CardTable
namespace Line

/-!
# Lines that are joined at a blank

What a quote means depends on everything behind it.  So a line may be cut
differently once more is typed after it, and this can only come from a quote
that went without a partner and now finds one.  If there is no such quote, the
cut of the longer line is the cut of the first part, the blank, and the cut of
the second part.

Reading is a little more forgiving.  It ends at the first empty span, so that the
quotes behind that span do not matter.
-/

/-- The quotes that reading passes over for want of a partner.  It ends at an
empty span. -/
def skipped : List Piece -> List Char
  | [] => []
  | .stray mark :: rest => mark :: skipped rest
  | .span _ [] :: _ => []
  | _ :: rest => skipped rest

variable {first second : List Char} {cut before after : List Piece} {gap mark : Char}

/-- In front of the first empty span every quote without a partner is passed
over. -/
theorem mem_skipped (filled : Filled before) (among : .stray mark ∈ before)
    (after : List Piece) : mark ∈ skipped (before ++ after) := by
  induction before with
  | nil => cases among
  | cons piece before inductionHypothesis =>
      rcases List.mem_cons.mp among with rfl | later
      · exact List.mem_cons_self
      · have found := inductionHypothesis filled.tail later
        cases piece with
        | blank c => exact found
        | bare run => exact found
        | stray other => exact List.mem_cons_of_mem other found
        | span other inside =>
            cases inside with
            | nil => exact absurd rfl filled.inside_ne_nil
            | cons c more => exact found

/-! ## Cutting the longer line -/

/-- Some pieces of a cut stay as they are when more comes behind the line, if
nothing of it can go on into a bare run and no quote among them finds a partner. -/
theorem Cuts.extend {line more : List Char} (cuts : Cuts line (before ++ after))
    (behind : Cuts (after.flatMap Piece.text ++ more) cut)
    (apart : Apart (after.flatMap Piece.text ++ more))
    (alone : forall mark, .stray mark ∈ before -> mark ∉ more) :
    Cuts (line ++ more) (before ++ cut) where
  whole := by
    rw [List.flatMap_append, behind.whole, ← cuts.whole, List.flatMap_append, List.append_assoc]
  formed := by
    intro piece member
    rcases List.mem_append.mp member with front | back
    · exact cuts.formed piece (List.mem_append_left after front)
    · exact behind.formed piece back
  parted := by
    refine List.isChain_append.mpr ⟨(List.isChain_append.mp cuts.parted).1, behind.parted, ?_⟩
    rintro last _ next begins _ run ⟨_, rfl⟩
    exact behind.apart_iff.mp apart run begins
  unpaired := by
    have pairs := List.pairwise_append.mp cuts.unpaired
    refine List.pairwise_append.mpr ⟨pairs.1, behind.unpaired, ?_⟩
    rintro _ among piece member mark rfl inside
    have within : mark ∈ after.flatMap Piece.text ++ more := by
      rw [← behind.whole]
      exact List.mem_flatMap_of_mem member inside
    rcases List.mem_append.mp within with old | new
    · obtain ⟨other, isBehind, inOther⟩ := List.mem_flatMap.mp old
      exact pairs.2.2 _ among other isBehind mark rfl inOther
    · exact alone mark among new

theorem ne_of_isQuote (quote : isQuote mark = true) (blank : isBlank gap = true) : mark ≠ gap := by
  rintro rfl
  rw [isBlank_of_isQuote quote] at blank
  cases blank

/-- A quote without a partner has none behind the blank either. -/
theorem Cuts.not_mem_behind (cuts : Cuts first (before ++ after)) (blank : isBlank gap = true)
    (among : .stray mark ∈ before) (closed : mark ∉ second) : mark ∉ gap :: second := by
  have quote : isQuote mark = true := cuts.formed _ (List.mem_append_left after among)
  rw [List.mem_cons]
  rintro (same | later)
  · exact ne_of_isQuote quote blank same
  · exact closed later

/-- The cut of a line that is joined at a blank, if no quote finds a partner. -/
theorem pieces_joined (blank : isBlank gap = true)
    (closed : forall mark, .stray mark ∈ pieces first -> mark ∉ second) :
    pieces (first ++ gap :: second) = pieces first ++ .blank gap :: pieces second := by
  have cuts : Cuts first (pieces first ++ []) := by
    rw [List.append_nil]
    exact cuts_pieces first
  have joined := cuts.extend ((cuts_pieces second).blank blank)
    (apart_cons (not_isBare_of_isBlank blank))
    fun mark among => cuts.not_mem_behind blank among (closed mark among)
  exact joined.eq_pieces.symm

/-- What comes before an empty span, and the span itself, are not changed by what
is joined to the line. -/
theorem pieces_joined_of_empty_span (blank : isBlank gap = true)
    (split : pieces first = before ++ .span mark [] :: after)
    (closed : forall mark, .stray mark ∈ before -> mark ∉ second) :
    Exists fun rest => pieces (first ++ gap :: second) = before ++ .span mark [] :: rest := by
  have cuts : Cuts first (before ++ .span mark [] :: after) := split ▸ cuts_pieces first
  have span := cuts.formed _ (List.mem_append_right before List.mem_cons_self)
  have behind := (cuts_pieces (after.flatMap Piece.text ++ gap :: second)).span span.1 span.2
  have joined := cuts.extend behind (apart_cons (not_isBare_of_isQuote span.1))
    fun mark among => cuts.not_mem_behind blank among (closed mark among)
  exact ⟨_, joined.eq_pieces.symm⟩

/-- The longer line is cut at the blank exactly if no quote finds a partner
behind it. -/
theorem pieces_joined_iff (blank : isBlank gap = true) :
    pieces (first ++ gap :: second) = pieces first ++ .blank gap :: pieces second ↔
      forall mark, .stray mark ∈ pieces first -> mark ∉ second := by
  refine ⟨?_, pieces_joined blank⟩
  intro same mark among later
  have cuts := cuts_pieces (first ++ gap :: second)
  rw [same] at cuts
  rw [← (cuts_pieces second).whole] at later
  obtain ⟨piece, member, inside⟩ := List.mem_flatMap.mp later
  have unpaired := (List.pairwise_append.mp cuts.unpaired).2.2 _ among piece
    (List.mem_cons_of_mem _ member)
  exact unpaired mark rfl inside

/-! ## Reading the longer line -/

/-- Pieces without an empty span give their tokens, whatever comes behind them. -/
theorem tokensOf_append (filled : Filled before) (after : List Piece) :
    tokensOf (before ++ after) =
      (tokensOf after).map (before.filterMap Piece.token? ++ ·) := by
  induction before with
  | nil =>
      rw [List.nil_append]
      cases tokensOf after <;> rfl
  | cons piece before inductionHypothesis =>
      have others := inductionHypothesis filled.tail
      rw [List.cons_append]
      cases piece with
      | blank c => exact others
      | stray mark => exact others
      | bare run =>
          rw [tokensOf, others]
          cases tokensOf after <;> rfl
      | span mark inside =>
          rw [tokensOf_span filled.inside_ne_nil, others]
          cases tokensOf after <;> rfl

/-- The tokens of one line and then those of another.  An error of the first one
comes first. -/
def inTurn (first second : String) : Except Error (List String) := do
  let front <- tokenize first
  let back <- tokenize second
  return front ++ back

theorem tokenize_joined {first second : String} (blank : isBlank gap = true)
    (closed : forall mark, mark ∈ skipped (pieces first.toList) -> mark ∉ second.toList) :
    tokenize (first ++ String.singleton gap ++ second) = inTurn first second := by
  have characters : (first ++ String.singleton gap ++ second).toList =
      first.toList ++ gap :: second.toList := by
    rw [String.toList_append, String.toList_append, String.toList_singleton, List.append_assoc,
      List.singleton_append]
  rw [inTurn, tokenize, characters, tokenize]
  rcases filled_or_first (pieces first.toList) with filled | ⟨before, mark, after, split, filled⟩
  · have passed (quote : Char) (among : .stray quote ∈ pieces first.toList) :
        quote ∉ second.toList := by
      have found := mem_skipped filled among []
      rw [List.append_nil] at found
      exact closed quote found
    rw [pieces_joined blank passed, tokensOf_append filled, tokensOf_filled filled, tokensOf,
      tokenize]
    cases tokensOf (pieces second.toList) <;> rfl
  · have passed (quote : Char) (among : .stray quote ∈ before) : quote ∉ second.toList :=
      closed quote (split ▸ mem_skipped filled among _)
    obtain ⟨rest, joined⟩ := pieces_joined_of_empty_span blank split passed
    rw [joined, split, tokensOf_empty_span filled, tokensOf_empty_span filled]
    rfl

/-- Tokenizing composes at blanks.

For all lines and every blank between them: if no quote of the first line is
passed over for want of a partner, the joined line has the tokens of the first
line and then those of the second, and if one of the lines is refused, the first
refusal is that of the joined line.  The same holds if quotes are passed over, as
long as the second line has no quote of their kind.  The joined line is cut at
the blank exactly if no quote without a partner finds one behind it. -/
theorem tokenizing_composes (first second : String) (gap : Char) (blank : isBlank gap = true) :
    (skipped (pieces first.toList) = [] ->
      tokenize (first ++ String.singleton gap ++ second) = inTurn first second) ∧
    ((forall mark, mark ∈ skipped (pieces first.toList) -> mark ∉ second.toList) ->
      tokenize (first ++ String.singleton gap ++ second) = inTurn first second) ∧
    (pieces (first.toList ++ gap :: second.toList) =
        pieces first.toList ++ .blank gap :: pieces second.toList ↔
      forall mark, .stray mark ∈ pieces first.toList -> mark ∉ second.toList) := by
  refine ⟨fun none => ?_, tokenize_joined blank, pieces_joined_iff blank⟩
  apply tokenize_joined blank
  rw [none]
  exact List.forall_mem_nil _

/-- The apostrophe is passed over, and the second line has quotes of the other
kind only. -/
theorem joined_behind_apostrophe :
    isBlank ' ' = true ∧ skipped (pieces "say it's".toList) = [Text.singleQuote] ∧
      tokenize "say it's \"my turn\" now" = .ok ["say", "it", "s", "my turn", "now"] := by
  have passed : skipped (pieces "say it's".toList) = [Text.singleQuote] := by
    cbv
  have closed : forall mark, mark ∈ skipped (pieces "say it's".toList) ->
      mark ∉ "\"my turn\" now".toList := by
    rw [passed, List.forall_mem_singleton]
    decide
  refine ⟨rfl, passed, ?_⟩
  have composed := (tokenizing_composes "say it's" "\"my turn\" now" ' ' rfl).2.1 closed
  have turns : inTurn "say it's" "\"my turn\" now" =
      .ok ["say", "it", "s", "my turn", "now"] := by
    cbv
  exact composed.trans turns

/-- A second apostrophe makes a span of what was two lines. -/
example : tokenize "it's Bob's" = .ok ["it", "s Bob", "s"] ∧
    inTurn "it's" "Bob's" = .ok ["it", "s", "Bob", "s"] := by
  constructor <;> cbv

end Line
end CardTable
