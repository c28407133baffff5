import CardTable.Proofs.Line.Quoting
import Mathlib.Data.List.Chain
import Mathlib.Data.List.TakeWhile

namespace CardTable
namespace Line

/-!
# The grammar of typed lines

A cut of a line is a list of pieces whose texts make up the line.  Two rules
keep a line from being cut at will: a bare run is not cut in two, and a quote
goes without a partner only if no quote of its kind comes behind it.  They leave
exactly one cut for each line, and it is the one that the scan finds.  So what a
line is read as can be said of its cut, and the scan does not occur in it.
-/

namespace Piece

/-- The part of the line that a piece takes up. -/
def text : Piece -> List Char
  | blank c => [c]
  | bare run => run
  | span mark inside => mark :: (inside ++ [mark])
  | stray mark => [mark]

/-- What a piece of each kind may consist of. -/
def Formed : Piece -> Prop
  | blank c => isBlank c = true
  | bare run => run ≠ [] ∧ forall c, c ∈ run -> isBare c = true
  | span mark inside => isQuote mark = true ∧ mark ∉ inside
  | stray mark => isQuote mark = true

/-- The two pieces are not both bare runs. -/
def Parted (first second : Piece) : Prop :=
  forall run other, ¬ (first = bare run ∧ second = bare other)

/-- The second piece has no partner for the first one, if that is a quote
without a partner. -/
def Unpaired (first second : Piece) : Prop :=
  forall mark, first = stray mark -> mark ∉ second.text

/-- The token that a piece gives, if it gives one. -/
def token? : Piece -> Option String
  | bare run => some (String.ofList run)
  | span _ inside => some (String.ofList inside)
  | _ => none

/-- A quote without a partner becomes a space. -/
def smoothed : Piece -> Piece
  | stray _ => blank ' '
  | piece => piece

end Piece

/-- The pieces are a cut of the line. -/
structure Cuts (line : List Char) (cut : List Piece) : Prop where
  whole : cut.flatMap Piece.text = line
  formed : forall piece, piece ∈ cut -> piece.Formed
  /-- No two bare runs are adjacent. -/
  parted : cut.IsChain Piece.Parted
  /-- No quote of the same kind comes after a quote without a partner. -/
  unpaired : cut.Pairwise Piece.Unpaired

variable {line rest : List Char} {piece : Piece} {cut : List Piece} {c mark : Char}

/-! ## Building up and taking down -/

theorem isQuote_iff : isQuote c = true ↔ c = Text.doubleQuote ∨ c = Text.singleQuote := by
  rw [isQuote, Bool.or_eq_true, decide_eq_true_eq, decide_eq_true_eq]

theorem not_isBare_of_isQuote (quote : isQuote c = true) : isBare c = false := by
  rw [isBare, quote, Bool.not_true, Bool.and_false]

theorem cuts_nil : Cuts [] [] :=
  ⟨rfl, List.forall_mem_nil _, .nil, .nil⟩

theorem Cuts.cons (cuts : Cuts rest cut) (piece : Piece) (formed : piece.Formed)
    (parted : forall next, cut.head? = some next -> piece.Parted next)
    (unpaired : forall mark, piece = .stray mark -> mark ∉ rest) :
    Cuts (piece.text ++ rest) (piece :: cut) where
  whole := by rw [List.flatMap_cons, cuts.whole]
  formed := List.forall_mem_cons.mpr ⟨formed, cuts.formed⟩
  parted := List.isChain_cons.mpr ⟨parted, cuts.parted⟩
  unpaired := by
    refine List.pairwise_cons.mpr ⟨?_, cuts.unpaired⟩
    intro other member mark stray inside
    apply unpaired mark stray
    rw [← cuts.whole]
    exact List.mem_flatMap_of_mem member inside

theorem Cuts.tail (cuts : Cuts line (piece :: cut)) : Cuts (cut.flatMap Piece.text) cut where
  whole := rfl
  formed := fun other member => cuts.formed other (List.mem_cons_of_mem _ member)
  parted := (List.isChain_cons.mp cuts.parted).2
  unpaired := (List.pairwise_cons.mp cuts.unpaired).2

/-- A bare run in front of the line would go on into it exactly if the cut
begins with a bare run. -/
theorem Cuts.apart_iff (cuts : Cuts line cut) :
    Apart line ↔ forall run, cut.head? ≠ some (.bare run) := by
  have whole := cuts.whole
  cases cut with
  | nil =>
      subst whole
      exact iff_of_true apart_nil fun _ => nofun
  | cons first others =>
      have formed := cuts.formed first List.mem_cons_self
      rw [List.flatMap_cons] at whole
      subst whole
      cases first with
      | blank c => exact iff_of_true (apart_cons (not_isBare_of_isBlank formed)) fun _ => nofun
      | span mark inside =>
          exact iff_of_true (apart_cons (not_isBare_of_isQuote formed.1)) fun _ => nofun
      | stray mark => exact iff_of_true (apart_cons (not_isBare_of_isQuote formed)) fun _ => nofun
      | bare run =>
          refine iff_of_false ?_ fun starts => starts run rfl
          intro apart
          rcases List.exists_cons_of_ne_nil formed.1 with ⟨c, more, rfl⟩
          have bare := formed.2 c List.mem_cons_self
          rw [apart c _ rfl] at bare
          cases bare

theorem Cuts.blank (cuts : Cuts rest cut) (blank : isBlank c = true) :
    Cuts (c :: rest) (.blank c :: cut) :=
  cuts.cons (.blank c) blank (fun _ _ _ _ both => by cases both.1) (fun _ => nofun)

theorem Cuts.stray (cuts : Cuts rest cut) (quote : isQuote mark = true) (alone : mark ∉ rest) :
    Cuts (mark :: rest) (.stray mark :: cut) := by
  refine cuts.cons (.stray mark) quote (fun _ _ _ _ both => by cases both.1) ?_
  rintro other same
  cases same
  exact alone

theorem Cuts.span (cuts : Cuts rest cut) {inside : List Char} (quote : isQuote mark = true)
    (without : mark ∉ inside) :
    Cuts (mark :: (inside ++ mark :: rest)) (.span mark inside :: cut) := by
  have longer := cuts.cons (.span mark inside) ⟨quote, without⟩
    (fun _ _ _ _ both => by cases both.1) (fun _ => nofun)
  rwa [Piece.text, List.cons_append, List.append_assoc, List.singleton_append] at longer

theorem Cuts.bare (cuts : Cuts rest cut) {run : List Char} (some : run ≠ [])
    (bare : forall c, c ∈ run -> isBare c = true) (apart : Apart rest) :
    Cuts (run ++ rest) (.bare run :: cut) := by
  refine cuts.cons (.bare run) ⟨some, bare⟩ ?_ (fun _ => nofun)
  rintro next begins _ other ⟨_, rfl⟩
  exact cuts.apart_iff.mp apart other begins

/-! ## The scan finds the only cut -/

theorem pieces_stray (quote : isQuote mark = true) (alone : mark ∉ rest) :
    pieces (mark :: rest) = .stray mark :: pieces rest := by
  have missing : rest.dropWhile (fun c => decide (c ≠ mark)) = [] := by
    rw [List.dropWhile_eq_nil_iff]
    intro c member
    apply decide_eq_true
    rintro rfl
    exact alone member
  rw [pieces, isBlank_of_isQuote quote, if_neg Bool.false_ne_true, if_pos quote]
  split
  · rfl
  · next found =>
    rw [missing] at found
    cases found

theorem Cuts.eq_pieces (cuts : Cuts line cut) : cut = pieces line := by
  induction cut generalizing line with
  | nil => rw [← cuts.whole, List.flatMap_nil, pieces_nil]
  | cons piece cut inductionHypothesis =>
      have others := inductionHypothesis cuts.tail
      have formed := cuts.formed piece List.mem_cons_self
      rw [← cuts.whole, List.flatMap_cons]
      cases piece with
      | blank c =>
          have single := pieces_blanks (List.forall_mem_singleton.mpr formed)
            (cut.flatMap Piece.text)
          rw [← others] at single
          exact single.symm
      | bare run =>
          have apart : Apart (cut.flatMap Piece.text) := by
            rw [cuts.tail.apart_iff]
            intro other next
            exact (List.isChain_cons.mp cuts.parted).1 _ next run other ⟨rfl, rfl⟩
          rw [Piece.text, pieces_bare formed.1 formed.2 apart, ← others]
      | span mark inside =>
          rw [Piece.text, List.cons_append, List.append_assoc, List.singleton_append,
            pieces_span formed.1 formed.2, ← others]
      | stray mark =>
          have alone : mark ∉ cut.flatMap Piece.text := by
            intro behind
            rcases List.mem_flatMap.mp behind with ⟨other, member, inside⟩
            exact (List.pairwise_cons.mp cuts.unpaired).1 other member mark rfl inside
          rw [Piece.text, List.singleton_append, pieces_stray formed alone, ← others]

theorem not_mem_takeWhile_ne (mark : Char) (text : List Char) :
    mark ∉ text.takeWhile (fun c => decide (c ≠ mark)) := by
  intro member
  have passed : decide (mark ≠ mark) = true :=
    List.mem_takeWhile_imp (p := fun c => decide (c ≠ mark)) member
  exact of_decide_eq_true passed rfl

/-- A quote that has a partner ends its span at the first one. -/
theorem split_at_partner {head : Char} {after : List Char}
    (found : rest.dropWhile (fun c => decide (c ≠ mark)) = head :: after) :
    rest.takeWhile (fun c => decide (c ≠ mark)) ++ mark :: after = rest := by
  have partner : head = mark := by
    have stops := List.head?_dropWhile_not (fun c => decide (c ≠ mark)) rest
    rw [found] at stops
    simpa using stops
  rw [← partner, ← found, partner]
  exact List.takeWhile_append_dropWhile

theorem cuts_pieces (line : List Char) : Cuts line (pieces line) := by
  induction line using pieces.induct with
  | case1 =>
      rw [pieces_nil]
      exact cuts_nil
  | case2 c rest blank inductionHypothesis =>
      have scanned := pieces_blanks (List.forall_mem_singleton.mpr blank) rest
      rw [List.singleton_append] at scanned
      rw [scanned]
      exact inductionHypothesis.blank blank
  | case3 c rest notBlank quote missing inductionHypothesis =>
      have alone : c ∉ rest := by
        intro member
        exact of_decide_eq_true (List.dropWhile_eq_nil_iff.mp missing c member) rfl
      rw [pieces_stray quote alone]
      exact inductionHypothesis.stray quote alone
  | case4 c rest notBlank quote head after found inductionHypothesis =>
      have without := not_mem_takeWhile_ne c rest
      rw [← split_at_partner found, pieces_span quote without]
      exact inductionHypothesis.span quote without
  | case5 c rest notBlank notQuote inductionHypothesis =>
      have bare : forall d, d ∈ c :: rest.takeWhile isBare -> isBare d = true := by
        refine List.forall_mem_cons.mpr ⟨?_, fun d member => List.mem_takeWhile_imp member⟩
        exact isBare_iff.mpr ⟨Bool.eq_false_iff.mpr notBlank, Bool.eq_false_iff.mpr notQuote⟩
      have apart : Apart (rest.dropWhile isBare) := by
        intro d after same
        have stops := List.head?_dropWhile_not isBare rest
        rw [same] at stops
        exact stops
      have split : (c :: rest.takeWhile isBare) ++ rest.dropWhile isBare = c :: rest := by
        rw [List.cons_append, List.takeWhile_append_dropWhile]
      rw [← split, pieces_bare (List.cons_ne_nil _ _) bare apart]
      exact inductionHypothesis.bare (List.cons_ne_nil _ _) bare apart

/-! ## What a cut is read as -/

/-- No quoted span is empty. -/
def Filled (cut : List Piece) : Prop :=
  forall mark, .span mark [] ∉ cut

theorem Filled.tail (filled : Filled (piece :: cut)) : Filled cut :=
  fun mark member => filled mark (List.mem_cons_of_mem _ member)

theorem Filled.inside_ne_nil {inside : List Char} (filled : Filled (.span mark inside :: cut)) :
    inside ≠ [] := by
  rintro rfl
  exact filled mark List.mem_cons_self

theorem tokensOf_filled (filled : Filled cut) :
    tokensOf cut = .ok (cut.filterMap Piece.token?) := by
  induction cut with
  | nil => rfl
  | cons piece cut inductionHypothesis =>
      have others := inductionHypothesis filled.tail
      cases piece with
      | blank c => exact others
      | stray mark => exact others
      | bare run =>
          rw [tokensOf, others]
          rfl
      | span mark inside =>
          rw [tokensOf_span filled.inside_ne_nil, others]
          rfl

theorem tokensOf_empty_span {before : List Piece} (filled : Filled before) (mark : Char)
    (after : List Piece) :
    tokensOf (before ++ .span mark [] :: after) =
      .error (.tokenize (String.ofList [mark, mark])) := by
  induction before with
  | nil => rfl
  | cons piece before inductionHypothesis =>
      have others := inductionHypothesis filled.tail
      rw [List.cons_append]
      cases piece with
      | blank c => exact others
      | stray other => exact others
      | bare run =>
          rw [tokensOf, others]
          rfl
      | span other inside =>
          rw [tokensOf_span filled.inside_ne_nil, others]
          rfl

/-- A cut is without empty spans, or there is a first one. -/
theorem filled_or_first (cut : List Piece) :
    Filled cut ∨ Exists fun before => Exists fun mark => Exists fun after =>
      cut = before ++ .span mark [] :: after ∧ Filled before := by
  induction cut with
  | nil => exact Or.inl fun _ => nofun
  | cons piece cut inductionHypothesis =>
      by_cases empty : Exists fun mark => piece = .span mark []
      · rcases empty with ⟨mark, rfl⟩
        exact Or.inr ⟨[], mark, cut, rfl, fun _ => nofun⟩
      · have front {pieces : List Piece} (filled : Filled pieces) : Filled (piece :: pieces) := by
          intro mark member
          rcases List.mem_cons.mp member with same | later
          · exact empty ⟨mark, same.symm⟩
          · exact filled mark later
        rcases inductionHypothesis with filled | ⟨before, mark, after, rfl, filled⟩
        · exact Or.inl (front filled)
        · exact Or.inr ⟨piece :: before, mark, after, rfl, front filled⟩

theorem tokensOf_ok_iff {tokens : List String} :
    tokensOf cut = .ok tokens ↔ Filled cut ∧ cut.filterMap Piece.token? = tokens := by
  constructor
  · intro read
    rcases filled_or_first cut with filled | ⟨before, mark, after, rfl, filled⟩
    · rw [tokensOf_filled filled] at read
      exact ⟨filled, Except.ok.inj read⟩
    · rw [tokensOf_empty_span filled] at read
      cases read
  · rintro ⟨filled, rfl⟩
    exact tokensOf_filled filled

/-- The tokens are the bare runs and the insides of the spans. -/
theorem mem_tokens_iff {token : String} :
    token ∈ cut.filterMap Piece.token? ↔
      (Exists fun run => .bare run ∈ cut ∧ token = String.ofList run) ∨
        Exists fun mark => Exists fun inside =>
          .span mark inside ∈ cut ∧ token = String.ofList inside := by
  rw [List.mem_filterMap]
  constructor
  · rintro ⟨piece, among, gives⟩
    cases piece with
    | blank c => cases gives
    | stray mark => cases gives
    | bare run => exact Or.inl ⟨run, among, (Option.some.inj gives).symm⟩
    | span mark inside => exact Or.inr ⟨mark, inside, among, (Option.some.inj gives).symm⟩
  · rintro (⟨run, among, rfl⟩ | ⟨mark, inside, among, rfl⟩)
    · exact ⟨_, among, rfl⟩
    · exact ⟨_, among, rfl⟩

theorem tokenize_of_cuts {line : String} (cuts : Cuts line.toList cut) :
    tokenize line = tokensOf cut := by
  rw [tokenize, ← cuts.eq_pieces]

/-! ## Quotes without a partner as spaces -/

theorem Piece.smoothed_eq_bare_iff {run : List Char} :
    piece.smoothed = .bare run ↔ piece = .bare run := by
  cases piece <;> simp [Piece.smoothed]

theorem Cuts.smoothed (cuts : Cuts line cut) :
    Cuts ((cut.map Piece.smoothed).flatMap Piece.text) (cut.map Piece.smoothed) where
  whole := rfl
  formed := by
    intro piece member
    rcases List.mem_map.mp member with ⟨source, among, rfl⟩
    have formed := cuts.formed source among
    cases source with
    | stray mark => exact (rfl : isBlank ' ' = true)
    | _ => exact formed
  parted := by
    refine (List.isChain_map _).mpr (cuts.parted.imp ?_)
    intro first second parted run other both
    rw [Piece.smoothed_eq_bare_iff, Piece.smoothed_eq_bare_iff] at both
    exact parted run other both
  unpaired := by
    refine List.pairwise_map.mpr (cuts.unpaired.imp ?_)
    intro first second _ mark same
    cases first <;> cases same

theorem tokensOf_smoothed (cut : List Piece) :
    tokensOf (cut.map Piece.smoothed) = tokensOf cut := by
  induction cut with
  | nil => rfl
  | cons piece cut inductionHypothesis =>
      cases piece with
      | blank c => exact inductionHypothesis
      | stray mark => exact inductionHypothesis
      | bare run => exact congrArg (Except.map _) inductionHypothesis
      | span mark inside =>
          cases inside with
          | nil => rfl
          | cons c more => exact congrArg (Except.map _) inductionHypothesis

/-! ## Bare characters -/

/-- A character that is neither a blank nor a quote belongs to a token. -/
theorem Cuts.token_of_mem (cuts : Cuts line cut) (member : c ∈ line) (bare : isBare c = true) :
    Exists fun token => token ∈ cut.filterMap Piece.token? ∧ c ∈ token.toList := by
  rw [← cuts.whole] at member
  rcases List.mem_flatMap.mp member with ⟨piece, among, inside⟩
  have formed := cuts.formed piece among
  rw [isBare_iff, Bool.eq_false_iff, Bool.eq_false_iff] at bare
  rcases bare with ⟨notBlank, notQuote⟩
  have found {characters : List Char} (within : c ∈ characters)
      (gives : String.ofList characters ∈ cut.filterMap Piece.token?) :
      Exists fun token => token ∈ cut.filterMap Piece.token? ∧ c ∈ token.toList := by
    refine ⟨_, gives, ?_⟩
    rwa [String.toList_ofList]
  cases piece with
  | blank d =>
      cases List.mem_singleton.mp inside
      exact absurd formed notBlank
  | bare run => exact found inside (mem_tokens_iff.mpr (Or.inl ⟨run, among, rfl⟩))
  | span mark within =>
      rcases List.mem_cons.mp inside with rfl | later
      · exact absurd formed.1 notQuote
      · rcases List.mem_append.mp later with kept | last
        · exact found kept (mem_tokens_iff.mpr (Or.inr ⟨mark, within, among, rfl⟩))
        · cases List.mem_singleton.mp last
          exact absurd formed.1 notQuote
  | stray mark =>
      cases List.mem_singleton.mp inside
      exact absurd formed notQuote

/-- Blanks and quotes are ASCII. -/
theorem isBare_of_not_ascii (beyond : 0x80 ≤ c.toNat) : isBare c = true :=
  isBare_of_apart (fun d => decide (0x80 ≤ d.toNat)) rfl (decide_eq_true beyond)

/-- Pieces make tokens of their own although nothing stands between them. -/
theorem cuts_adjacent {first inside last : List Char} (someFirst : first ≠ [])
    (bareFirst : forall c, c ∈ first -> isBare c = true) (quote : isQuote mark = true)
    (without : mark ∉ inside) (someLast : last ≠ [])
    (bareLast : forall c, c ∈ last -> isBare c = true) :
    Cuts (first ++ mark :: (inside ++ mark :: last))
      [.bare first, .span mark inside, .bare last] := by
  have run := cuts_nil.bare someLast bareLast apart_nil
  rw [List.append_nil] at run
  exact (run.span quote without).bare someFirst bareFirst
    (apart_cons (not_isBare_of_isQuote quote))

/-- The grammar of typed lines.

A line has exactly one cut.  If no quoted span of it is empty, the tokens of the
line are the bare runs and the insides of the spans, in order; otherwise the
first empty span is the error.  So a quote without a partner may as well be a
space, pieces are tokens of their own also where nothing stands between them,
and a blank from beyond ASCII belongs to a token. -/
theorem tokenize_by_grammar :
    (forall line : String, ExistsUnique fun cut => Cuts line.toList cut) ∧
    (forall (line : String) cut, Cuts line.toList cut ->
      (Filled cut -> tokenize line = .ok (cut.filterMap Piece.token?)) ∧
      (forall before mark after, cut = before ++ .span mark [] :: after -> Filled before ->
        (mark = Text.doubleQuote ∨ mark = Text.singleQuote) ∧
          tokenize line = .error (.tokenize (String.ofList [mark, mark]))) ∧
      (Filled cut ∨ Exists fun before => Exists fun mark => Exists fun after =>
        cut = before ++ .span mark [] :: after ∧ Filled before) ∧
      tokenize (String.ofList ((cut.map Piece.smoothed).flatMap Piece.text)) = tokenize line) ∧
    (forall span, (Error.tokenize span).code.label = "TOKENIZE") ∧
    (forall first mark inside last, first ≠ [] -> (forall c, c ∈ first -> isBare c = true) ->
      isQuote mark = true -> inside ≠ [] -> mark ∉ inside ->
      last ≠ [] -> (forall c, c ∈ last -> isBare c = true) ->
      tokenize (String.ofList (first ++ mark :: (inside ++ mark :: last))) =
        .ok [String.ofList first, String.ofList inside, String.ofList last]) ∧
    (forall (line : String) tokens, tokenize line = .ok tokens ->
      forall c, c ∈ line.toList -> 0x80 ≤ c.toNat ->
        Exists fun token => token ∈ tokens ∧ c ∈ token.toList) := by
  refine ⟨?_, ?_, fun _ => rfl, ?_, ?_⟩
  · intro line
    exact ⟨pieces line.toList, cuts_pieces line.toList, fun cut cuts => cuts.eq_pieces⟩
  · intro line cut cuts
    rw [tokenize_of_cuts cuts]
    refine ⟨tokensOf_filled, ?_, filled_or_first cut, ?_⟩
    · rintro before mark after rfl filled
      have quote := (cuts.formed _ (List.mem_append_right before List.mem_cons_self)).1
      exact ⟨isQuote_iff.mp quote, tokensOf_empty_span filled mark after⟩
    · rw [tokenize, String.toList_ofList, ← cuts.smoothed.eq_pieces, tokensOf_smoothed]
  · intro first mark inside last someFirst bareFirst quote someInside without someLast bareLast
    have cuts := cuts_adjacent someFirst bareFirst quote without someLast bareLast
    have filled : Filled [.bare first, .span mark inside, .bare last] := by
      intro other member
      simp only [List.mem_cons, List.not_mem_nil, or_false, reduceCtorEq, false_or,
        Piece.span.injEq] at member
      exact someInside member.2.symm
    rw [tokenize, String.toList_ofList, ← cuts.eq_pieces, tokensOf_filled filled]
    rfl
  · intro line tokens read c member beyond
    have cuts := cuts_pieces line.toList
    rw [tokenize_of_cuts cuts, tokensOf_ok_iff] at read
    rw [← read.2]
    exact cuts.token_of_mem member (isBare_of_not_ascii beyond)

end Line
end CardTable
