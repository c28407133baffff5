import CardTable.Yaml.Scan

namespace CardTable
namespace Yaml

/-!
# Cells of written lines

The lines that are written here are made of words, quoted texts and numerals, with
single blanks and line breaks between them.  Each of the scans over cells is
followed through such text from left to right: over a run of characters that mean
nothing to it, up to the sign that ends the run.
-/

/-- A character that is seen and belongs to its line. -/
structure IsVisible (c : Char) : Prop where
  allowed : isAllowed c = true
  inLine : endsLine c = false
  notBlank : isBlank c = false

/-- A character that starts or goes on with a plain scalar wherever it stands. -/
structure IsWord (c : Char) : Prop extends IsVisible c where
  noIndicator : Scan.isIndicator c = false
  noPoint : c ≠ '.'
  noMark : c ≠ lineMark

/-- A character that stands for itself between double quotes. -/
structure IsQuotable (c : Char) : Prop extends IsVisible c where
  notQuote : c ≠ '\x22'
  notEscape : c ≠ '\\'

instance : DecidablePred IsVisible := fun c =>
  decidable_of_iff (isAllowed c = true ∧ endsLine c = false ∧ isBlank c = false)
    ⟨fun facts => ⟨facts.1, facts.2.1, facts.2.2⟩, fun visible =>
      ⟨visible.allowed, visible.inLine, visible.notBlank⟩⟩

instance : DecidablePred IsWord := fun c =>
  decidable_of_iff (IsVisible c ∧ Scan.isIndicator c = false ∧ c ≠ '.' ∧ c ≠ lineMark)
    ⟨fun facts => ⟨facts.1, facts.2.1, facts.2.2.1, facts.2.2.2⟩, fun word =>
      ⟨word.toIsVisible, word.noIndicator, word.noPoint, word.noMark⟩⟩

instance : DecidablePred IsQuotable := fun c =>
  decidable_of_iff (IsVisible c ∧ c ≠ '\x22' ∧ c ≠ '\\')
    ⟨fun facts => ⟨facts.1, facts.2.1, facts.2.2⟩, fun quotable =>
      ⟨quotable.toIsVisible, quotable.notQuote, quotable.notEscape⟩⟩

/-- The characters of the text are checked one by one.  Without this, all characters
that there are might be gone through instead. -/
instance (text : List Char) : Decidable (forall c, c ∈ text -> IsWord c) :=
  List.decidableBAll IsWord text

instance (text : List Char) : Decidable (forall c, c ∈ text -> IsQuotable c) :=
  List.decidableBAll IsQuotable text

/-- Letters and digits stand for themselves everywhere. -/
theorem isWord_and_isQuotable_of_isAlphanum {c : Char} (alphanumeric : c.isAlphanum = true) :
    IsWord c ∧ IsQuotable c := by
  have ranges : (65 ≤ c.toNat ∧ c.toNat ≤ 90 ∨ 97 ≤ c.toNat ∧ c.toNat ≤ 122) ∨
      48 ≤ c.toNat ∧ c.toNat ≤ 57 := by
    unfold Char.isAlphanum Char.isAlpha Char.isUpper Char.isLower Char.isDigit at alphanumeric
    simpa [UInt32.le_iff_toNat_le, ← Char.toNat_val] using alphanumeric
  have each : forall code, code < 128 -> (Char.ofNat code).isAlphanum = true ->
      IsWord (Char.ofNat code) ∧ IsQuotable (Char.ofNat code) := by
    decide +kernel
  have facts := each c.toNat (by omega)
  rw [Char.ofNat_toNat] at facts
  exact facts alphanumeric

namespace IsVisible

variable {c : Char}

theorem notBreak (visible : IsVisible c) : isBreak c = false := by
  rw [← Bool.not_eq_true]
  intro breaks
  have ends : endsLine c = true := by
    simp only [isBreak, endsLine, Bool.or_eq_true] at breaks ⊢
    grind
  exact Bool.false_ne_true (visible.inLine.symm.trans ends)

theorem notEnd (visible : IsVisible c) : c ≠ endMark := by
  rintro rfl
  cases visible.allowed

theorem notSpace (visible : IsVisible c) : isSpace c = false := by
  rw [isSpace, isLineEnd, visible.notBlank, visible.notBreak, decide_eq_false visible.notEnd]
  rfl

end IsVisible

example : IsWord '_' ∧ forall c, c ∈ [':', '/', '.', '-'] -> IsQuotable c := by decide

theorem IsWord.ne_of_isIndicator {c : Char} (word : IsWord c) (sign : Char)
    (indicator : Scan.isIndicator sign = true) : c ≠ sign := by
  rintro rfl
  exact Bool.false_ne_true (word.noIndicator.symm.trans indicator)

/-! ## Cells -/

section

variable {line column : Nat} {c : Char} {rest : List Char}

theorem cellsFrom_newline :
    cellsFrom line column ('\n' :: rest) = ⟨'\n', line, column⟩ :: cellsFrom (line + 1) 0 rest :=
  rfl

theorem cellsFrom_cons (goesOn : endsLine c = false) :
    cellsFrom line column (c :: rest) = ⟨c, line, column⟩ :: cellsFrom line (column + 1) rest := by
  rw [cellsFrom, goesOn, if_neg Bool.false_ne_true]
  rintro more rfl
  cases goesOn

theorem cellsFrom_blank :
    cellsFrom line column (' ' :: rest) = ⟨' ', line, column⟩ :: cellsFrom line (column + 1) rest :=
  cellsFrom_cons rfl

theorem cellsFrom_colon :
    cellsFrom line column (':' :: rest) = ⟨':', line, column⟩ :: cellsFrom line (column + 1) rest :=
  cellsFrom_cons rfl

/-- What stands behind the colon of a key is space. -/
theorem isSpace_peek_of_between {next : Char} (between : next = '\n' ∨ next = ' ')
    (line column : Nat) (rest : List Char) :
    isSpace (peek (cellsFrom line column (next :: rest)) 0) = true := by
  rcases between with rfl | rfl
  · rfl
  · rw [cellsFrom_blank]
    rfl

/-- A text without carriage returns has a cell for each character and one more. -/
theorem length_cellsFrom {text : List Char} (single : '\r' ∉ text) (line column : Nat) :
    (cellsFrom line column text).length = text.length + 1 := by
  induction text generalizing line column with
  | nil => rfl
  | cons c rest inductionHypothesis =>
      have parts := List.ne_and_not_mem_of_not_mem_cons single
      rw [cellsFrom]
      · split
        · rw [List.length_cons, inductionHypothesis parts.2, List.length_cons]
        · rw [List.length_cons, inductionHypothesis parts.2, List.length_cons]
      · rintro more rfl
        exact absurd rfl parts.1

end

/-! ## Lines between documents -/

theorem startsMarker_of_char {mark : Char} {cell : Cell} (other : cell.char ≠ mark)
    (rest : List Cell) : startsMarker mark (cell :: rest) = false := by
  unfold startsMarker
  split
  · next same =>
    cases same
    simp [other]
  · rfl

/-- A line between documents starts in the first column only. -/
theorem startsDocumentMarker_of_column {cell : Cell} (inside : 0 < cell.column)
    (rest : List Cell) : startsDocumentMarker (cell :: rest) = false := by
  have off : cell.column ≠ 0 := by omega
  unfold startsDocumentMarker startsMarker
  split
  · next same =>
    cases same
    simp [off]
  · rfl

/-! ## Where a line opens -/

/-- The text is at its end, or goes on with a word. -/
def Opens (text : List Char) : Prop :=
  text = [] ∨ Exists fun c => Exists fun rest => text = c :: rest ∧ IsWord c

/-- What the first cell of a text that opens is like.  It is no space, it starts
no comment, and what stands before it is over. -/
structure IsFirst (c : Char) : Prop where
  notBlank : isBlank c = false
  notBreak : isBreak c = false
  noMark : c ≠ lineMark
  noComment : c ≠ '#'

theorem isFirst_colon : IsFirst ':' :=
  ⟨rfl, rfl, by decide, by decide⟩

theorem Opens.cells {text : List Char} (opens : Opens text) (line column : Nat) :
    Exists fun c => Exists fun rest =>
      cellsFrom line column text = ⟨c, line, column⟩ :: rest ∧ IsFirst c := by
  rcases opens with rfl | ⟨c, rest, rfl, word⟩
  · exact ⟨endMark, [], rfl, rfl, rfl, by decide, by decide⟩
  · exact ⟨c, _, cellsFrom_cons word.inLine, word.notBlank, word.notBreak, word.noMark,
      word.ne_of_isIndicator '#' rfl⟩

/-! ## Space between tokens -/

/-- A cell that is no space is where the skipping ends. -/
theorem skipSpace_of_isFirst {cell : Cell} (first : IsFirst cell.char) (keyAllowed : Bool)
    (rest : List Cell) :
    Scan.skipSpace false keyAllowed false (cell :: rest) = (keyAllowed, cell :: rest) := by
  have notSpace : cell.char ≠ ' ' ∧ cell.char ≠ '\t' := by
    have blank := first.notBlank
    rw [isBlank, Bool.or_eq_false_iff, decide_eq_false_iff_not, decide_eq_false_iff_not] at blank
    exact blank
  rw [Scan.skipSpace]
  simp [first.notBreak, notSpace.1, notSpace.2, first.noMark, first.noComment]

theorem skipSpace_of_opens {text : List Char} (opens : Opens text) (keyAllowed : Bool)
    (line column : Nat) :
    Scan.skipSpace false keyAllowed false (cellsFrom line column text) =
      (keyAllowed, cellsFrom line column text) := by
  rcases opens.cells line column with ⟨c, rest, cells, first⟩
  rw [cells]
  exact skipSpace_of_isFirst first keyAllowed rest

theorem skipSpace_blank (keyAllowed : Bool) (line column : Nat) (rest : List Char) :
    Scan.skipSpace false keyAllowed false (cellsFrom line column (' ' :: rest)) =
      Scan.skipSpace false keyAllowed false (cellsFrom line (column + 1) rest) := by
  rw [cellsFrom_blank, Scan.skipSpace]
  rfl

theorem skipSpace_blanks (keyAllowed : Bool) (line column count : Nat) (rest : List Char) :
    Scan.skipSpace false keyAllowed false
        (cellsFrom line column (List.replicate count ' ' ++ rest)) =
      Scan.skipSpace false keyAllowed false (cellsFrom line (column + count) rest) := by
  induction count generalizing column with
  | zero => rfl
  | succ fewer inductionHypothesis =>
      rw [List.replicate_succ, List.cons_append, skipSpace_blank, inductionHypothesis]
      congr 2
      omega

/-- Behind a line break and blanks a key may start. -/
theorem skipSpace_newline (keyAllowed : Bool) (line column count : Nat) {text : List Char}
    (opens : Opens text) :
    Scan.skipSpace false keyAllowed false
        (cellsFrom line column ('\n' :: (List.replicate count ' ' ++ text))) =
      (true, cellsFrom (line + 1) count text) := by
  rw [cellsFrom_newline, Scan.skipSpace]
  have breaks : isBreak '\n' = true := rfl
  rw [if_pos breaks, skipSpace_blanks, Nat.zero_add]
  exact skipSpace_of_opens opens _ _ _

/-! ## Scalars -/

namespace Plain

/-- A plain scalar goes on over the characters of a word. -/
theorem readFrom?_word {word : List Char} (words : forall c, c ∈ word -> IsWord c)
    (indent : Int) (line column : Nat) (rest reversed : List Char) :
    readFrom? false indent .empty reversed (cellsFrom line column (word ++ rest)) =
      readFrom? false indent .empty (word.reverse ++ reversed)
        (cellsFrom line (column + word.length) rest) := by
  induction word generalizing column reversed with
  | nil => rfl
  | cons c more inductionHypothesis =>
      have parts := List.forall_mem_cons.mp words
      have plain := parts.1
      have goesOn : endsAt false ⟨c, line, column⟩ (cellsFrom line (column + 1) (more ++ rest)) =
          false := by
        simp [endsAt, plain.notEnd, plain.ne_of_isIndicator ':' rfl]
      rw [List.cons_append, cellsFrom_cons plain.inLine, readFrom?]
      simp only [plain.notBlank, plain.notBreak, goesOn, endsAfter, Bool.false_and, Bool.or_false,
        Bool.false_eq_true, if_false, ne_eq, not_true_eq_false, decide_false]
      rw [Gap.folded, List.nil_append, inductionHypothesis parts.2, List.length_cons,
        List.reverse_cons, List.append_assoc, Nat.add_assoc, Nat.add_comm 1]
      rfl

/-- A key ends before its colon. -/
theorem readFrom?_key {word : List Char} (words : forall c, c ∈ word -> IsWord c)
    {next : Char} (between : next = '\n' ∨ next = ' ') (indent : Int) (line column : Nat)
    (rest : List Char) :
    readFrom? false indent .empty [] (cellsFrom line column (word ++ ':' :: next :: rest)) =
      some (word, false, cellsFrom line (column + word.length) (':' :: next :: rest)) := by
  rw [readFrom?_word words, List.append_nil, cellsFrom_colon, readFrom?,
    List.reverse_reverse]
  rcases between with rfl | rfl
  · rfl
  · rw [cellsFrom_blank]
    rfl

theorem endsAfter_breaks {indent : Int} {cell : Cell} (out : (cell.column : Int) < indent)
    (first : Option Char) (reversed : List Char) (rest : List Cell) :
    endsAfter false indent (.breaks first reversed) cell rest = true := by
  simp [endsAfter, out]

/-- Blanks behind a line break do not count for a plain scalar. -/
theorem readFrom?_blanks (indent : Int) (reversed : List Char) (line column count : Nat)
    (rest : List Char) :
    readFrom? false indent (.breaks (some '\n') []) reversed
        (cellsFrom line column (List.replicate count ' ' ++ rest)) =
      readFrom? false indent (.breaks (some '\n') []) reversed
        (cellsFrom line (column + count) rest) := by
  induction count generalizing column with
  | zero => rfl
  | succ fewer inductionHypothesis =>
      rw [List.replicate_succ, List.cons_append, cellsFrom_blank, readFrom?]
      have next := inductionHypothesis (column + 1)
      rw [Nat.add_assoc, Nat.add_comm 1] at next
      exact next

/-- A numeral ends before its line break, and the scalar with it if the next line
does not stand further in. -/
theorem readFrom?_numeral {digits : List Char} (words : forall c, c ∈ digits -> IsWord c)
    {indent : Int} {count : Nat} (out : (count : Int) < indent) {text : List Char}
    (opens : Opens text) (line column : Nat) :
    readFrom? false indent .empty []
        (cellsFrom line column (digits ++ '\n' :: (List.replicate count ' ' ++ text))) =
      some (digits, true, cellsFrom (line + 1) count text) := by
  rw [readFrom?_word words, List.append_nil, cellsFrom_newline, readFrom?]
  refine (readFrom?_blanks indent digits.reverse (line + 1) 0 count text).trans ?_
  rw [Nat.zero_add]
  rcases opens.cells (line + 1) count with ⟨c, rest, cells, first⟩
  rw [cells, readFrom?, first.notBlank, first.notBreak, endsAfter_breaks out,
    List.reverse_reverse]
  rfl

end Plain

namespace Quoted

/-- A text between double quotes ends at the second one. -/
theorem readFrom?_quoted {text : List Char} (quotable : forall c, c ∈ text -> IsQuotable c)
    (line : Nat) {column : Nat} (inside : 0 < column) (rest reversed : List Char) :
    readFrom? false (.text .empty) reversed (cellsFrom line column (text ++ '\x22' :: rest)) =
      some (reversed.reverse ++ text, cellsFrom line (column + text.length + 1) rest) := by
  induction text generalizing column reversed with
  | nil =>
      rw [List.nil_append, cellsFrom_cons (c := '\x22') rfl, readFrom?,
        startsDocumentMarker_of_column inside, List.append_nil]
      rfl
  | cons c more inductionHypothesis =>
      have parts := List.forall_mem_cons.mp quotable
      have quoted := parts.1
      rw [List.cons_append, cellsFrom_cons quoted.inLine, readFrom?,
        startsDocumentMarker_of_column inside]
      simp only [quoted.notEnd, quoted.notBlank, quoted.notBreak, quoted.notQuote,
        quoted.notEscape, Bool.or_false, Bool.false_and, Bool.not_false, Bool.true_and,
        decide_false, Bool.false_eq_true, if_false, Gap.folded, List.nil_append]
      rw [inductionHypothesis parts.2 (Nat.succ_pos column), List.reverse_cons, List.append_assoc,
        List.length_cons, Nat.add_assoc column 1, Nat.add_comm 1]
      rfl

end Quoted
end Yaml
end CardTable
